import TrustBoundary.Proofs.Text.DisplaySafe
import TrustBoundary.Proofs.Text.Utf8
import TrustBoundary.Text.Display

/-!
# Runs of displayable characters

A character is displayable if its code point lies in a range of the table, and a
byte string is displayable if it is the encoding of a list of such characters
(`IsDisplayable`).  The short way that the check takes for printable ASCII changes
nothing (`safeWidth_eq`), so it finds a character exactly if the encoding of a
displayable one comes next (`safeWidth_eq_ok_iff`).

Every byte string is a run of displayable characters with a rest behind it that
begins with none (`exists_run`).  No two displayable characters can come next, so
this run is the longest displayable front (`frontLength_eq`), and the first character
that is not displayable stands behind it (`frontLength_spec`).
-/

set_option autoImplicit false

namespace TrustBoundary.Display

/-- A character that lies in a range that is safe to display.  Printable ASCII is the first
of these ranges. -/
def Displayable (letter : Char) : Prop :=
  ∃ range ∈ CodeRange.displaySafe, range.contains letter.toNat

/-- The encodings of some characters, one after the other. -/
def encode (letters : List Char) : Bytes := letters.flatMap String.utf8EncodeChar

/-- A run of displayable characters, which may be empty. -/
def IsDisplayable (text : Bytes) : Prop :=
  ∃ letters, (∀ letter ∈ letters, Displayable letter) ∧ encode letters = text

/-- No displayable character comes next. -/
def Stuck (rest : Bytes) : Prop :=
  ∀ letter, Displayable letter → ¬String.utf8EncodeChar letter <+: rest

@[simp] theorem encode_cons (letter : Char) (letters : List Char) :
    encode (letter :: letters) = String.utf8EncodeChar letter ++ encode letters := List.flatMap_cons

/-! ## One character -/

/-- No control character is displayable. -/
theorem Displayable.graphic {letter : Char} (displayable : Displayable letter) :
    0x20 ≤ letter.toNat := by
  obtain ⟨range, member, holds⟩ := displayable
  exact Nat.le_trans (CodeRange.first_ge_of_mem member) (CodeRange.contains_iff.mp holds).1

/-- Printable ASCII is safe to display. -/
theorem isDisplaySafe_of_printable {codePoint : Nat} (graphic : 0x20 ≤ codePoint)
    (ascii : codePoint ≤ 0x7E) : isDisplaySafe codePoint :=
  isDisplaySafe_iff.mpr ⟨_, CodeRange.printable_mem, CodeRange.contains_iff.mpr ⟨graphic, ascii⟩⟩

/-- **Printable ASCII is treated like every other character.** -/
theorem safeWidth_eq (position : Nat) (rest : Bytes) : safeWidth position rest =
    match Utf8.decodeHead position rest with
    | .error cause => .error (.malformed position cause)
    | .ok (codePoint, width) =>
      if isDisplaySafe codePoint then .ok width
      else .error (.unsafeCodePoint codePoint position) := by
  unfold safeWidth
  split
  · rename_i printable
    cases rest with
    | nil => cases printable
    | cons byte others =>
        obtain ⟨graphic, ascii⟩ : 0x20 ≤ byte.toNat ∧ byte.toNat ≤ 0x7E := by
          simpa [isPrintable, Bytes.byteAt, UInt8.le_iff_toNat_le] using printable
        rw [Utf8.decodeHead_of_ascii others graphic (by omega)]
        exact (if_pos (isDisplaySafe_of_printable graphic ascii)).symm
  · rfl

/-- **A displayable character comes next** exactly if the check finds one. -/
theorem safeWidth_eq_ok_iff {position width : Nat} {rest : Bytes} :
    safeWidth position rest = .ok width ↔
      ∃ letter, Displayable letter ∧ String.utf8EncodeChar letter <+: rest ∧
        (String.utf8EncodeChar letter).length = width := by
  rw [safeWidth_eq]
  constructor
  · intro found
    split at found
    · cases found
    · rename_i codePoint width' decodes
      obtain ⟨letter, rfl, _, follow, rfl⟩ := Utf8.decodeHead_eq_ok_iff.mp decodes
      split at found
      · rename_i safe
        cases found
        exact ⟨letter, isDisplaySafe_iff.mp safe, follow, rfl⟩
      · cases found
  · rintro ⟨letter, displayable, ⟨others, rfl⟩, rfl⟩
    rw [Utf8.decodeHead_encode displayable.graphic]
    exact if_pos (isDisplaySafe_iff.mpr displayable)

/-- The check complains exactly where no displayable character comes next. -/
theorem safeWidth_fails_iff {position : Nat} {rest : Bytes} :
    (∃ objection, safeWidth position rest = .error objection) ↔ Stuck rest := by
  constructor
  · rintro ⟨objection, fails⟩ letter displayable follow
    rw [safeWidth_eq_ok_iff.mpr ⟨letter, displayable, follow, rfl⟩] at fails
    cases fails
  · intro stuck
    cases outcome : safeWidth position rest with
    | error objection => exact ⟨objection, rfl⟩
    | ok width =>
        obtain ⟨letter, displayable, follow, _⟩ := safeWidth_eq_ok_iff.mp outcome
        exact absurd follow (stuck letter displayable)

/-! ## Runs of characters -/

/-- Encodings are not empty. -/
theorem encode_ne_nil (letter : Char) : String.utf8EncodeChar letter ≠ [] := by
  rw [Utf8.utf8EncodeChar_eq]
  exact List.cons_ne_nil _ _

/-- In front of any rest, the check finds a displayable character with all its bytes. -/
theorem exists_safeWidth_encode {letter : Char} (displayable : Displayable letter) (position : Nat)
    (rest : Bytes) : ∃ first others, String.utf8EncodeChar letter = first :: others ∧
      safeWidth position (first :: (others ++ rest)) = .ok (others.length + 1) := by
  obtain ⟨first, others, encoded⟩ := List.exists_cons_of_ne_nil (encode_ne_nil letter)
  refine ⟨first, others, encoded, safeWidth_eq_ok_iff.mpr ⟨letter, displayable, ?_, ?_⟩⟩
  · rw [encoded]
    exact List.prefix_append (first :: others) rest
  · rw [encoded, List.length_cons]

/-- Every byte string is a run of displayable characters and a rest that begins with none. -/
theorem exists_run (text : Bytes) : ∃ letters rest, (∀ letter ∈ letters, Displayable letter) ∧
    text = encode letters ++ rest ∧ Stuck rest := by
  induction length : text.length using Nat.strongRecOn generalizing text with
  | ind count ih =>
      by_cases stuck : Stuck text
      · exact ⟨[], text, List.forall_mem_nil _, rfl, stuck⟩
      · obtain ⟨letter, displayable, others, rfl⟩ : ∃ letter, Displayable letter ∧
            String.utf8EncodeChar letter <+: text := by
          simpa [Stuck] using stuck
        have positive := List.length_pos_iff.mpr (encode_ne_nil letter)
        rw [List.length_append] at length
        obtain ⟨letters, rest, all, rfl, stuckRest⟩ := ih _ (by omega) others rfl
        refine ⟨letter :: letters, rest, List.forall_mem_cons.mpr ⟨displayable, all⟩, ?_, stuckRest⟩
        rw [encode_cons, List.append_assoc]

/-- A displayable front does not reach into the rest. -/
theorem prefix_run {letters others : List Char} {rest : Bytes}
    (all : ∀ letter ∈ letters, Displayable letter) (stuck : Stuck rest)
    (othersAll : ∀ letter ∈ others, Displayable letter)
    (front : encode others <+: encode letters ++ rest) : encode others <+: encode letters := by
  induction others generalizing letters with
  | nil => exact List.nil_prefix
  | cons other others ih =>
      obtain ⟨otherDisplayable, othersAll⟩ := List.forall_mem_cons.mp othersAll
      rw [encode_cons] at front ⊢
      have comesNext := (List.prefix_append _ _).trans front
      cases letters with
      | nil => exact absurd comesNext (stuck other otherDisplayable)
      | cons letter letters =>
          obtain ⟨displayable, lettersAll⟩ := List.forall_mem_cons.mp all
          rw [encode_cons] at front comesNext ⊢
          rw [List.append_assoc] at front comesNext
          obtain rfl := Utf8.eq_of_encode_prefix otherDisplayable.graphic displayable.graphic
            comesNext (List.prefix_append _ _)
          exact (List.prefix_append_right_inj _).mpr
            (ih lettersAll othersAll ((List.prefix_append_right_inj _).mp front))

/-- A run that is followed by a rest is displayable exactly if this rest is empty. -/
theorem isDisplayable_run_iff {letters : List Char} {rest : Bytes}
    (all : ∀ letter ∈ letters, Displayable letter) (stuck : Stuck rest) :
    IsDisplayable (encode letters ++ rest) ↔ rest = [] := by
  constructor
  · rintro ⟨others, othersAll, whole⟩
    have front : encode others <+: encode letters :=
      prefix_run all stuck othersAll (whole ▸ List.prefix_refl _)
    rw [whole] at front
    have bound := front.length_le
    rw [List.length_append] at bound
    exact List.length_eq_zero_iff.mp (by omega)
  · rintro rfl
    exact ⟨letters, all, (List.append_nil _).symm⟩

/-! ## Checking a run -/

/-- The check passes over a displayable character. -/
theorem checkRun_encode_append {position : Nat} {letter : Char} (displayable : Displayable letter)
    (rest : Bytes) : checkRun position (String.utf8EncodeChar letter ++ rest) =
      checkRun (position + (String.utf8EncodeChar letter).length) rest := by
  obtain ⟨first, others, encoded, safe⟩ := exists_safeWidth_encode displayable position rest
  rw [encoded, List.cons_append, checkRun, safe]
  dsimp only
  rw [Nat.add_sub_cancel, List.drop_left, List.length_cons]

/-- The check passes over a printable character. -/
theorem checkRun_printable {position : Nat} {byte : UInt8} (printable : isPrintable byte)
    (rest : Bytes) : checkRun position (byte :: rest) = checkRun (position + 1) rest := by
  have safe : safeWidth position (byte :: rest) = .ok 1 := if_pos printable
  rw [checkRun, safe]
  rfl

/-- The check passes over a run of displayable characters. -/
theorem checkRun_append {position : Nat} {letters : List Char}
    (all : ∀ letter ∈ letters, Displayable letter) (rest : Bytes) :
    checkRun position (encode letters ++ rest) =
      checkRun (position + (encode letters).length) rest := by
  induction letters generalizing position with
  | nil => rfl
  | cons letter letters ih =>
      obtain ⟨displayable, all⟩ := List.forall_mem_cons.mp all
      rw [encode_cons, List.append_assoc, checkRun_encode_append displayable, ih all,
        List.length_append, Nat.add_assoc]

/-- The check objects to a rest that begins with no displayable character, unless it is
empty. -/
theorem exists_checkRun_of_stuck {position : Nat} {rest : Bytes} (some : rest ≠ [])
    (stuck : Stuck rest) : ∃ objection, safeWidth position rest = .error objection ∧
      checkRun position rest = .error objection := by
  obtain ⟨first, others, rfl⟩ := List.exists_cons_of_ne_nil some
  obtain ⟨objection, fails⟩ := safeWidth_fails_iff.mpr stuck
  refine ⟨objection, fails, ?_⟩
  rw [checkRun, fails]

/-- **The check passes exactly for runs of displayable characters.** -/
theorem checkRun_eq_ok_iff {position : Nat} {text : Bytes} :
    checkRun position text = .ok () ↔ IsDisplayable text := by
  obtain ⟨letters, rest, all, rfl, stuck⟩ := exists_run text
  rw [checkRun_append all, isDisplayable_run_iff all stuck]
  cases rest with
  | nil =>
      rw [checkRun]
      exact iff_of_true rfl rfl
  | cons first others =>
      obtain ⟨objection, _, objects⟩ := exists_checkRun_of_stuck (List.cons_ne_nil _ _) stuck
      rw [objects]
      refine iff_of_false ?_ (List.cons_ne_nil _ _)
      intro impossible
      cases impossible

instance : DecidablePred IsDisplayable := fun text =>
  match outcome : checkRun 0 text with
  | .ok () => isTrue (checkRun_eq_ok_iff.mp outcome)
  | .error _ => isFalse fun displayable =>
      nomatch outcome.symm.trans (checkRun_eq_ok_iff.mpr displayable)

/-! ## The longest displayable front -/

/-- The length of the longest displayable front with at most `count` bytes. -/
def frontWithin (text : Bytes) : Nat → Nat
  | 0 => 0
  | count + 1 => if IsDisplayable (text.take (count + 1)) then count + 1 else frontWithin text count

/-- The length of the longest displayable front, which is where the first character stands
that is not displayable. -/
def frontLength (text : Bytes) : Nat := frontWithin text text.length

/-- The front is displayable, and no other front with at most `count` bytes that is
displayable is longer. -/
theorem frontWithin_spec (text : Bytes) (count : Nat) :
    frontWithin text count ≤ count ∧ IsDisplayable (text.take (frontWithin text count)) ∧
      ∀ other ≤ count, IsDisplayable (text.take other) → other ≤ frontWithin text count := by
  induction count with
  | zero => exact ⟨Nat.le_refl _, ⟨[], List.forall_mem_nil _, rfl⟩, fun other least _ => least⟩
  | succ count ih =>
      rw [frontWithin]
      split
      · rename_i displayable
        exact ⟨Nat.le_refl _, displayable, fun other atMost _ => atMost⟩
      · rename_i notDisplayable
        obtain ⟨atMost, front, greatest⟩ := ih
        refine ⟨Nat.le_succ_of_le atMost, front, fun other below displayable => ?_⟩
        have shorter : other ≠ count + 1 := fun same => notDisplayable (same ▸ displayable)
        exact greatest other (by omega) displayable

/-- **The longest displayable front** of a run with a rest that begins with no displayable
character is this run. -/
theorem frontLength_eq {letters : List Char} {rest : Bytes}
    (all : ∀ letter ∈ letters, Displayable letter) (stuck : Stuck rest) :
    frontLength (encode letters ++ rest) = (encode letters).length := by
  obtain ⟨inside, ⟨others, othersAll, front⟩, greatest⟩ :=
    frontWithin_spec (encode letters ++ rest) (encode letters ++ rest).length
  apply Nat.le_antisymm
  · have within := prefix_run all stuck othersAll (front ▸ List.take_prefix _ _)
    have bound := within.length_le
    rw [front, List.length_take, Nat.min_eq_left inside] at bound
    exact bound
  · refine greatest _ ?_ ⟨letters, all, List.take_left.symm⟩
    rw [List.length_append]
    exact Nat.le_add_right _ _

/-- **The first character that is not displayable** stands where the longest displayable
front ends. -/
theorem frontLength_spec (text : Bytes) :
    IsDisplayable (text.take (frontLength text)) ∧ Stuck (text.drop (frontLength text)) := by
  obtain ⟨letters, rest, all, rfl, stuck⟩ := exists_run text
  rw [frontLength_eq all stuck, List.take_left, List.drop_left]
  exact ⟨⟨letters, all, rfl⟩, stuck⟩

end TrustBoundary.Display

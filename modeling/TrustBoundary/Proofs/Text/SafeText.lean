import Mathlib.Control.Monad.Basic
import TrustBoundary.Proofs.Text.Display
import TrustBoundary.Proofs.Text.Shortest

/-!
# The check for display and lists of code points

A text is the encoding of a list of code points if it consists of the shortest forms of
these, one after the other (`EncodesAll`).  All code points of the table are characters
(`isScalar_of_safe`), so the texts of safe code points are the encodings of displayable
characters (`isDisplayable_iff`).

The check accepts exactly the texts of safe code points, other than the empty one.  The
position at which it objects is the end of the longest front of this kind, and no safe code
point is encoded there (`check_is_exact`).
-/

set_option autoImplicit false

namespace TrustBoundary.Display

open Utf8 (IsScalar Shortest shortest_iff isScalar_iff)

/-- A code point that lies in a range that is safe to display. -/
def Safe (codePoint : Nat) : Prop :=
  ∃ range ∈ CodeRange.displaySafe, range.contains codePoint

/-- A text that consists of the shortest forms of some code points, in their order. -/
inductive EncodesAll : (codePoints : List Nat) → (text : Bytes) → Prop where
  | nil : EncodesAll [] []
  | cons {codePoint : Nat} {bytes : Bytes} {codePoints : List Nat} {text : Bytes}
      (first : Shortest codePoint bytes) (others : EncodesAll codePoints text) :
      EncodesAll (codePoint :: codePoints) (bytes ++ text)

/-- The empty list, and no other, is encoded by the empty text. -/
theorem EncodesAll.eq_nil_iff {codePoints : List Nat} {text : Bytes}
    (encodes : EncodesAll codePoints text) : codePoints = [] ↔ text = [] := by
  cases encodes with
  | nil => exact iff_of_true rfl rfl
  | cons first others =>
      refine iff_of_false (List.cons_ne_nil _ _) fun empty => ?_
      exact first.form.ne_nil (List.append_eq_nil_iff.mp empty).1

/-- All code points that are safe to display are characters. -/
theorem isScalar_of_safe {codePoint : Nat} (safe : Safe codePoint) : IsScalar codePoint := by
  obtain ⟨range, member, holds⟩ := safe
  have apart : ∀ range ∈ CodeRange.displaySafe.toList,
      range.last ≤ 0x10FFFF ∧ (range.last < 0xD800 ∨ 0xDFFF < range.first) := by decide +kernel
  have within := CodeRange.contains_iff.mp holds
  have scalar := apart range (Array.mem_toList_iff.mpr member)
  unfold IsScalar
  omega

/-- The texts of safe code points are the encodings of displayable characters. -/
theorem exists_letters_iff {codePoints : List Nat} {text : Bytes} :
    (∀ codePoint ∈ codePoints, Safe codePoint) ∧ EncodesAll codePoints text ↔
      ∃ letters, (∀ letter ∈ letters, Displayable letter) ∧ encode letters = text ∧
        letters.map Char.toNat = codePoints := by
  constructor
  · rintro ⟨safe, encodes⟩
    induction encodes with
    | nil => exact ⟨[], List.forall_mem_nil _, rfl, rfl⟩
    | cons first _ ih =>
        obtain ⟨firstSafe, othersSafe⟩ := List.forall_mem_cons.mp safe
        obtain ⟨letters, all, rfl, rfl⟩ := ih othersSafe
        obtain ⟨letter, rfl⟩ := isScalar_iff.mp (isScalar_of_safe firstSafe)
        obtain rfl := shortest_iff.mp first
        exact ⟨letter :: letters, List.forall_mem_cons.mpr ⟨firstSafe, all⟩, encode_cons _ _, rfl⟩
  · rintro ⟨letters, all, rfl, rfl⟩
    induction letters with
    | nil => exact ⟨List.forall_mem_nil _, .nil⟩
    | cons letter letters ih =>
        obtain ⟨displayable, all⟩ := List.forall_mem_cons.mp all
        obtain ⟨safe, encodes⟩ := ih all
        refine ⟨List.forall_mem_cons.mpr ⟨displayable, safe⟩, ?_⟩
        rw [encode_cons]
        exact .cons (shortest_iff.mpr rfl) encodes

/-- **A run of displayable characters** is the text of a list of safe code points. -/
theorem isDisplayable_iff {text : Bytes} : IsDisplayable text ↔
    ∃ codePoints, (∀ codePoint ∈ codePoints, Safe codePoint) ∧ EncodesAll codePoints text := by
  constructor
  · rintro ⟨letters, all, same⟩
    exact ⟨_, exists_letters_iff.mpr ⟨letters, all, same, rfl⟩⟩
  · rintro ⟨codePoints, text⟩
    obtain ⟨letters, all, same, _⟩ := exists_letters_iff.mp text
    exact ⟨letters, all, same⟩

/-- Where no displayable character comes next, no safe code point is encoded. -/
theorem Stuck.not_prefix {codePoint : Nat} {bytes rest : Bytes} (stuck : Stuck rest)
    (safe : Safe codePoint) (shortest : Shortest codePoint bytes) : ¬bytes <+: rest := by
  obtain ⟨letter, rfl⟩ := isScalar_iff.mp (isScalar_of_safe safe)
  obtain rfl := shortest_iff.mp shortest
  exact stuck letter safe

/-! ## The position of an objection -/

/-- An objection to the characters of a text, with where it was raised. -/
def Objection.IsAt (objection : Objection) (position : Nat) : Prop :=
  (∃ cause, objection = .malformed position cause) ∨
    ∃ codePoint, objection = .unsafeCodePoint codePoint position

/-- An objection to the next character is raised at this character. -/
theorem isAt_of_safeWidth {position : Nat} {rest : Bytes} {objection : Objection}
    (fails : safeWidth position rest = .error objection) : objection.IsAt position := by
  rw [safeWidth_eq] at fails
  split at fails
  · rename_i cause _
    cases fails
    exact .inl ⟨cause, rfl⟩
  · rename_i codePoint _ _
    split at fails
    · cases fails
    · cases fails
      exact .inr ⟨codePoint, rfl⟩

/-- There is one position at which an objection is raised. -/
theorem Objection.IsAt.unique {objection : Objection} {position other : Nat}
    (raised : objection.IsAt position) (again : objection.IsAt other) : other = position := by
  rcases raised with ⟨cause, rfl⟩ | ⟨codePoint, rfl⟩
  all_goals
    obtain ⟨_, same⟩ | ⟨_, same⟩ := again <;> cases same
    rfl

/-- The check walks over the text, unless this is empty. -/
theorem check_of_text {untrusted : Bytes} (some : untrusted.untilNul ≠ []) :
    check untrusted 0 = checkRun 0 untrusted.untilNul := by
  obtain ⟨first, others, text⟩ := List.exists_cons_of_ne_nil some
  simp only [check, ne_eq, not_true_eq_false, if_false, text]

/-- Without a text, the check objects to that. -/
theorem check_of_empty {untrusted : Bytes} (none : untrusted.untilNul = []) :
    check untrusted 0 = .error .empty := by
  simp only [check, ne_eq, not_true_eq_false, if_false, none]

/-- The check passes exactly for the texts of safe code points, other than the empty one. -/
theorem check_eq_ok_iff {untrusted : Bytes} : check untrusted 0 = .ok () ↔
    ∃ codePoints, codePoints ≠ [] ∧ (∀ codePoint ∈ codePoints, Safe codePoint) ∧
      EncodesAll codePoints untrusted.untilNul := by
  by_cases none : untrusted.untilNul = []
  · rw [check_of_empty none, none]
    refine iff_of_false (fun impossible => nomatch impossible) ?_
    rintro ⟨codePoints, some, _, encodes⟩
    exact some (encodes.eq_nil_iff.mpr rfl)
  · rw [check_of_text none, checkRun_eq_ok_iff, isDisplayable_iff]
    constructor
    · rintro ⟨codePoints, safe, encodes⟩
      exact ⟨codePoints, fun empty => none (encodes.eq_nil_iff.mp empty), safe, encodes⟩
    · rintro ⟨codePoints, _, safe, encodes⟩
      exact ⟨codePoints, safe, encodes⟩

/-- An objection at a position is raised behind a run of displayable characters, where none
comes next. -/
theorem exists_run_of_objection {untrusted : Bytes} {objection : Objection} {position : Nat}
    (fails : check untrusted 0 = .error objection) (raised : objection.IsAt position) :
    ∃ front rest, untrusted.untilNul = front ++ rest ∧ front.length = position ∧
      IsDisplayable front ∧ rest ≠ [] ∧ Stuck rest := by
  by_cases none : untrusted.untilNul = []
  · rw [check_of_empty none] at fails
    cases fails
    obtain ⟨_, impossible⟩ | ⟨_, impossible⟩ := raised <;> cases impossible
  · obtain ⟨letters, rest, all, text, stuck⟩ := exists_run untrusted.untilNul
    rw [check_of_text none, text, checkRun_append all, Nat.zero_add] at fails
    have some : rest ≠ [] := by
      rintro rfl
      rw [checkRun] at fails
      cases fails
    obtain ⟨_, refused, objects⟩ := exists_checkRun_of_stuck some stuck
    cases objects.symm.trans fails
    exact ⟨encode letters, rest, text, raised.unique (isAt_of_safeWidth refused),
      ⟨letters, all, rfl⟩, some, stuck⟩

/-- **The check is exact.**  It passes exactly for the text of a list of safe code points that
is not empty.  If it objects at a position, then the text in front of this position is that of
a list of safe code points, and no encoding of a safe code point comes next. -/
theorem check_is_exact (untrusted : Bytes) :
    (check untrusted 0 = .ok () ↔ ∃ codePoints, codePoints ≠ [] ∧
      (∀ codePoint ∈ codePoints, Safe codePoint) ∧ EncodesAll codePoints untrusted.untilNul) ∧
    ∀ objection position, check untrusted 0 = .error objection → objection.IsAt position →
      position < untrusted.untilNul.length ∧
      (∃ codePoints, (∀ codePoint ∈ codePoints, Safe codePoint) ∧
        EncodesAll codePoints (untrusted.untilNul.take position)) ∧
      ∀ codePoint bytes, Safe codePoint → Shortest codePoint bytes →
        ¬bytes <+: untrusted.untilNul.drop position := by
  refine ⟨check_eq_ok_iff, fun objection position fails raised => ?_⟩
  obtain ⟨front, rest, text, rfl, displayable, some, stuck⟩ := exists_run_of_objection fails raised
  rw [text, List.take_left, List.drop_left, List.length_append]
  exact ⟨Nat.lt_add_of_pos_right (List.length_pos_iff.mpr some), isDisplayable_iff.mp displayable,
    fun codePoint bytes safe shortest => stuck.not_prefix safe shortest⟩

/-- A delete character behind a letter is objected to at its position. -/
theorem check_is_exact_delete :
    check [0x41, 0x7F, 0x00, 0x80] 0 = .error (.unsafeCodePoint 0x7F 1) ∧
    (∃ codePoints, (∀ codePoint ∈ codePoints, Safe codePoint) ∧ EncodesAll codePoints [0x41]) ∧
    ∀ codePoint bytes, Safe codePoint → Shortest codePoint bytes → ¬bytes <+: [0x7F] := by
  have objects : check [0x41, 0x7F, 0x00, 0x80] 0 = .error (.unsafeCodePoint 0x7F 1) := by
    decide +kernel
  obtain ⟨_, front, wrong⟩ :=
    (check_is_exact [0x41, 0x7F, 0x00, 0x80]).2 _ 1 objects (.inr ⟨0x7F, rfl⟩)
  exact ⟨objects, front, wrong⟩

end TrustBoundary.Display

import Mathlib.Control.Monad.Basic
import Mathlib.Data.List.TakeWhile
import TrustBoundary.Proofs.Path.Splitting

/-!
# Relaxed rules

The rules of a caller may be relaxed, and more steps to the parent may be granted.  Either
only ever lets more paths pass: a path that was accepted stays so, and counts as many names
as before (`Counts.mono`).  The number matters, since it is the budget of a symbolic link.

What passes where paths need not be canonical is what is canonical without the segments that
lead nowhere (`counts_nonCanonical_iff`).  Such segments change no count, whether they are
passed over or were never there, so cleaning up a path and then checking it strictly gives
what the relaxed check gives (`relaxing_keeps_and_cleaning_agrees`).  A path that is nothing
but such segments is the exception: cleaned up it is empty, which the strict rules refuse.
-/

set_option autoImplicit false

namespace TrustBoundary

/-! ## Text without a NUL -/

namespace Bytes

theorem nul_not_mem_untilNul (bytes : Bytes) : 0 ∉ bytes.untilNul := by
  intro member
  have notNul := List.all_eq_true.mp List.all_takeWhile 0 member
  exact absurd notNul (by decide)

/-- A byte string without a NUL is its own text. -/
theorem untilNul_of_not_mem {bytes : Bytes} (noNul : 0 ∉ bytes) : bytes.untilNul = bytes := by
  refine List.takeWhile_eq_self_iff.mpr fun byte member => decide_eq_true ?_
  rintro rfl
  exact noNul member

end Bytes

namespace Path

/-! ## More that is allowed -/

/-- All that is allowed by the first rules is allowed by the second. -/
structure Rules.Within (rules relaxed : Rules) : Prop where
  empty : rules.allowEmpty → relaxed.allowEmpty
  nonCanonical : rules.allowNonCanonical → relaxed.allowNonCanonical
  trailingSlash : rules.allowTrailingSlash → relaxed.allowTrailingSlash

instance : LE Rules := ⟨Rules.Within⟩

variable {rules relaxed : Rules} {budget granted names count : Nat} {parts : List Bytes}

/-- **Relaxed rules and a greater budget keep the count of a path.** -/
theorem Counts.mono (weaker : rules ≤ relaxed) (counts : Counts rules budget names parts count)
    (enough : budget ≤ granted) : Counts relaxed granted names parts count := by
  induction counts generalizing granted with
  | done => exact .done
  | closing allowed => exact .closing (weaker.trailingSlash allowed)
  | skipped allowed idle further ih => exact .skipped (weaker.nonCanonical allowed) idle (ih enough)
  | climbed further ih =>
      obtain ⟨more, rfl⟩ := Nat.exists_eq_succ_of_ne_zero (Nat.ne_zero_of_lt enough)
      exact .climbed (ih (Nat.le_of_succ_le_succ enough))
  | named proper displayable further ih => exact .named proper displayable (ih enough)

/-- They accept what was accepted. -/
theorem check_mono (weaker : rules ≤ relaxed) (enough : budget ≤ granted) {untrusted : Bytes}
    (accepted : check untrusted budget rules = .ok count) :
    check untrusted granted relaxed = .ok count := by
  rw [check_eq_ok_iff] at accepted ⊢
  rcases accepted with ⟨empty, allowed, none⟩ | ⟨some, relative, counts⟩
  · exact .inl ⟨empty, weaker.empty allowed, none⟩
  · exact .inr ⟨some, relative, counts.mono weaker enough⟩

theorem checkFileName_mono (weaker : rules ≤ relaxed) {untrusted : Bytes}
    (accepted : checkFileName untrusted rules = .ok ()) :
    checkFileName untrusted relaxed = .ok () := by
  obtain ⟨count, checked, named⟩ := checkFileName_eq_ok_iff.mp accepted
  exact checkFileName_eq_ok_iff.mpr
    ⟨count, check_mono weaker (Nat.le_refl _) checked, fun none => weaker.empty (named none)⟩

/-- The rules for the target of a link are relaxed with those for its name. -/
theorem targetRules_mono (weaker : rules ≤ relaxed) :
    { rules with allowEmpty := false, allowTrailingSlash := true } ≤
      { relaxed with allowEmpty := false, allowTrailingSlash := true } :=
  ⟨id, weaker.nonCanonical, id⟩

/-- The depth of the name stays as it was, so the target keeps its budget. -/
theorem checkSymbolicLink_mono (weaker : rules ≤ relaxed) {name target : Bytes}
    (accepted : checkSymbolicLink name target rules = .ok ()) :
    checkSymbolicLink name target relaxed = .ok () := by
  obtain ⟨depth, count, named, deep, targeted⟩ := checkSymbolicLink_eq_ok_iff.mp accepted
  have stillNamed := check_mono weaker (Nat.le_refl _) named
  have stillTargeted := check_mono (targetRules_mono weaker) (Nat.le_refl _) targeted
  exact checkSymbolicLink_eq_ok_iff.mpr ⟨depth, count, stillNamed, deep, stillTargeted⟩

/-! ## Cleaning up -/

/-- The rules that accept empty segments and dots, and relax nothing else. -/
def Rules.nonCanonical : Rules := ⟨false, true, false⟩

/-- A text without the segments that lead nowhere. -/
def cleaned (text : Bytes) : Bytes := [0x2F].intercalate ((text.splitOn 0x2F).filter leads)

/-- **Where paths need not be canonical**, the segments that lead nowhere count for nothing. -/
theorem counts_nonCanonical_iff : Counts .nonCanonical budget names parts count ↔
    Counts .strict budget names (parts.filter leads) count := by
  constructor
  · intro counts
    induction counts with
    | done => exact .done
    | closing allowed => cases allowed
    | skipped _ idle _ ih =>
        rw [List.filter_cons_of_neg (by rw [idle]; decide)]
        exact ih
    | climbed _ ih => exact .climbed ih
    | named proper displayable _ ih =>
        have leading : leads _ := (Bool.and_eq_true_iff.mp proper).1
        rw [List.filter_cons_of_pos leading]
        exact .named proper displayable ih
  · intro counts
    induction parts generalizing budget names with
    | nil =>
        cases counts
        exact .done
    | cons segment others ih =>
        by_cases leading : leads segment
        · rw [List.filter_cons_of_pos leading] at counts
          generalize kept : others.filter leads = rest at counts
          cases counts with
          | closing allowed => cases allowed
          | skipped allowed => cases allowed
          | climbed further => exact .climbed (ih (kept ▸ further))
          | named proper displayable further =>
            exact .named proper displayable (ih (kept ▸ further))
        · rw [List.filter_cons_of_neg leading] at counts
          exact .skipped rfl (Bool.eq_false_iff.mpr leading) (ih counts)

/-- A byte of joined parts is a slash or a byte of one of them. -/
theorem mem_of_mem_intercalate {byte : UInt8} (member : byte ∈ [0x2F].intercalate parts) :
    byte = 0x2F ∨ ∃ part ∈ parts, byte ∈ part := by
  induction parts with
  | nil => cases member
  | cons part others ih =>
      by_cases last : others = []
      · rw [last, List.intercalate_singleton] at member
        exact .inr ⟨part, List.mem_cons_self, member⟩
      · rw [List.intercalate_cons_of_ne_nil last, List.append_assoc, List.mem_append,
          List.mem_append, List.mem_singleton] at member
        rcases member with here | slash | later
        · exact .inr ⟨part, List.mem_cons_self, here⟩
        · exact .inl slash
        · refine (ih later).imp_right ?_
          rintro ⟨other, among, inside⟩
          exact ⟨other, List.mem_cons_of_mem _ among, inside⟩

/-- Joined parts begin with the first byte of the first one, which is no slash. -/
theorem exists_intercalate_eq_cons {first : Bytes} (nonempty : first ≠ []) (clean : 0x2F ∉ first)
    (others : List Bytes) : ∃ byte rest, [0x2F].intercalate (first :: others) = byte :: rest ∧
      byte ≠ 0x2F := by
  obtain ⟨byte, rest, rfl⟩ := List.exists_cons_of_ne_nil nonempty
  have notSlash : byte ≠ 0x2F := fun same => clean (same ▸ List.mem_cons_self)
  by_cases last : others = []
  · exact ⟨byte, rest, by rw [last, List.intercalate_singleton], notSlash⟩
  · rw [List.intercalate_cons_of_ne_nil last, List.append_assoc, List.cons_append]
    exact ⟨byte, _, rfl, notSlash⟩

/-- A part that keeps its place when parts are joined: it is not empty, no slash splits it, and
no NUL ends the text in it. -/
structure Joinable (part : Bytes) : Prop where
  nonempty : part ≠ []
  no_slash : 0x2F ∉ part
  no_nul : 0 ∉ part

/-- What is joined by slashes is accepted for what its parts count. -/
theorem check_intercalate {first : Bytes} {others : List Bytes}
    (joinable : ∀ part ∈ first :: others, Joinable part) :
    check ([0x2F].intercalate (first :: others)) budget rules = .ok count ↔
      Counts rules budget 0 (first :: others) count := by
  obtain ⟨startsFirst, _⟩ := List.forall_mem_cons.mp joinable
  obtain ⟨byte, rest, joined, notSlash⟩ :=
    exists_intercalate_eq_cons startsFirst.nonempty startsFirst.no_slash others
  have split : segments ([0x2F].intercalate (first :: others)) = first :: others := by
    rw [segments_eq_splitOn]
    exact List.splitOn_intercalate _ (fun part member => (joinable part member).no_slash)
      (List.cons_ne_nil _ _)
  have text : Bytes.untilNul ([0x2F].intercalate (first :: others)) =
      [0x2F].intercalate (first :: others) := by
    refine Bytes.untilNul_of_not_mem fun nul => ?_
    rcases mem_of_mem_intercalate nul with impossible | ⟨part, member, inside⟩
    · cases impossible
    · exact (joinable part member).no_nul inside
  rw [check_eq_ok_iff, text, split, joined]
  simp [notSlash]

/-- The segments of a text that lead anywhere are parts that can be joined again. -/
theorem joinable_of_mem_filter {untrusted part : Bytes}
    (member : part ∈ (segments untrusted.untilNul).filter leads) : Joinable part := by
  obtain ⟨among, leading⟩ := List.mem_filter.mp member
  refine ⟨?_, fun slash => (mem_of_mem_segment among slash).2 rfl, fun nul => ?_⟩
  · rintro rfl
    cases leading
  · exact Bytes.nul_not_mem_untilNul _ (mem_of_mem_segment among nul).1

/-- **A relaxed check is a strict check of the cleaned text.**  If nothing is left of it, there
are no names. -/
theorem check_nonCanonical_iff {untrusted : Bytes} (nonempty : untrusted.untilNul ≠ [])
    (relative : untrusted.untilNul.head? ≠ some 0x2F) :
    check untrusted budget .nonCanonical = .ok count ↔
      (cleaned untrusted.untilNul = [] ∧ count = 0) ∨
        check (cleaned untrusted.untilNul) budget .strict = .ok count := by
  have counted : check untrusted budget .nonCanonical = .ok count ↔
      Counts .strict budget 0 ((segments untrusted.untilNul).filter leads) count := by
    rw [check_eq_ok_iff, counts_nonCanonical_iff]
    simp [nonempty, relative]
  rw [counted, cleaned, ← segments_eq_splitOn]
  cases kept : (segments untrusted.untilNul).filter leads with
  | nil =>
      have refused : check [] budget .strict ≠ .ok count := by
        intro impossible
        cases impossible
      rw [List.intercalate_nil, or_iff_left refused, and_iff_right rfl]
      constructor
      · intro counts
        cases counts
        rfl
      · rintro rfl
        exact .done
  | cons first others =>
      have joinable : ∀ part ∈ first :: others, Joinable part :=
        fun part member => joinable_of_mem_filter (kept ▸ member)
      obtain ⟨startsFirst, _⟩ := List.forall_mem_cons.mp joinable
      obtain ⟨byte, rest, joined, _⟩ :=
        exists_intercalate_eq_cons startsFirst.nonempty startsFirst.no_slash others
      have something : [0x2F].intercalate (first :: others) ≠ [] := by
        rw [joined]
        exact List.cons_ne_nil _ _
      rw [or_iff_right fun nothing => something nothing.1, check_intercalate joinable]

/-! ## Both together -/

/-- **Relaxing only ever lets more pass, and what need not be canonical is cleaned up.**  A path
that is accepted counts the same under relaxed rules and with a greater budget, and file names
and symbolic links stay accepted.  A path that need not be canonical is accepted for what its
text counts under the strictest rules once it is cleaned up, and without a name if that leaves
nothing. -/
theorem relaxing_keeps_and_cleaning_agrees (weaker : rules ≤ relaxed) (enough : budget ≤ granted)
    (untrusted : Bytes) :
    (∀ count, check untrusted budget rules = .ok count →
      check untrusted granted relaxed = .ok count) ∧
    (checkFileName untrusted rules = .ok () → checkFileName untrusted relaxed = .ok ()) ∧
    (∀ target, checkSymbolicLink untrusted target rules = .ok () →
      checkSymbolicLink untrusted target relaxed = .ok ()) ∧
    (untrusted.untilNul ≠ [] → untrusted.untilNul.head? ≠ some 0x2F → ∀ count,
      (check untrusted.untilNul budget .nonCanonical = .ok count ↔
        (cleaned untrusted.untilNul = [] ∧ count = 0) ∨
          check (cleaned untrusted.untilNul) budget .strict = .ok count)) := by
  refine ⟨fun count => check_mono weaker enough, checkFileName_mono weaker,
    fun target => checkSymbolicLink_mono weaker, fun nonempty relative count => ?_⟩
  have text : untrusted.untilNul.untilNul = untrusted.untilNul :=
    Bytes.untilNul_of_not_mem (Bytes.nul_not_mem_untilNul untrusted)
  rw [← text] at nonempty relative
  have agrees : check untrusted.untilNul budget .nonCanonical = .ok count ↔ _ :=
    check_nonCanonical_iff nonempty relative
  rwa [text] at agrees

/-- A name with an empty segment, a dot and a slash at the end, and a NUL behind it. -/
def untidyName : Bytes := Bytes.ofText "a//./b/c/" ++ 0 :: Bytes.ofText "/.."

/-- Cleaned up it has the three names that it counts, and it may be the name of a link. -/
theorem untidyName_is_cleaned :
    Rules.nonCanonical ≤ Rules.mk true true true ∧
    check untidyName 1 (Rules.mk true true true) = .ok 3 ∧
    checkFileName untidyName (Rules.mk true true true) = .ok () ∧
    checkSymbolicLink untidyName (Bytes.ofText ".././x") (Rules.mk true true true) = .ok () ∧
    cleaned untidyName.untilNul = Bytes.ofText "a/b/c" ∧
    check (cleaned untidyName.untilNul) 0 .strict = .ok 3 := by
  have weaker : Rules.nonCanonical ≤ Rules.mk true true true :=
    ⟨fun _ => rfl, fun _ => rfl, fun _ => rfl⟩
  obtain ⟨path, file, link, agrees⟩ :=
    relaxing_keeps_and_cleaning_agrees weaker (Nat.zero_le 1) untidyName
  have counted : check untidyName 0 .nonCanonical = .ok 3 := by decide +kernel
  have isFile : checkFileName untidyName .nonCanonical = .ok () := by decide +kernel
  have isLink : checkSymbolicLink untidyName (Bytes.ofText ".././x") .nonCanonical = .ok () := by
    decide +kernel
  have counts : check untidyName.untilNul 0 .nonCanonical = .ok 3 := by decide +kernel
  have tidy : cleaned untidyName.untilNul = Bytes.ofText "a/b/c" := by decide +kernel
  refine ⟨weaker, path 3 counted, file isFile, link _ isLink, tidy, ?_⟩
  rcases (agrees (by decide +kernel) (by decide +kernel) 3).mp counts with ⟨_, impossible⟩ | strict
  · cases impossible
  · exact strict

end Path

end TrustBoundary

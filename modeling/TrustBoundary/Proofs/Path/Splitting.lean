import TrustBoundary.Proofs.Path.Acceptance

/-!
# Checked names and their splitting

A file name is checked from left to right, byte by byte, and is later split at its
slashes by a function that knows nothing of the check.  Both see the same parts.  The
segments of a name are what the list library's `splitOn` gives (`segments_eq_splitOn`),
so joining them gives the name back.  Under the strictest rules the check accepts a name
exactly if each of its segments is the name of a directory entry (`counts_strict_iff`,
`check_strict_eq_ok_iff`), and it counts them all.

The splitting looks for missing checks at the parents only, and takes the last segment as
it is.  So what it hands out is safe to walk because the check judged every segment, the
last one among them (`checkFileName_eq_ok_iff_and_split`).
-/

set_option autoImplicit false

namespace TrustBoundary.Path

open Display (IsDisplayable)

/-! ## Segments and the library -/

/-- The segments of a text are what lies between its slashes. -/
theorem segments_eq_splitOn (text : Bytes) : segments text = text.splitOn 0x2F := by
  induction text with
  | nil => rfl
  | cons byte rest ih =>
      rw [List.splitOn_cons_eq_if_modifyHead, ← ih, segments]
      by_cases slash : byte = 0x2F
      · rw [if_pos slash, if_pos (beq_iff_eq.mpr slash)]
      · rw [if_neg slash, if_neg (mt beq_iff_eq.mp slash)]
        obtain ⟨first, others, split⟩ := List.exists_cons_of_ne_nil (segments_ne_nil rest)
        rw [split, List.modifyHead_cons]

/-- A byte of a segment is a byte of the text, and no slash. -/
theorem mem_of_mem_segment {text segment : Bytes} {byte : UInt8}
    (member : segment ∈ segments text) (inside : byte ∈ segment) : byte ∈ text ∧ byte ≠ 0x2F := by
  induction text generalizing segment with
  | nil =>
      cases List.mem_singleton.mp member
      exact absurd inside List.not_mem_nil
  | cons first rest ih =>
      have further : ∀ segment ∈ segments rest, byte ∈ segment →
        byte ∈ first :: rest ∧ byte ≠ 0x2F :=
        fun segment member inside =>
          have known := ih member inside
          ⟨List.mem_cons_of_mem _ known.1, known.2⟩
      rw [segments] at member
      by_cases slash : first = 0x2F
      · rw [if_pos slash] at member
        rcases List.mem_cons.mp member with rfl | later
        · exact absurd inside List.not_mem_nil
        · exact further segment later inside
      · obtain ⟨front, others, split⟩ := List.exists_cons_of_ne_nil (segments_ne_nil rest)
        rw [if_neg slash, split] at member
        rw [split] at further
        rcases List.mem_cons.mp member with rfl | later
        · -- the first segment of the rest has grown by the first byte
          rcases List.mem_cons.mp inside with rfl | behind
          · exact ⟨List.mem_cons_self, slash⟩
          · exact further front List.mem_cons_self behind
        · exact further segment (List.mem_cons_of_mem _ later) inside

/-! ## What the segments of a checked name are -/

/-- A segment that names a directory entry other than the directory itself and its parent. -/
structure Proper (segment : Bytes) : Prop where
  nonempty : segment ≠ []
  not_dot : segment ≠ [0x2E]
  not_dotDot : segment ≠ [0x2E, 0x2E]

/-- A proper segment that consists of displayable characters. -/
structure IsName (segment : Bytes) : Prop extends Proper segment where
  displayable : IsDisplayable segment

/-- A proper segment that stays one component when it is opened by name: no slash leads
further, and no NUL cuts it off. -/
structure Walkable (segment : Bytes) : Prop extends Proper segment where
  no_slash : 0x2F ∉ segment
  no_nul : 0 ∉ segment

theorem isProper_iff {segment : Bytes} : isProper segment ↔ Proper segment := by
  simp only [isProper, Bool.and_eq_true, decide_eq_true_eq]
  constructor
  · rintro ⟨⟨nonempty, dot⟩, dotDot⟩
    exact ⟨nonempty, dot, dotDot⟩
  · intro proper
    exact ⟨⟨proper.nonempty, proper.not_dot⟩, proper.not_dotDot⟩

/-- **With no step to the parent granted, the strictest rules accept exactly names**, and
count each of them. -/
theorem counts_strict_iff {names count : Nat} {parts : List Bytes} :
    Counts .strict 0 names parts count ↔
      (∀ segment ∈ parts, IsName segment) ∧ count = names + parts.length := by
  induction parts generalizing names with
  | nil =>
      constructor
      · intro counts
        cases counts
        exact ⟨List.forall_mem_nil _, rfl⟩
      · rintro ⟨_, rfl⟩
        exact .done
  | cons segment others ih =>
      have counted : names + 1 + others.length = names + (segment :: others).length := by
        rw [List.length_cons]
        omega
      rw [List.forall_mem_cons, ← counted]
      constructor
      · intro counts
        cases counts with
        | closing allowed => cases allowed
        | skipped allowed => cases allowed
        | named proper displayable further =>
            obtain ⟨allNames, counted⟩ := ih.mp further
            exact ⟨⟨⟨isProper_iff.mp proper, displayable⟩, allNames⟩, counted⟩
      · rintro ⟨⟨isName, allNames⟩, counted⟩
        exact .named (isProper_iff.mpr isName.toProper) isName.displayable
          (ih.mpr ⟨allNames, counted⟩)

/-- **A path without steps to the parent is accepted under the strictest rules exactly if
it is not empty and all its segments are names**, and their number is the result. -/
theorem check_strict_eq_ok_iff {untrusted : Bytes} {count : Nat} :
    check untrusted 0 .strict = .ok count ↔ untrusted.untilNul ≠ [] ∧
      (∀ segment ∈ segments untrusted.untilNul, IsName segment) ∧
        count = (segments untrusted.untilNul).length := by
  rw [check_eq_ok_iff, counts_strict_iff, Nat.zero_add]
  constructor
  · rintro (⟨_, impossible, _⟩ | ⟨nonempty, _, names⟩)
    · cases impossible
    · exact ⟨nonempty, names⟩
  · rintro ⟨nonempty, names⟩
    refine .inr ⟨nonempty, fun absolute => ?_, names⟩
    -- an absolute path has an empty first segment
    obtain ⟨rest, text⟩ := List.head?_eq_some_iff.mp absolute
    rw [text] at names
    exact (names.1 [] List.mem_cons_self).nonempty rfl

theorem checkFileName_strict_eq_ok_iff {untrusted : Bytes} :
    checkFileName untrusted .strict = .ok () ↔ ∃ count, check untrusted 0 .strict = .ok count := by
  rw [checkFileName_eq_ok_iff]
  refine exists_congr fun count => and_iff_left_of_imp fun checked none => ?_
  obtain ⟨_, _, counted⟩ := check_strict_eq_ok_iff.mp checked
  exact absurd (List.length_eq_zero_iff.mp (counted.symm.trans none)) (segments_ne_nil _)

/-- A file name is acceptable if it is accepted under the strictest rules. -/
theorem isFileName_iff {untrusted : Bytes} :
    isFileName untrusted ↔ checkFileName untrusted .strict = .ok () := by
  unfold isFileName
  cases checkFileName untrusted .strict with
  | error violation => exact iff_of_false Bool.false_ne_true nofun
  | ok => exact iff_of_true rfl rfl

/-! ## Splitting -/

/-- A name whose segments are all proper is split into all of them. -/
theorem split_of_proper {checked : Bytes}
    (proper : ∀ segment ∈ segments checked.untilNul, Proper segment) :
    ∃ parents last, split checked = some (parents, last) ∧
      parents ++ [last] = segments checked.untilNul := by
  have some := segments_ne_nil checked.untilNul
  refine ⟨(segments checked.untilNul).dropLast, (segments checked.untilNul).getLast some, ?_,
    List.dropLast_concat_getLast some⟩
  have parents : (segments checked.untilNul).dropLast.all isProper = true :=
    List.all_eq_true.mpr fun segment member =>
      isProper_iff.mpr (proper segment (List.dropLast_subset _ member))
  simp only [split, parents, if_true, List.getLastD_eq_getLast?, List.getLast?_eq_some_getLast some,
    Option.getD_some]

/-- **The check and the splitting of a name agree.**  Under the strictest rules a name is
accepted exactly if it is not empty and the segments between its slashes are names.  Then
it is split into these segments: joined by slashes they give the name back, each of them can
be walked, the last one too, and there are as many as the check counts. -/
theorem checkFileName_eq_ok_iff_and_split (untrusted : Bytes) :
    (checkFileName untrusted .strict = .ok () ↔ untrusted.untilNul ≠ [] ∧
        ∀ segment ∈ untrusted.untilNul.splitOn 0x2F, IsName segment) ∧
      (checkFileName untrusted .strict = .ok () → ∃ parents last,
        split untrusted = some (parents, last) ∧
        [0x2F].intercalate (parents ++ [last]) = untrusted.untilNul ∧
        (∀ part ∈ parents ++ [last], Walkable part) ∧
        check untrusted 0 .strict = .ok (parents.length + 1)) := by
  rw [checkFileName_strict_eq_ok_iff, ← segments_eq_splitOn]
  constructor
  · constructor
    · rintro ⟨count, checked⟩
      obtain ⟨nonempty, names, _⟩ := check_strict_eq_ok_iff.mp checked
      exact ⟨nonempty, names⟩
    · rintro ⟨nonempty, names⟩
      exact ⟨_, check_strict_eq_ok_iff.mpr ⟨nonempty, names, rfl⟩⟩
  · rintro ⟨count, checked⟩
    obtain ⟨_, names, counted⟩ := check_strict_eq_ok_iff.mp checked
    obtain ⟨parents, last, isSplit, all⟩ :=
      split_of_proper fun segment member => (names segment member).toProper
    refine ⟨parents, last, isSplit, ?_, ?_, ?_⟩
    · rw [all, segments_eq_splitOn, List.intercalate_splitOn]
    · intro part member
      rw [all] at member
      have bytes : ∀ byte ∈ part, byte ∈ untrusted.untilNul ∧ byte ≠ 0x2F :=
        fun byte inside => mem_of_mem_segment member inside
      refine ⟨(names part member).toProper, fun slash => (bytes _ slash).2 rfl, fun nul => ?_⟩
      -- the text ends in front of the first NUL
      have notNul := List.all_eq_true.mp List.all_takeWhile 0 (bytes _ nul).1
      exact absurd notNul (by decide)
    · rw [checked, counted, ← all, List.length_append, List.length_singleton]

/-- A name behind which a NUL hides a step to the parent. -/
def cutName : Bytes := Bytes.ofText "a/\u00e9" ++ 0 :: Bytes.ofText "/.."

/-- What is behind the NUL plays no part in the check or in the splitting. -/
theorem cutName_is_split : checkFileName cutName .strict = .ok () ∧ ∃ parents last,
    split cutName = some (parents, last) ∧
      [0x2F].intercalate (parents ++ [last]) = cutName.untilNul ∧
      (∀ part ∈ parents ++ [last], Walkable part) ∧
      check cutName 0 .strict = .ok (parents.length + 1) := by
  have accepted : checkFileName cutName .strict = .ok () := isFileName_iff.mp (by decide +kernel)
  exact ⟨accepted, (checkFileName_eq_ok_iff_and_split cutName).2 accepted⟩

end TrustBoundary.Path

import TrustBoundary.Proofs.Path.Grammar

/-!
# What an accepted path counts

Whether a path is accepted, and with how many names, is a matter of its segments and of
what the rules allow, and of no position.  `Counts` has one rule for each kind of segment
that lets a path go on, and judging accepts exactly what these rules derive
(`judge_eq_ok_iff`).  So whatever is said about accepted paths is an induction over them.
File names and symbolic links are accepted by way of such counts (`checkFileName_eq_ok_iff`,
`checkSymbolicLink_eq_ok_iff`).
-/

set_option autoImplicit false

namespace TrustBoundary.Path

open Display (IsDisplayable)

/-- Whether a segment leads anywhere, so that a path is not the same without it. -/
def leads (segment : Bytes) : Bool := segment ≠ [] && segment ≠ [0x2E]

/-- The rules by which a path is accepted: with `budget` steps to the parent still granted
and `names` names in front of `parts`, there are `count` names in the end. -/
inductive Counts (rules : Rules) : (budget names : Nat) → (parts : List Bytes) →
    (count : Nat) → Prop
  /-- Behind the last segment. -/
  | done {budget names : Nat} : Counts rules budget names [] names
  /-- A slash at the end leaves an empty segment. -/
  | closing {budget names : Nat} (allowed : rules.allowTrailingSlash) :
      Counts rules budget names [[]] names
  /-- A segment that leads nowhere is passed over. -/
  | skipped {budget names count : Nat} {segment : Bytes} {others : List Bytes}
      (allowed : rules.allowNonCanonical) (idle : leads segment = false)
      (further : Counts rules budget names others count) :
      Counts rules budget names (segment :: others) count
  /-- A step to the parent, in front of every name. -/
  | climbed {budget count : Nat} {others : List Bytes}
    (further : Counts rules budget 0 others count) :
      Counts rules (budget + 1) 0 ([0x2E, 0x2E] :: others) count
  /-- A name. -/
  | named {budget names count : Nat} {segment : Bytes} {others : List Bytes}
      (proper : isProper segment) (displayable : IsDisplayable segment)
      (further : Counts rules budget (names + 1) others count) :
      Counts rules budget names (segment :: others) count

variable {rules : Rules} {position budget names count : Nat} {parts : List Bytes}

/-- What judging accepts is derived by the rules. -/
theorem counts_of_judge (judged : judge rules position budget names parts = .ok count) :
    Counts rules budget names parts count := by
  induction parts generalizing position budget names with
  | nil =>
      cases judged
      exact .done
  | cons segment others ih =>
      rw [judge] at judged
      by_cases empty : segment = []
      · subst empty
        have idle : leads [] = false := rfl
        by_cases last : others = []
        · rw [if_pos rfl, if_pos last] at judged
          split at judged
          · rename_i allowed
            cases judged
            rcases (Bool.or_eq_true _ _).mp allowed with trailing | nonCanonical
            · exact last ▸ .closing trailing
            · exact last ▸ .skipped nonCanonical idle .done
          · cases judged
        · rw [if_pos rfl, if_neg last] at judged
          split at judged
          · rename_i allowed
            exact .skipped allowed idle (ih judged)
          · cases judged
      by_cases dot : segment = [0x2E]
      · rw [if_neg empty, if_pos dot] at judged
        split at judged
        · rename_i allowed
          exact .skipped allowed (dot ▸ rfl) (ih judged)
        · cases judged
      by_cases dotDot : segment = [0x2E, 0x2E]
      · rw [if_neg empty, if_neg dot, if_pos dotDot] at judged
        split at judged
        · cases judged
        · rename_i granted
          obtain ⟨some, rfl⟩ := not_or.mp granted |>.imp_right Decidable.not_not.mp
          obtain ⟨rest, rfl⟩ := Nat.exists_eq_succ_of_ne_zero some
          exact dotDot ▸ .climbed (ih judged)
      · rw [if_neg empty, if_neg dot, if_neg dotDot] at judged
        split at judged
        · rename_i displayable
          exact .named (by simp [isProper, empty, dot, dotDot]) displayable (ih judged)
        · cases judged

/-- What the rules derive is accepted, wherever the path begins. -/
theorem Counts.judge (counts : Counts rules budget names parts count) (position : Nat) :
    Path.judge rules position budget names parts = .ok count := by
  induction counts generalizing position with
  | done => rw [Path.judge]
  | closing allowed => simp [Path.judge, allowed]
  | @skipped budget names count segment others allowed idle further ih =>
      have nowhere : segment = [] ∨ segment = [0x2E] := by
        by_cases empty : segment = []
        · exact .inl empty
        · exact .inr (by simpa [leads, empty] using idle)
      rcases nowhere with rfl | rfl
      · by_cases last : others = []
        · subst last
          cases further with
          | done => simp [Path.judge, allowed]
        · rw [Path.judge, if_pos rfl, if_neg last, if_pos allowed]
          exact ih _
      · rw [Path.judge, if_neg (List.cons_ne_nil _ _), if_pos rfl, if_pos allowed]
        exact ih _
  | @climbed budget count others further ih =>
      rw [Path.judge, if_neg (List.cons_ne_nil _ _), if_neg (by decide), if_pos rfl,
        if_neg (by simp), Nat.add_sub_cancel]
      exact ih _
  | @named budget names count segment others proper displayable further ih =>
      obtain ⟨⟨empty, dot⟩, dotDot⟩ : (segment ≠ [] ∧ segment ≠ [0x2E]) ∧
        segment ≠ [0x2E, 0x2E] := by
        simpa [isProper] using proper
      rw [Path.judge, if_neg empty, if_neg dot, if_neg dotDot, if_pos displayable]
      exact ih _

/-- **Judging accepts exactly what the rules derive**, with the number of names that they
give. -/
theorem judge_eq_ok_iff : judge rules position budget names parts = .ok count ↔
    Counts rules budget names parts count :=
  ⟨counts_of_judge, fun counts => counts.judge position⟩

/-- **An accepted path** is an empty one where that is allowed, or one that does not begin
with a slash and whose segments are counted by the rules. -/
theorem check_eq_ok_iff {untrusted : Bytes} : check untrusted budget rules = .ok count ↔
    (untrusted.untilNul = [] ∧ rules.allowEmpty ∧ count = 0) ∨
      (untrusted.untilNul ≠ [] ∧ untrusted.untilNul.head? ≠ some 0x2F ∧
        Counts rules budget 0 (segments untrusted.untilNul) count) := by
  rw [check_eq_grammar, grammar]
  by_cases empty : untrusted.untilNul = []
  · cases rules.allowEmpty <;> simp [empty, eq_comm]
  by_cases absolute : untrusted.untilNul.head? = some 0x2F
  · simp [empty, absolute]
  · simp [empty, absolute, judge_eq_ok_iff]

/-! ## File names and symbolic links -/

/-- A file name is accepted exactly if it is with no step to the parent, and has a name unless it
may be empty. -/
theorem checkFileName_eq_ok_iff {untrusted : Bytes} : checkFileName untrusted rules = .ok () ↔
    ∃ count, check untrusted 0 rules = .ok count ∧ (count = 0 → rules.allowEmpty) := by
  unfold checkFileName
  cases check untrusted 0 rules with
  | error violation => simp
  | ok count => by_cases none : count = 0 <;> simp [none]

/-- A symbolic link is accepted exactly if its name is and lies deep enough, and its target
is within the budget that this leaves. -/
theorem checkSymbolicLink_eq_ok_iff {name target : Bytes} {rules : Rules} :
    checkSymbolicLink name target rules = .ok () ↔
      ∃ depth count, check name 0 rules = .ok depth ∧ 2 ≤ depth ∧
        check target (depth - 2) { rules with allowEmpty := false, allowTrailingSlash := true } =
          .ok count := by
  unfold checkSymbolicLink
  cases check name 0 rules with
  | error violation => simp
  | ok depth =>
      by_cases shallow : depth < 2
      · have topLevel : ¬2 ≤ depth := Nat.not_le.mpr shallow
        simp [shallow, topLevel]
      · dsimp only
        rw [if_neg shallow]
        constructor
        · intro accepted
          cases targeted : check target (depth - 2)
              { rules with allowEmpty := false, allowTrailingSlash := true } with
          | error violation =>
              rw [targeted] at accepted
              cases accepted
          | ok count => exact ⟨depth, count, rfl, Nat.not_lt.mp shallow, targeted⟩
        · rintro ⟨_, count, same, _, targeted⟩
          cases same
          rw [targeted]
          rfl

end TrustBoundary.Path

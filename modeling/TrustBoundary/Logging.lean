/-!
# Computations that report

The checks of this library say what they see while they run, and they end in
one of three ways: with a value, with a refusal that states its reason, or with
a fault.  A fault means that the computation broke a rule of its own: a number
left the 64 bits it has to fit in, or a condition that a caller owes did not
hold.  Keeping faults apart from refusals lets a theorem say that an input,
however hostile, is refused at worst.

`Logged ε α` is the type of such a computation: the lines it reported, oldest
first, and its outcome.  Lines are data, so reporting cannot change an outcome,
and the lines reported before a refusal are kept.  A sequence of computations
gives a value exactly if each of them does (`outcome_bind_eq_ok`), and it fails where
the first of them fails (`fails_bind`).
-/

set_option autoImplicit false

namespace TrustBoundary

/-- How important a reported line is. -/
inductive Level where
  | debug
  | info
  | warn
  | error
deriving DecidableEq, Repr

/-- The name of a level in a log. -/
def Level.name : Level → String
  | .debug => "DEBUG"
  | .info => "INFO"
  | .warn => "WARN"
  | .error => "ERROR"

/-- Whether lines of this level are shown without asking for details. -/
def Level.isAlarm : Level → Bool
  | .debug | .info => false
  | .warn | .error => true

/-- One reported line. -/
structure LogLine where
  level : Level
  text : String
deriving DecidableEq, Repr

/-- Why a computation ended without a value. -/
inductive Halt (ε : Type) where
  /-- The input is not acceptable, for this reason. -/
  | refused (reason : ε)
  /-- The computation broke a rule of its own. -/
  | fault
deriving DecidableEq, Repr

/-- The lines that a computation reported, and how it ended. -/
structure Logged (ε α : Type) where
  lines : List LogLine
  outcome : Except (Halt ε) α

namespace Logged

variable {ε α β : Type}

@[ext] theorem ext {left right : Logged ε α} (lines : left.lines = right.lines)
    (outcome : left.outcome = right.outcome) : left = right := by
  cases left; cases right; simp_all

/-- A computation that reports nothing and ends at once. -/
def ofOutcome (outcome : Except (Halt ε) α) : Logged ε α := ⟨[], outcome⟩

/-- The lines of both computations, and the outcome of the second one. -/
def after (lines : List LogLine) (next : Logged ε α) : Logged ε α :=
  ⟨lines ++ next.lines, next.outcome⟩

instance : Monad (Logged ε) where
  pure value := ofOutcome (.ok value)
  bind first next :=
    match first.outcome with
    | .ok value => after first.lines (next value)
    | .error halt => ⟨first.lines, .error halt⟩

instance : LawfulMonad (Logged ε) := LawfulMonad.mk' (Logged ε)
  (by
    rintro α ⟨lines, halt | value⟩
    · rfl
    · exact Logged.ext (List.append_nil lines) rfl)
  (fun _ _ => rfl)
  (by
    rintro α β γ ⟨lines, halt | value⟩ next last
    · rfl
    · show (match (after lines (next value)).outcome with
        | .ok inner => after (after lines (next value)).lines (last inner)
        | .error halt => ⟨(after lines (next value)).lines, .error halt⟩) =
        after lines (match (next value).outcome with
        | .ok inner => after (next value).lines (last inner)
        | .error halt => ⟨(next value).lines, .error halt⟩)
      rcases next value with ⟨more, halt | inner⟩
      · rfl
      · exact Logged.ext (List.append_assoc lines more (last inner).lines) rfl)

/-- A computation whose only way to fail is a broken rule. -/
instance : MonadLift Option (Logged ε) where
  monadLift
    | some value => pure value
    | none => ofOutcome (.error .fault)

/-- A computation whose only way to fail is a refusal. -/
instance : MonadLift (Except ε) (Logged ε) where
  monadLift
    | .ok value => pure value
    | .error reason => ofOutcome (.error (.refused reason))

/-! ## Reporting and ending -/

/-- Reports one line. -/
def say (level : Level) (text : String) : Logged ε Unit := ⟨[⟨level, text⟩], .ok ()⟩

/-- Reports a detail. -/
def debug (text : String) : Logged ε Unit := say .debug text

/-- Reports progress. -/
def info (text : String) : Logged ε Unit := say .info text

/-- Reports something odd that is no reason to stop. -/
def warn (text : String) : Logged ε Unit := say .warn text

/-- Ends with a refusal. -/
def refuse (reason : ε) : Logged ε α := ofOutcome (.error (.refused reason))

/-- Ends with a fault. -/
def fault : Logged ε α := ofOutcome (.error .fault)

/-- Ends with a refusal if a condition holds. -/
def refuseIf (condition : Prop) [Decidable condition] (reason : ε) : Logged ε Unit :=
  if condition then refuse reason else pure ()

/-- Ends with a fault unless a condition holds. -/
def require (condition : Prop) [Decidable condition] : Logged ε Unit :=
  if condition then pure () else fault

/-! ## When a computation gives a value

One equation for each way of putting computations together: it succeeds exactly
if its parts do. -/

/-- Two computations in a row give a value exactly if both do. -/
@[simp] theorem outcome_bind_eq_ok {first : Logged ε α} {next : α → Logged ε β} {result : β} :
    (first >>= next).outcome = .ok result ↔
      ∃ value, first.outcome = .ok value ∧ (next value).outcome = .ok result := by
  rcases first with ⟨lines, halt | value⟩
  · constructor
    · intro impossible
      exact nomatch (impossible : (Except.error halt : Except (Halt ε) β) = .ok result)
    · rintro ⟨value, impossible, _⟩
      exact nomatch impossible
  · constructor
    · intro accepted
      exact ⟨value, rfl, accepted⟩
    · rintro ⟨same, reached, accepted⟩
      cases reached
      exact accepted

/-- A value given at once is the value. -/
@[simp] theorem outcome_pure_eq_ok {value result : α} :
    (pure value : Logged ε α).outcome = .ok result ↔ value = result :=
  Except.ok.injEq value result ▸ Iff.rfl

/-- A refusal gives no value. -/
@[simp] theorem outcome_refuse_ne_ok {reason : ε} {result : α} :
    (refuse reason : Logged ε α).outcome ≠ .ok result :=
  fun impossible => nomatch impossible

/-- A fault gives no value. -/
@[simp] theorem outcome_fault_ne_ok {result : α} : (fault : Logged ε α).outcome ≠ .ok result :=
  fun impossible => nomatch impossible

/-- A refusal on a condition lets a computation go on exactly if the condition fails. -/
@[simp] theorem outcome_refuseIf_eq_ok {condition : Prop} [Decidable condition] {reason : ε}
    {result : Unit} : (refuseIf condition reason).outcome = .ok result ↔ ¬condition := by
  by_cases holds : condition
  · rw [refuseIf, if_pos holds]
    exact ⟨fun impossible => (nomatch impossible), fun fails => absurd holds fails⟩
  · rw [refuseIf, if_neg holds]
    exact ⟨fun _ => holds, fun _ => rfl⟩

/-- A requirement lets a computation go on exactly if it is met. -/
@[simp] theorem outcome_require_eq_ok {condition : Prop} [Decidable condition] {result : Unit} :
    (require condition : Logged ε Unit).outcome = .ok result ↔ condition := by
  by_cases holds : condition
  · rw [require, if_pos holds]
    exact ⟨fun _ => holds, fun _ => rfl⟩
  · rw [require, if_neg holds]
    exact ⟨fun impossible => (nomatch impossible), fun met => absurd met holds⟩

/-- Reporting always goes on. -/
@[simp] theorem outcome_say (level : Level) (text : String) :
    (say level text : Logged ε Unit).outcome = .ok () := rfl

@[simp] theorem outcome_debug (text : String) : (debug text : Logged ε Unit).outcome = .ok () := rfl

@[simp] theorem outcome_info (text : String) : (info text : Logged ε Unit).outcome = .ok () := rfl

@[simp] theorem outcome_warn (text : String) : (warn text : Logged ε Unit).outcome = .ok () := rfl

/-- Lines in front of a computation leave its outcome alone. -/
@[simp] theorem outcome_after (lines : List LogLine) (next : Logged ε α) :
    (after lines next).outcome = next.outcome := rfl

/-- A warning on a condition leaves the outcome of what follows alone. -/
@[simp] theorem outcome_warnIf {condition : Prop} [Decidable condition] {text : String}
    {next : Logged ε α} :
    (if condition then warn text >>= fun _ => next else next).outcome = next.outcome := by
  by_cases holds : condition
  · rw [if_pos holds]
    rfl
  · rw [if_neg holds]

/-- An optional value is given if it is there. -/
@[simp] theorem outcome_liftOption_eq_ok {value? : Option α} {result : α} :
    (liftM value? : Logged ε α).outcome = .ok result ↔ value? = some result := by
  cases value? with
  | none => exact ⟨fun impossible => (nomatch impossible), fun impossible => (nomatch impossible)⟩
  | some value => exact outcome_pure_eq_ok.trans Option.some_inj.symm

/-- A result is given if it is one. -/
@[simp] theorem outcome_liftExcept_eq_ok {attempt : Except ε α} {result : α} :
    (liftM attempt : Logged ε α).outcome = .ok result ↔ attempt = .ok result := by
  cases attempt with
  | error reason =>
    exact ⟨fun impossible => (nomatch impossible), fun impossible => (nomatch impossible)⟩
  | ok value => exact outcome_pure_eq_ok.trans (Except.ok.injEq value result ▸ Iff.rfl)

/-- A choice gives a value exactly if the side that is taken does. -/
@[simp] theorem outcome_ite_eq_ok {condition : Prop} [Decidable condition]
    {first second : Logged ε α} {result : α} :
    (if condition then first else second).outcome = .ok result ↔
      (condition → first.outcome = .ok result) ∧ (¬condition → second.outcome = .ok result) := by
  by_cases holds : condition <;> simp [holds]

/-! ## When a computation fails

The same for a failure of a given kind: a sequence fails where its first part
does, or where its second part does after the first gave a value. -/

/-- A computation ends without a value, and for such a cause. -/
def Fails (computation : Logged ε α) (bad : Halt ε → Prop) : Prop :=
  ∃ halt, computation.outcome = .error halt ∧ bad halt

variable {bad : Halt ε → Prop}

theorem fails_eq_iff {computation : Logged ε α} {halt : Halt ε} :
    computation.Fails (· = halt) ↔ computation.outcome = .error halt :=
  exists_eq_right

@[simp] theorem fails_bind {first : Logged ε α} {next : α → Logged ε β} :
    (first >>= next).Fails bad ↔
      first.Fails bad ∨ ∃ value, first.outcome = .ok value ∧ (next value).Fails bad := by
  rcases first with ⟨lines, halt | value⟩
  · constructor
    · rintro ⟨_, reached, holds⟩
      cases reached
      exact .inl ⟨halt, rfl, holds⟩
    · rintro (⟨_, reached, holds⟩ | ⟨value, impossible, _⟩)
      · cases reached
        exact ⟨halt, rfl, holds⟩
      · exact nomatch impossible
  · constructor
    · intro failed
      exact .inr ⟨value, rfl, failed⟩
    · rintro (⟨halt, impossible, _⟩ | ⟨same, reached, failed⟩)
      · exact nomatch impossible
      · cases reached
        exact failed

/-- After a part that gives a value, it is for the rest to fail. -/
theorem fails_bind_of_ok {first : Logged ε α} {next : α → Logged ε β} {value : α}
    (given : first.outcome = .ok value) : (first >>= next).Fails bad ↔ (next value).Fails bad := by
  rw [fails_bind]
  constructor
  · rintro (⟨_, failed, _⟩ | ⟨_, same, failed⟩)
    · exact nomatch given.symm.trans failed
    · cases given.symm.trans same
      exact failed
  · exact fun failed => .inr ⟨value, given, failed⟩

/-- What fails after a first part is a matter of what comes after the values it gives. -/
theorem fails_bind_congr {γ : Type} {first : Logged ε α} {next : α → Logged ε β}
    {other : α → Logged ε γ}
    (same : ∀ value, first.outcome = .ok value →
      ((next value).Fails bad ↔ (other value).Fails bad)) :
    (first >>= next).Fails bad ↔ (first >>= other).Fails bad := by
  rw [fails_bind, fails_bind]
  exact or_congr_right (exists_congr fun value => and_congr_right (same value))

/-- A computation that does not fail gives a value. -/
theorem exists_ok_of_not_fails {computation : Logged ε α}
    (succeeds : ¬computation.Fails fun _ => True) : ∃ value, computation.outcome = .ok value := by
  cases outcome : computation.outcome with
  | ok value => exact ⟨value, rfl⟩
  | error halt => exact absurd ⟨halt, outcome, trivial⟩ succeeds

@[simp] theorem not_fails_pure (value : α) : ¬(pure value : Logged ε α).Fails bad :=
  fun ⟨_, impossible, _⟩ => nomatch impossible

@[simp] theorem fails_refuse {reason : ε} :
    (refuse reason : Logged ε α).Fails bad ↔ bad (.refused reason) :=
  ⟨fun ⟨_, same, holds⟩ => by cases same; exact holds, fun holds => ⟨_, rfl, holds⟩⟩

@[simp] theorem fails_fault : (fault : Logged ε α).Fails bad ↔ bad .fault :=
  ⟨fun ⟨_, same, holds⟩ => by cases same; exact holds, fun holds => ⟨_, rfl, holds⟩⟩

@[simp] theorem fails_ite {condition : Prop} [Decidable condition] {first second : Logged ε α} :
    (if condition then first else second).Fails bad ↔
      condition ∧ first.Fails bad ∨ ¬condition ∧ second.Fails bad := by
  by_cases holds : condition <;> simp [holds]

@[simp] theorem fails_refuseIf {condition : Prop} [Decidable condition] {reason : ε} :
    (refuseIf condition reason).Fails bad ↔ condition ∧ bad (.refused reason) := by
  simp [refuseIf]

@[simp] theorem fails_require {condition : Prop} [Decidable condition] :
    (require condition : Logged ε Unit).Fails bad ↔ ¬condition ∧ bad .fault := by
  simp [require]

@[simp] theorem not_fails_debug (text : String) : ¬(debug text : Logged ε Unit).Fails bad :=
  fun ⟨_, impossible, _⟩ => nomatch impossible

@[simp] theorem not_fails_warn (text : String) : ¬(warn text : Logged ε Unit).Fails bad :=
  fun ⟨_, impossible, _⟩ => nomatch impossible

@[simp] theorem fails_after (lines : List LogLine) (next : Logged ε α) :
    (after lines next).Fails bad ↔ next.Fails bad := Iff.rfl

@[simp] theorem fails_liftOption {value? : Option α} :
    (liftM value? : Logged ε α).Fails bad ↔ value? = none ∧ bad .fault := by
  cases value? with
  | none => exact fails_fault.trans ⟨fun holds => ⟨rfl, holds⟩, And.right⟩
  | some value =>
    exact ⟨fun failed => absurd failed (not_fails_pure value),
      fun ⟨impossible, _⟩ => nomatch impossible⟩

@[simp] theorem fails_liftExcept {attempt : Except ε α} :
    (liftM attempt : Logged ε α).Fails bad ↔
      ∃ reason, attempt = .error reason ∧ bad (.refused reason) := by
  cases attempt with
  | error reason =>
    refine fails_refuse.trans ⟨fun holds => ⟨reason, rfl, holds⟩, ?_⟩
    rintro ⟨same, reached, holds⟩
    cases reached
    exact holds
  | ok value =>
    exact ⟨fun failed => absurd failed (not_fails_pure value),
      fun ⟨_, impossible, _⟩ => nomatch impossible⟩

end Logged

end TrustBoundary

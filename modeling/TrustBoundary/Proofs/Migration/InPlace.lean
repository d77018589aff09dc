import TrustBoundary.Migration.InPlace
import TrustBoundary.Proofs.Device.Attempts
import TrustBoundary.Proofs.Migration.Steps

/-!
# Migrations in place and by value

A migration that a caller holds stands where a migration that is a value does if both have the
same to do, with the same copies (`Ongoing.StandsAt`).  A step in place then comes to what the step
by value comes to, on the same device and with the same lines (`run_stepInPlace`).  If the step
succeeds, the migration in place moves on to where the next value stands.  If it fails, nothing in
the migration has changed.
-/

set_option autoImplicit false

namespace TrustBoundary.Migration

open Gpt (Location)

/-! ## The same place -/

/-- The phase of a stage. -/
def Stage.phase : Stage → Phase
  | planning => .planning
  | writingNonActive _ _ => .writingNonActive
  | writingActive _ _ => .writingActive
  | finished => .finished

/-- The copies that a stage has computed. -/
def Stage.copies : Stage → Option (Gpt × Gpt)
  | planning | finished => none
  | writingNonActive nonActive active | writingActive nonActive active => some (nonActive, active)

/-- A migration in place that has to do what a migration by value has to do. -/
structure Ongoing.StandsAt (ongoing : Ongoing) (migration : Migration) : Prop where
  old : ongoing.old = migration.old
  active : ongoing.active = migration.active
  mbr : ongoing.mbr = migration.mbr
  phase : ongoing.phase = migration.stage.phase
  copies : ∀ copies, migration.stage.copies = some copies → ongoing.copies = some copies

theorem Ongoing.standsAt_start (found : Inspection) :
    (Ongoing.start found).StandsAt (ofInspection found) :=
  ⟨rfl, rfl, rfl, rfl, fun _ impossible => nomatch impossible⟩

/-- A migration in place after it moved on to where another migration stands.  Copies that are not
needed any more are still there. -/
def Ongoing.follow (ongoing : Ongoing) (next : Migration) : Ongoing :=
  { ongoing with phase := next.stage.phase, copies := next.stage.copies.or ongoing.copies }

/-- What a step in place comes to when the step by value has ended with a report, on a device. -/
def settle (bench : Bench) (ended : Logged DiskError Migration × Device) :
    EStateM.Result (Halt DiskError) Bench Phase :=
  let lines := bench.lines ++ ended.1.lines
  match ended.1.outcome with
  | .ok next => .ok next.stage.phase ⟨bench.ongoing.follow next, ended.2, lines⟩
  | .error halt => .error halt ⟨bench.ongoing, ended.2, lines⟩

/-! ## One step -/

variable {α : Type} {bench : Bench} {ongoing : Ongoing} {migration next : Migration}
  {device final : Device} {lines : List LogLine}

/-- Work in place that begins with work on the device is settled if what follows it is. -/
theorem run_lift_bind {work : Work α} {rest : α → InPlace Phase} {next : α → Work Migration}
    (settled : ∀ value device lines, (rest value).run ⟨ongoing, device, lines⟩ =
      settle ⟨ongoing, device, lines⟩ ((next value).run device)) (device : Device)
    (lines : List LogLine) :
    ((liftM work : InPlace α) >>= rest).run ⟨ongoing, device, lines⟩ =
      settle ⟨ongoing, device, lines⟩ ((work >>= next).run device) := by
  rw [Work.run_bind]
  simp only [EStateM.run, bind, EStateM.bind, liftM, monadLift, MonadLift.monadLift]
  cases (work.run device).1.outcome with
  | error halt => rfl
  | ok value =>
    refine (settled value _ _).trans ?_
    unfold settle Logged.after
    dsimp only
    cases ((next value).run (work.run device).2).1.outcome <;> simp only [List.append_assoc]

/-- A computation in two parts that does not touch the device may be taken apart. -/
theorem lift_bind_bind {β γ : Type} (first : Logged DiskError α)
    (second : α → Logged DiskError β) (rest : β → Work γ) :
    ((liftM (first >>= second) : Work β) >>= rest) =
      (liftM first : Work α) >>= fun value => (liftM (second value) : Work β) >>= rest := by
  funext device
  rcases first with ⟨said, halt | value⟩
  · rfl
  · change Work.run ((liftM (Logged.after said (second value)) : Work β) >>= rest) device =
      (Logged.after said (Work.run ((liftM (second value) : Work β) >>= rest) device).1,
        (Work.run ((liftM (second value) : Work β) >>= rest) device).2)
    rcases second value with ⟨more, halt | inner⟩
    · rfl
    · exact Prod.ext (Logged.ext (List.append_assoc said more _) rfl) rfl

/-- Planning by value rebuilds one copy and then the other one. -/
theorem step_planning (old : Gpt) (active : Location) (mbr : ProtectiveMbr) :
    step ⟨old, active, mbr, .planning⟩ = (do
      let disk ← Work.disk
      let first ← rebuild old active.other (geometryOf disk)
      let second ← rebuild old active (geometryOf disk)
      return ⟨old, active, mbr, .writingNonActive first second⟩ : Work Migration) := by
  simp only [step, plan, lift_bind_bind]
  rfl

/-- Moving on is settled, with copies that are there if the next stage needs them. -/
theorem run_enter (next : Migration) (copies : next.stage.copies.or ongoing.copies = ongoing.copies)
    (device : Device) (lines : List LogLine) :
    (do
      InPlace.enter next.stage.phase
      return next.stage.phase : InPlace Phase).run ⟨ongoing, device, lines⟩ =
    settle ⟨ongoing, device, lines⟩ ((pure next : Work Migration).run device) := by
  change EStateM.Result.ok next.stage.phase
      (Bench.mk { ongoing with phase := next.stage.phase } device lines) =
    .ok next.stage.phase
      (Bench.mk ⟨_, _, _, _, next.stage.copies.or ongoing.copies⟩ device (lines ++ []))
  rw [List.append_nil, copies]

/-- **A step in place is the step by value**: if it succeeds, the migration moves on, and if it
fails, the migration stays as it was. -/
theorem run_stepInPlace (stands : bench.ongoing.StandsAt migration) :
    stepInPlace.run bench = settle bench (migration.step.run bench.device) := by
  obtain ⟨⟨old, active, mbr, phase, copies⟩, device, lines⟩ := bench
  obtain ⟨rfl, rfl, rfl, rfl, kept⟩ := stands
  obtain ⟨old, active, mbr, stage⟩ := migration
  let ongoing : Ongoing := ⟨old, active, mbr, stage.phase, copies⟩
  cases stage with
  | planning =>
    have begun : stepInPlace.run ⟨ongoing, device, lines⟩ = (do
        let disk ← Work.disk
        let first ← rebuild old active.other (geometryOf disk)
        let second ← rebuild old active (geometryOf disk)
        InPlace.keep (first, second)
        InPlace.enter .writingNonActive
        return .writingNonActive : InPlace Phase).run ⟨ongoing, device, lines⟩ := rfl
    rw [step_planning]
    refine begun.trans ?_
    refine run_lift_bind (fun disk device lines => ?_) device lines
    refine run_lift_bind (fun nonActive device lines => ?_) device lines
    refine run_lift_bind (fun active device lines => ?_) device lines
    change EStateM.Result.ok Phase.writingNonActive (Bench.mk _ device lines) =
      .ok Phase.writingNonActive (Bench.mk _ device (lines ++ []))
    rw [List.append_nil]
    rfl
  | writingNonActive first second =>
    obtain rfl : copies = some (first, second) := kept _ rfl
    have begun : stepInPlace.run ⟨ongoing, device, lines⟩ = (do
        (ongoing.writeCopy active.other first : InPlace Unit)
        InPlace.enter .writingActive
        return .writingActive : InPlace Phase).run ⟨ongoing, device, lines⟩ := rfl
    refine begun.trans (run_lift_bind (fun _ => ?_) device lines)
    exact run_enter ⟨old, active, mbr, .writingActive first second⟩ rfl
  | writingActive first second =>
    obtain rfl : copies = some (first, second) := kept _ rfl
    have begun : stepInPlace.run ⟨ongoing, device, lines⟩ = (do
        (ongoing.writeCopy active second : InPlace Unit)
        InPlace.enter .finished
        return .finished : InPlace Phase).run ⟨ongoing, device, lines⟩ := rfl
    refine begun.trans (run_lift_bind (fun _ => ?_) device lines)
    exact run_enter ⟨old, active, mbr, .finished⟩ rfl
  | finished => exact run_enter ⟨old, active, mbr, .finished⟩ rfl device lines

/-! ## What a step leaves -/

/-- A step does not change what a migration is about. -/
theorem same_of_succeeds_step (succeeded : migration.step.Succeeds device next final) :
    migration.old = next.old ∧ migration.active = next.active ∧ migration.mbr = next.mbr := by
  cases stage : migration.stage with
  | planning =>
      obtain ⟨_, _, _, _, rfl, _⟩ := (succeeds_step_planning stage).mp succeeded
      exact ⟨rfl, rfl, rfl⟩
  | writingNonActive _ _ =>
      obtain ⟨_, _, _, rfl⟩ := (succeeds_step_writingNonActive stage).mp succeeded
      exact ⟨rfl, rfl, rfl⟩
  | writingActive _ _ =>
      obtain ⟨_, _, _, rfl⟩ := (succeeds_step_writingActive stage).mp succeeded
      exact ⟨rfl, rfl, rfl⟩
  | finished =>
      simp only [step, stage] at succeeded
      obtain ⟨rfl, _⟩ := Work.succeeds_pure.mp succeeded
      exact ⟨rfl, rfl, rfl⟩

/-- **After a step that succeeds,** the migration in place stands where the next value does. -/
theorem Ongoing.StandsAt.follow (stands : ongoing.StandsAt migration)
    (succeeded : migration.step.Succeeds device next final) :
    (ongoing.follow next).StandsAt next := by
  obtain ⟨old, active, mbr⟩ := same_of_succeeds_step succeeded
  refine ⟨stands.old.trans old, stands.active.trans active, stands.mbr.trans mbr, rfl, ?_⟩
  intro copies computed
  rw [Ongoing.follow, computed]
  rfl

/-- A step in place that gives a phase has left the migration in it. -/
theorem phase_of_run_stepInPlace (stands : bench.ongoing.StandsAt migration) {phase : Phase}
    {left : Bench} (stepped : stepInPlace.run bench = .ok phase left) :
    (∃ next, migration.step.Succeeds bench.device next left.device ∧
      left.ongoing = bench.ongoing.follow next) ∧ left.ongoing.phase = phase := by
  rw [run_stepInPlace stands, settle] at stepped
  cases outcome : (migration.step.run bench.device).1.outcome with
  | error halt =>
      rw [outcome] at stepped
      cases stepped
  | ok next =>
      rw [outcome] at stepped
      cases stepped
      exact ⟨⟨next, ⟨outcome, rfl⟩, rfl⟩, rfl⟩

/-- **A step in place that fails has left the migration as it was.** -/
theorem ongoing_of_run_stepInPlace (stands : bench.ongoing.StandsAt migration)
    {halt : Halt DiskError} {left : Bench} (stopped : stepInPlace.run bench = .error halt left) :
    migration.step.Ends bench.device (.error halt) left.device ∧ left.ongoing = bench.ongoing := by
  rw [run_stepInPlace stands, settle] at stopped
  cases outcome : (migration.step.run bench.device).1.outcome with
  | ok next =>
      rw [outcome] at stopped
      cases stopped
  | error halt =>
      rw [outcome] at stopped
      cases stopped
      exact ⟨⟨outcome, rfl⟩, rfl⟩

/-- A step that succeeds by value succeeds in place. -/
theorem exists_run_stepInPlace (stands : bench.ongoing.StandsAt migration)
    (succeeded : migration.step.Succeeds bench.device next final) :
    ∃ left, stepInPlace.run bench = .ok next.stage.phase left := by
  obtain ⟨outcome, rfl⟩ := succeeded
  rw [run_stepInPlace stands, settle, outcome]
  exact ⟨_, rfl⟩

end TrustBoundary.Migration

import Mathlib.Algebra.GroupWithZero.Nat
import Mathlib.Control.Monad.Basic
import TrustBoundary.Transfer.Session

/-!
# The account of a transfer

A sender may ask a session for anything, in any order, and go on after a refusal.
`Session.after` is the session that a sequence of calls leaves, and `Session.exchanges` is what was
asked for and answered on the way.

`Session.Settled` lists what can become of an entry that is checked, and everything else is
read from it (`settled_checkEntry`).  In two of its cases the bytes of the entry are added to the
total: the entry is admitted, or it is a symbolic link that is refused for the limit or for its
target.  The bytes of such a link are forfeited, since it was counted before it was judged.
So the total is what was admitted together with what was forfeited (`totalBytes_after`), and it
is what was admitted exactly as long as nothing was forfeited
(`totalBytes_eq_sum_admitted_iff`).
-/

set_option autoImplicit false

namespace TrustBoundary.Transfer

/-! ## Calls and answers -/

/-- What a session can be asked for. -/
inductive Call where
  | digest (received : Bytes)
  | beginEntry (header : EntryHeader)
  | checkEntry (header : EntryHeader) (name : Bytes) (target : Option Bytes)
deriving DecidableEq, Repr

/-- A call together with the answer to it. -/
inductive Exchange where
  | digested (received : Bytes)
  | begun (header : EntryHeader) (verdict : Session.Verdict Bool)
  | checked (header : EntryHeader) (name : Bytes) (target : Option Bytes)
    (verdict : Session.Verdict EntryKind)

/-- Whether an entry with this header is refused for this reason after it was counted: it is
a link, and too much for the limit or bad in its target. -/
def Refusal.isLate (header : EntryHeader) : Refusal → Bool
  | .invalidSymlink _ => true
  | .quotaExceeded => Session.typeBits header.mode = 0xA000
  | _ => false

namespace Exchange

/-- Whether an entry may be sent. -/
def opensEntry : Exchange → Bool
  | begun _ (.ok opened) => opened
  | _ => false

theorem opensEntry_begun_iff {header : EntryHeader} {verdict : Session.Verdict Bool} :
    (begun header verdict).opensEntry = true ↔ verdict = .ok true := by
  cases verdict with
  | error halt => exact ⟨nofun, nofun⟩
  | ok opened => exact (Except.ok.injEq opened true ▸ Iff.rfl)

/-- The bytes of a regular file or of a link that was admitted. -/
def admitted : Exchange → Nat
  | checked header _ _ (.ok .regular) => header.fileLength.toNat
  | checked header _ _ (.ok .symlink) => header.fileLength.toNat
  | _ => 0

/-- The bytes of a link that was counted and then refused. -/
def forfeited : Exchange → Nat
  | checked header _ _ (.error (.refused refusal)) =>
    if refusal.isLate header then header.fileLength.toNat else 0
  | _ => 0

end Exchange

namespace Session

/-- Does what a call asks for. -/
def perform (session : Session) : Call → Session × Exchange
  | .digest received => (session.digest received, .digested received)
  | .beginEntry header =>
    let (next, verdict) := session.beginEntry header
    (next, .begun header verdict)
  | .checkEntry header name target =>
    let (next, verdict) := session.checkEntry header name target
    (next, .checked header name target verdict)

@[simp] theorem perform_beginEntry (session : Session) (header : EntryHeader) :
    session.perform (.beginEntry header) =
      ((session.beginEntry header).1, .begun header (session.beginEntry header).2) := rfl

@[simp] theorem perform_checkEntry (session : Session) (header : EntryHeader) (name : Bytes)
    (target : Option Bytes) :
    session.perform (.checkEntry header name target) = ((session.checkEntry header name target).1,
      .checked header name target (session.checkEntry header name target).2) := rfl

/-- The session after some calls. -/
def after (session : Session) : List Call → Session
  | [] => session
  | call :: later => (session.perform call).1.after later

/-- What is asked for and answered in the course of some calls. -/
def exchanges (session : Session) : List Call → List Exchange
  | [] => []
  | call :: later => (session.perform call).2 :: (session.perform call).1.exchanges later

variable {session : Session} {kinds : Kinds} {header : EntryHeader} {name : Bytes}

/-! ## What is checked before anything is counted -/

theorem exceeds_eq_false_iff {total : Nat} {limit : Option Nat} :
    exceeds total limit = false ↔ ∀ greatest, limit = some greatest → total ≤ greatest := by
  cases limit <;> simp [exceeds]

/-- A regular file is admitted if it is no longer than a file can be and the total keeps to
the limit. -/
theorem admits_iff {length : Nat} : session.admits length = true ↔ length ≤ greatestFileLength ∧
    ∀ greatest, session.limits.bytes = some greatest → session.totalBytes + length ≤ greatest := by
  unfold admits
  cases session.limits.bytes with
  | none => simp
  | some greatest =>
      simp only [Bool.and_eq_true, decide_eq_true_eq, Option.some.injEq, forall_eq']
      omega

/-- A header that passes has a mode of the kind that is found. -/
theorem kindOf_of_checkHeader {kind : EntryKind}
    (checked : checkHeader kinds header name = .ok kind) :
    kindOf kinds header.mode = some kind := by
  unfold checkHeader at checked
  repeat' split at checked
  all_goals cases checked
  assumption

theorem typeBits_of_regular {mode : UInt32} (regular : kindOf kinds mode = some .regular) :
    typeBits mode = 0x8000 := by
  unfold kindOf at regular
  repeat' split at regular
  all_goals cases regular
  assumption

theorem typeBits_of_symlink {mode : UInt32} (symlink : kindOf kinds mode = some .symlink) :
    typeBits mode = 0xA000 := by
  unfold kindOf at symlink
  repeat' split at symlink
  all_goals cases symlink
  next link => exact link.1

/-- What a header or a name is refused for is found out before anything is counted. -/
theorem isLate_of_checkHeader {refusal : Refusal}
    (refused : checkHeader kinds header name = .error refusal) : refusal.isLate header = false := by
  unfold checkHeader at refused
  repeat' split at refused
  all_goals cases refused
  all_goals rfl

/-! ## What becomes of an entry -/

/-- An entry gets so far that its bytes are counted. -/
inductive Counts (session : Session) (header : EntryHeader) (name : Bytes) : Prop
  | regular (checked : checkHeader session.kinds header name = .ok .regular)
      (admitted : session.admits header.fileLength.toNat = true)
  | symlink (checked : checkHeader session.kinds header name = .ok .symlink)
      (short : header.fileLength.toNat ≤ greatestPathLength - 1)

/-- The session in which more bytes are counted. -/
def charge (session : Session) (length : Nat) : Session :=
  { session with totalBytes := session.totalBytes + length }

/-- What can become of an entry that is checked: the session that follows, and the verdict. -/
inductive Settled (session : Session) (header : EntryHeader) (name : Bytes) :
    Session × Verdict EntryKind → Prop
  /-- It is refused before it is counted. -/
  | refused {refusal : Refusal} (uncounted : ¬session.Counts header name)
      (early : refusal.isLate header = false) :
      Settled session header name (session, .error (.refused refusal))
  /-- It is a directory, which is not counted. -/
  | directory (uncounted : ¬session.Counts header name) :
      Settled session header name (session, .ok .directory)
  /-- The total with its bytes is no number of 64 bits. -/
  | fault (counts : session.Counts header name)
      (tooMuch : Word.limit ≤ session.totalBytes + header.fileLength.toNat) :
      Settled session header name (session, .error .fault)
  /-- It is counted and admitted. -/
  | admitted {kind : EntryKind} (counts : session.Counts header name)
      (fits : session.totalBytes + header.fileLength.toNat < Word.limit)
      (counted : kind ≠ .directory)
      (within : ∀ greatest, session.limits.bytes = some greatest →
        session.totalBytes + header.fileLength.toNat ≤ greatest) :
      Settled session header name (session.charge header.fileLength.toNat, .ok kind)
  /-- It is a link that is counted and then refused. -/
  | forfeited {refusal : Refusal} (counts : session.Counts header name)
      (fits : session.totalBytes + header.fileLength.toNat < Word.limit)
      (late : refusal.isLate header = true) :
      Settled session header name
        (session.charge header.fileLength.toNat, .error (.refused refusal))

theorem addBytes_eq_none_iff {length : Nat} :
    session.addBytes length = none ↔ Word.limit ≤ session.totalBytes + length := by
  rw [addBytes, Option.map_eq_none_iff, Word.add, Word.fit]
  split <;> simp <;> omega

theorem addBytes_eq_some_iff {length : Nat} {counted : Session} :
    session.addBytes length = some counted ↔
      session.totalBytes + length < Word.limit ∧ session.charge length = counted := by
  simp only [addBytes, Option.map_eq_some_iff, Word.add_eq_some_iff]
  constructor
  · rintro ⟨_, ⟨fits, rfl⟩, rfl⟩
    exact ⟨fits, rfl⟩
  · rintro ⟨fits, rfl⟩
    exact ⟨_, ⟨fits, rfl⟩, rfl⟩

theorem settled_admitRegular (checked : checkHeader session.kinds header name = .ok .regular) :
    Settled session header name (session.admitRegular header.fileLength.toNat) := by
  unfold admitRegular
  split
  · rename_i admitted
    have counts : session.Counts header name := .regular checked admitted
    split
    · rename_i full
      exact .fault counts (addBytes_eq_none_iff.mp full)
    · rename_i room
      obtain ⟨fits, rfl⟩ := addBytes_eq_some_iff.mp room
      exact .admitted counts fits nofun (admits_iff.mp admitted).2
  · rename_i barred
    refine .refused ?_ ?_
    · rintro (⟨_, admitted⟩ | ⟨symlink, _⟩)
      · exact barred admitted
      · cases checked.symm.trans symlink
    · have regular := typeBits_of_regular (kindOf_of_checkHeader checked)
      simp [Refusal.isLate, regular]

theorem settled_admitSymlink (checked : checkHeader session.kinds header name = .ok .symlink)
    (target : Bytes) :
    Settled session header name (session.admitSymlink header.fileLength.toNat name target) := by
  have link := typeBits_of_symlink (kindOf_of_checkHeader checked)
  unfold admitSymlink
  split
  · rename_i long
    refine .refused ?_ rfl
    rintro (⟨regular, _⟩ | ⟨_, short⟩)
    · cases checked.symm.trans regular
    · exact absurd short (Nat.not_le.mpr long)
  · rename_i short
    have counts : session.Counts header name := .symlink checked (Nat.not_lt.mp short)
    split
    · rename_i full
      exact .fault counts (addBytes_eq_none_iff.mp full)
    · rename_i room
      obtain ⟨fits, rfl⟩ := addBytes_eq_some_iff.mp room
      split
      · exact .forfeited counts fits (by simp [Refusal.isLate, link])
      · rename_i within
        split
        · exact .forfeited counts fits rfl
        · exact .admitted counts fits nofun (exceeds_eq_false_iff.mp (Bool.eq_false_iff.mpr within))

/-- **Every check of an entry comes to one of these ends.** -/
theorem settled_checkEntry (session : Session) (header : EntryHeader) (name : Bytes)
    (target : Option Bytes) :
    Settled session header name (session.checkEntry header name target) := by
  unfold checkEntry
  split
  · rename_i refusal refused
    refine .refused ?_ (isLate_of_checkHeader refused)
    rintro (⟨regular, _⟩ | ⟨symlink, _⟩)
    · cases refused.symm.trans regular
    · cases refused.symm.trans symlink
  · rename_i regular
    exact settled_admitRegular regular
  · rename_i directory
    refine .directory ?_
    rintro (⟨regular, _⟩ | ⟨symlink, _⟩)
    · cases directory.symm.trans regular
    · cases directory.symm.trans symlink
  · rename_i symlink
    exact settled_admitSymlink symlink _

/-! ## What a call does to the totals -/

/-- Beginning an entry changes nothing but the number of entries, which grows by one where an
entry may be sent, and then keeps to the limit. -/
theorem beginEntry_eq (session : Session) (header : EntryHeader) : ∃ totalFiles,
    (session.beginEntry header).1 = { session with totalFiles } ∧ session.totalFiles ≤ totalFiles ∧
      ((session.beginEntry header).2 = .ok true → totalFiles = session.totalFiles + 1 ∧
        ∀ greatest, session.limits.files = some greatest → totalFiles ≤ greatest) := by
  unfold beginEntry
  split
  · exact ⟨_, rfl, Nat.le_refl _, nofun⟩
  · split
    · exact ⟨_, rfl, Nat.le_refl _, nofun⟩
    · rename_i totalFiles counted
      obtain ⟨_, rfl⟩ := Word.add_eq_some_iff.mp counted
      dsimp only
      split
      · exact ⟨_, rfl, Nat.le_succ _, nofun⟩
      · rename_i within
        have within := exceeds_eq_false_iff.mp (Bool.eq_false_iff.mpr within)
        split
        · exact ⟨_, rfl, Nat.le_succ _, nofun⟩
        · exact ⟨_, rfl, Nat.le_succ _, fun _ => ⟨rfl, within⟩⟩

/-- A check never counts an entry as a further one. -/
theorem totalFiles_checkEntry (session : Session) (header : EntryHeader) (name : Bytes)
    (target : Option Bytes) :
    (session.checkEntry header name target).1.totalFiles = session.totalFiles := by
  have settled := settled_checkEntry session header name target
  generalize session.checkEntry header name target = outcome at settled
  cases settled <;> rfl

/-- A check adds to the total what it admits and what it forfeits. -/
theorem totalBytes_checkEntry (session : Session) (header : EntryHeader) (name : Bytes)
    (target : Option Bytes) :
    (session.checkEntry header name target).1.totalBytes = session.totalBytes +
      (Exchange.checked header name target (session.checkEntry header name target).2).admitted +
      (Exchange.checked header name target
        (session.checkEntry header name target).2).forfeited := by
  have settled := settled_checkEntry session header name target
  generalize session.checkEntry header name target = outcome at settled
  cases settled with
  | refused _ early => simp [Exchange.admitted, Exchange.forfeited, early]
  | directory => rfl
  | fault => rfl
  | @admitted kind _ _ counted =>
      cases kind with
      | regular => rfl
      | directory => exact absurd rfl counted
      | symlink => rfl
  | forfeited _ _ late => simp [Exchange.admitted, Exchange.forfeited, late, charge]

theorem totalBytes_perform (session : Session) (call : Call) :
    (session.perform call).1.totalBytes = session.totalBytes +
      (session.perform call).2.admitted + (session.perform call).2.forfeited := by
  cases call with
  | digest received => rfl
  | beginEntry header =>
      obtain ⟨_, begun, _⟩ := session.beginEntry_eq header
      simp only [perform_beginEntry, begun]
      rfl
  | checkEntry header name target => exact session.totalBytes_checkEntry header name target

/-- No call changes what a session accepts. -/
theorem terms_perform (session : Session) (call : Call) :
    (session.perform call).1.kinds = session.kinds ∧
      (session.perform call).1.limits = session.limits := by
  cases call with
  | digest received => exact ⟨rfl, rfl⟩
  | beginEntry header =>
      obtain ⟨_, begun, _⟩ := session.beginEntry_eq header
      simp only [perform_beginEntry, begun, and_self]
  | checkEntry header name target =>
      have settled := session.settled_checkEntry header name target
      rw [perform_checkEntry]
      generalize session.checkEntry header name target = outcome at settled
      cases settled <;> exact ⟨rfl, rfl⟩

/-! ## Whole transfers -/

theorem terms_after (session : Session) (calls : List Call) :
    (session.after calls).kinds = session.kinds ∧
    (session.after calls).limits = session.limits := by
  induction calls generalizing session with
  | nil => exact ⟨rfl, rfl⟩
  | cons call later ih =>
      obtain ⟨kinds, limits⟩ := session.terms_perform call
      obtain ⟨kindsAfter, limitsAfter⟩ := ih (session.perform call).1
      exact ⟨kindsAfter.trans kinds, limitsAfter.trans limits⟩

/-- **The total grows by what is admitted and by what is forfeited,** and by nothing else. -/
theorem totalBytes_after (session : Session) (calls : List Call) :
    (session.after calls).totalBytes = session.totalBytes +
      ((session.exchanges calls).map Exchange.admitted).sum +
      ((session.exchanges calls).map Exchange.forfeited).sum := by
  induction calls generalizing session with
  | nil => rfl
  | cons call later ih =>
      rw [after, exchanges, ih, totalBytes_perform, List.map_cons, List.map_cons, List.sum_cons,
        List.sum_cons]
      omega

/-- **The total is what was admitted exactly if nothing was forfeited.**  After any calls,
the total of bytes is the sum over the regular files and the links that were admitted if and only if
no link with any bytes was refused after it was counted.  A further check that fails leaves the
number of entries as it was, and the total of bytes if and only if it forfeits none. -/
theorem totalBytes_eq_sum_admitted_iff (kinds : Kinds) (limits : Limits) (calls : List Call) :
    let session := (start kinds limits).after calls
    let exchanges := (start kinds limits).exchanges calls
    (session.totalBytes = (exchanges.map Exchange.admitted).sum ↔
        ∀ exchange ∈ exchanges, exchange.forfeited = 0) ∧
      ∀ header name target halt, (session.checkEntry header name target).2 = .error halt →
        (session.checkEntry header name target).1.totalFiles = session.totalFiles ∧
        ((session.checkEntry header name target).1.totalBytes = session.totalBytes ↔
          (Exchange.checked header name target (.error halt)).forfeited = 0) := by
  intro session exchanges
  constructor
  · have total : session.totalBytes = 0 + (exchanges.map Exchange.admitted).sum +
        (exchanges.map Exchange.forfeited).sum := totalBytes_after _ calls
    have none : (exchanges.map Exchange.forfeited).sum = 0 ↔
        ∀ exchange ∈ exchanges, exchange.forfeited = 0 := by
      rw [List.sum_eq_zero_iff_forall_eq_nat, List.forall_mem_map]
    rw [← none]
    omega
  · intro header name target halt failed
    have total := session.totalBytes_checkEntry header name target
    rw [failed] at total
    have unadmitted : (Exchange.checked header name target (.error halt)).admitted = 0 := rfl
    refine ⟨session.totalFiles_checkEntry header name target, ?_⟩
    omega

/-- The header of an entry with a name of nine bytes. -/
def headerOf (mode : UInt32) (fileLength : UInt64) : EntryHeader where
  nameLength := 10
  mode := mode
  fileLength := fileLength
  accessSeconds := 0
  accessNanoseconds := 0
  changeSeconds := 0
  changeNanoseconds := 0

/-- A link that leads out of the transfer is refused, and its bytes stay counted. -/
theorem escaping_link_stays_counted :
    let session := start .all ⟨some 100, none⟩
    let answer := session.checkEntry (headerOf 0xA1FF 9) (Bytes.ofText "docs/link")
      (some (Bytes.ofText "../../etc"))
    answer.2.isOk = false ∧ session.totalBytes = 0 ∧ answer.1.totalBytes = 9 := by
  decide +kernel

/-- A session that has admitted 60 bytes of 100. -/
def partlyUsed : Session :=
  (start .all ⟨some 100, none⟩).after
    [.checkEntry (headerOf 0x81A4 60) (Bytes.ofText "docs/file") none]

/-- A file that is too much for the limit is refused and not counted. -/
theorem large_file_is_not_counted :
    let answer := partlyUsed.checkEntry (headerOf 0x81A4 41) (Bytes.ofText "docs/more") none
    answer.2 = .error (.refused .quotaExceeded) ∧ answer.1.totalFiles = partlyUsed.totalFiles ∧
      answer.1.totalBytes = partlyUsed.totalBytes := by
  have refused : (partlyUsed.checkEntry (headerOf 0x81A4 41) (Bytes.ofText "docs/more") none).2 =
      .error (.refused .quotaExceeded) := by
    decide +kernel
  obtain ⟨files, bytes⟩ :=
    (totalBytes_eq_sum_admitted_iff .all ⟨some 100, none⟩ _).2 _ _ _ _ refused
  exact ⟨refused, files, bytes.mpr (by decide)⟩

end Session

end TrustBoundary.Transfer

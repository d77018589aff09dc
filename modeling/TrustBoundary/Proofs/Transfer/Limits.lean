import TrustBoundary.Proofs.Transfer.Accounting

/-!
# The limits of a transfer

The limits of a transfer hold for all that is ever admitted, in whatever order a session is asked
and however often it refused (`quotas_hold`).  What is admitted from now on fits into what is
left of a limit, and a call takes away at least as much as it admits
(`countP_opensEntry_le`, `sum_admitted_le`).

Besides these there is the limit of 64 bits.  A check ends with a fault where an entry is
counted that the total has no room for (`checkEntry_eq_fault_iff`).  Regular files are held
against the limit of the transfer first, which keeps the total small, but only if there is one.
Links are counted first, so they reach the end of 64 bits under any limit (`checkEntry_faults_iff`).
-/

set_option autoImplicit false

namespace TrustBoundary.Transfer.Session

variable {session : Session} {limits : Limits} {greatest : Nat}

/-! ## What is left of a limit -/

/-- No call takes an entry back, and one that lets an entry be sent counts it within the limit. -/
theorem opensEntry_perform (session : Session) (call : Call) :
    session.totalFiles ≤ (session.perform call).1.totalFiles ∧
      ((session.perform call).2.opensEntry = true →
        (session.perform call).1.totalFiles = session.totalFiles + 1 ∧
          ∀ greatest, session.limits.files = some greatest →
            (session.perform call).1.totalFiles ≤ greatest) := by
  cases call with
  | digest received => exact ⟨Nat.le_refl _, nofun⟩
  | beginEntry header =>
      obtain ⟨totalFiles, begun, grows, opened⟩ := session.beginEntry_eq header
      simp only [perform_beginEntry, begun, Exchange.opensEntry_begun_iff]
      exact ⟨grows, opened⟩
  | checkEntry header name target =>
      exact ⟨Nat.le_of_eq (session.totalFiles_checkEntry header name target).symm, nofun⟩

/-- A call that admits anything leaves a total within the limit. -/
theorem totalBytes_le_of_admitted (limited : session.limits.bytes = some greatest) {call : Call}
    (admits : 0 < (session.perform call).2.admitted) :
    (session.perform call).1.totalBytes ≤ greatest := by
  cases call with
  | digest received => exact absurd admits (Nat.lt_irrefl 0)
  | beginEntry header => exact absurd admits (Nat.lt_irrefl 0)
  | checkEntry header name target =>
      have settled := session.settled_checkEntry header name target
      rw [perform_checkEntry] at admits ⊢
      generalize session.checkEntry header name target = outcome at settled admits
      cases settled with
      | admitted _ _ _ within => exact within greatest limited
      | refused | directory | fault | forfeited => exact absurd admits (Nat.lt_irrefl 0)

/-- The entries that may be sent from now on are no more than what is left of the limit. -/
theorem countP_opensEntry_le (limited : session.limits.files = some greatest) (calls : List Call) :
    (session.exchanges calls).countP Exchange.opensEntry ≤ greatest - session.totalFiles := by
  induction calls generalizing session with
  | nil => exact Nat.zero_le _
  | cons call later ih =>
      obtain ⟨grows, opened⟩ := session.opensEntry_perform call
      have rest := ih ((session.terms_perform call).2 ▸ limited)
      rw [exchanges, List.countP_cons]
      split
      · rename_i opens
        obtain ⟨one, within⟩ := opened opens
        have within := within greatest limited
        omega
      · omega

/-- The bytes that are admitted from now on are no more than what is left of the limit. -/
theorem sum_admitted_le (limited : session.limits.bytes = some greatest) (calls : List Call) :
    ((session.exchanges calls).map Exchange.admitted).sum ≤ greatest - session.totalBytes := by
  induction calls generalizing session with
  | nil => exact Nat.zero_le _
  | cons call later ih =>
      have total := session.totalBytes_perform call
      have rest := ih ((session.terms_perform call).2 ▸ limited)
      rw [exchanges, List.map_cons, List.sum_cons]
      by_cases admits : 0 < (session.perform call).2.admitted
      · have within := totalBytes_le_of_admitted limited admits
        omega
      · omega

/-- **The limits hold for whole transfers.**  However a session is asked, no more entries are
allowed to be sent than the limit says, and the regular files and links that are admitted hold no
more bytes than the limit says. -/
theorem quotas_hold (kinds : Kinds) (limits : Limits) (calls : List Call) :
    let exchanges := (start kinds limits).exchanges calls
    (∀ greatest, limits.files = some greatest →
        exchanges.countP Exchange.opensEntry ≤ greatest) ∧
      ∀ greatest, limits.bytes = some greatest →
        (exchanges.map Exchange.admitted).sum ≤ greatest := by
  constructor
  · intro greatest limited
    have limited : (start kinds limits).limits.files = some greatest := limited
    exact countP_opensEntry_le limited calls
  · intro greatest limited
    have limited : (start kinds limits).limits.bytes = some greatest := limited
    exact sum_admitted_le limited calls

/-- A sender that goes on after every refusal: the second file is too much for a limit of 100 bytes,
the link leads out of the transfer, and the third entry is too much for a limit of two. -/
def stubbornCalls : List Call :=
  [ .beginEntry (headerOf 0x81A4 60),
    .checkEntry (headerOf 0x81A4 60) (Bytes.ofText "docs/file") none,
    .beginEntry (headerOf 0x81A4 41),
    .checkEntry (headerOf 0x81A4 41) (Bytes.ofText "docs/more") none,
    .checkEntry (headerOf 0xA1FF 9) (Bytes.ofText "docs/link") (some (Bytes.ofText "../../etc")),
    .beginEntry (headerOf 0x81A4 31),
    .checkEntry (headerOf 0x81A4 31) (Bytes.ofText "docs/last") none ]

theorem quotas_hold_stubbornCalls :
    let exchanges := (start .all ⟨some 100, some 2⟩).exchanges stubbornCalls
    exchanges.countP Exchange.opensEntry ≤ 2 ∧ (exchanges.map Exchange.admitted).sum ≤ 100 ∧
      exchanges.countP Exchange.opensEntry = 2 ∧ (exchanges.map Exchange.admitted).sum = 91 := by
  obtain ⟨files, bytes⟩ := quotas_hold .all ⟨some 100, some 2⟩ stubbornCalls
  exact ⟨files 2 rfl, bytes 100 rfl, by decide +kernel, by decide +kernel⟩

/-! ## The limit of 64 bits -/

/-- **A check ends with a fault exactly where it counts an entry that the total has no room
for.** -/
theorem checkEntry_eq_fault_iff (session : Session) (header : EntryHeader) (name : Bytes)
    (target : Option Bytes) :
    (session.checkEntry header name target).2 = .error .fault ↔
      session.Counts header name ∧ Word.limit ≤ session.totalBytes + header.fileLength.toNat := by
  have settled := session.settled_checkEntry header name target
  generalize session.checkEntry header name target = outcome at settled
  cases settled with
  | refused uncounted => exact iff_of_false nofun fun full => uncounted full.1
  | directory uncounted => exact iff_of_false nofun fun full => uncounted full.1
  | fault counts tooMuch => exact iff_of_true rfl ⟨counts, tooMuch⟩
  | admitted _ fits => exact iff_of_false nofun fun full => absurd fits (Nat.not_lt.mpr full.2)
  | forfeited _ fits => exact iff_of_false nofun fun full => absurd fits (Nat.not_lt.mpr full.2)

/-- What is counted beyond 64 bits is a link, or a regular file of a transfer without a limit. -/
theorem counts_iff_of_limit_le {header : EntryHeader} {name : Bytes}
    (numbers : ∀ greatest, session.limits.bytes = some greatest → greatest < Word.limit)
    (tooMuch : Word.limit ≤ session.totalBytes + header.fileLength.toNat) :
    session.Counts header name ↔
      checkHeader session.kinds header name = .ok .regular ∧ session.limits.bytes = none ∧
          header.fileLength.toNat ≤ greatestFileLength ∨
        checkHeader session.kinds header name = .ok .symlink ∧
          header.fileLength.toNat ≤ greatestPathLength - 1 := by
  constructor
  · rintro (⟨checked, admitted⟩ | ⟨checked, short⟩)
    · obtain ⟨possible, within⟩ := admits_iff.mp admitted
      refine .inl ⟨checked, ?_, possible⟩
      cases limited : session.limits.bytes with
      | none => rfl
      | some greatest =>
          have within := within greatest limited
          have number := numbers greatest limited
          omega
    · exact .inr ⟨checked, short⟩
  · rintro (⟨checked, unlimited, possible⟩ | ⟨checked, short⟩)
    · refine .regular checked (admits_iff.mpr ⟨possible, fun greatest limited => ?_⟩)
      cases unlimited.symm.trans limited
    · exact .symlink checked short

/-- **When a check overflows.**  After any calls, checking a further entry ends with a fault exactly
if the entry takes what was counted so far beyond 64 bits and is not stopped before.  A link
with a target of possible length is not stopped under any limit, and a regular file of possible
length is not stopped where there is no limit. -/
theorem checkEntry_faults_iff (kinds : Kinds) {limits : Limits}
    (numbers : ∀ greatest, limits.bytes = some greatest → greatest < Word.limit)
    (calls : List Call) (header : EntryHeader) (name : Bytes) (target : Option Bytes) :
    let exchanges := (start kinds limits).exchanges calls
    let counted := (exchanges.map Exchange.admitted).sum + (exchanges.map Exchange.forfeited).sum
    (((start kinds limits).after calls).checkEntry header name target).2 = .error .fault ↔
      Word.limit ≤ counted + header.fileLength.toNat ∧
        (checkHeader kinds header name = .ok .regular ∧ limits.bytes = none ∧
            header.fileLength.toNat ≤ greatestFileLength ∨
          checkHeader kinds header name = .ok .symlink ∧
            header.fileLength.toNat ≤ greatestPathLength - 1) := by
  intro exchanges counted
  have total : ((start kinds limits).after calls).totalBytes = counted := by
    have sum := (start kinds limits).totalBytes_after calls
    rw [show (start kinds limits).totalBytes = 0 from rfl, Nat.zero_add] at sum
    exact sum
  have sameKinds : ((start kinds limits).after calls).kinds = kinds := (terms_after _ calls).1
  have sameLimits : ((start kinds limits).after calls).limits = limits := (terms_after _ calls).2
  rw [checkEntry_eq_fault_iff, and_comm, total]
  refine and_congr_right fun tooMuch => ?_
  rw [counts_iff_of_limit_le (by rw [sameLimits]; exact numbers) (by rw [total]; exact tooMuch),
    sameKinds, sameLimits]

/-- Two files of the greatest possible length. -/
def hugeFiles : List Call :=
  [.checkEntry (headerOf 0x81A4 0x7FFFFFFFFFFFFFFF) (Bytes.ofText "docs/one1") none,
    .checkEntry (headerOf 0x81A4 0x7FFFFFFFFFFFFFFF) (Bytes.ofText "docs/two2") none]

/-- Under the greatest limit two such files are admitted, and then a good link is not refused
but overflows.  Without a limit a third file does so too. -/
theorem link_overflows_after_hugeFiles :
    (((start .all ⟨some Word.greatest, none⟩).after hugeFiles).checkEntry (headerOf 0xA1FF 9)
      (Bytes.ofText "docs/link") (some (Bytes.ofText "sub/a.txt"))).2 = .error .fault ∧
    (((start .all ⟨none, none⟩).after hugeFiles).checkEntry (headerOf 0x81A4 2)
      (Bytes.ofText "docs/last") none).2 = .error .fault := by
  decide +kernel

/-- A file of one byte still fits behind them. -/
theorem byte_fits_after_hugeFiles :
    (∀ greatest, (⟨none, none⟩ : Limits).bytes = some greatest → greatest < Word.limit) ∧
    (((start .all ⟨none, none⟩).after hugeFiles).checkEntry (headerOf 0x81A4 1)
      (Bytes.ofText "docs/last") none).2 ≠ .error .fault := by
  have numbers : ∀ greatest, (⟨none, none⟩ : Limits).bytes = some greatest →
    greatest < Word.limit :=
    nofun
  refine ⟨numbers, fun fault => ?_⟩
  have tooMuch := ((checkEntry_faults_iff .all numbers hugeFiles _ _ _).mp fault).1
  exact absurd tooMuch (by decide +kernel)

end TrustBoundary.Transfer.Session

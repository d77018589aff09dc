import Mathlib.Control.Monad.Basic
import TrustBoundary.Proofs.Path.Acceptance
import TrustBoundary.Transfer.Session

/-!
# Where symbolic links lead

A symbolic link is resolved by walking from the directory that holds it along the
components of its target.  Where the walk comes to another link, it goes on from the
directory of that one, with the components of its target in front of those that are
left (`advance`).  It need not end.

Each link is checked alone, so a single target climbs no further than to the top-level
directory of its own link.  Along a walk this stays true for two reasons.  The steps to
the parent are all in front of a target (`Counts.shape`), so while any of them is left,
the walk is still above the directory of a link, and there it comes to no other link,
because none lies above another one (`Unnested.not_prefix_parent`).  And where it does
come to a link, nothing is left but names, so the budget of that link is the only one
that counts (`Inside.enter`).

Hence a step keeps a walk inside the top-level directory that it began in
(`Inside.advance`), and no number of steps leads out of it (`never_leaves`).

The links of a transfer are such links, because a session lets no other one pass
(`Link.ofEntry`).
-/

set_option autoImplicit false

namespace TrustBoundary.Path

/-- The component that leads to the parent directory. -/
abbrev dotDot : Bytes := [0x2E, 0x2E]

/-! ## The shape of an accepted path -/

/-- **The steps to the parent come first** in a path that is accepted, and there are no more
of them than the budget allows.  What else there is are names, but for an empty segment
that a slash at the end leaves. -/
theorem Counts.shape {rules : Rules} (canonical : rules.allowNonCanonical = false)
    {budget names count : Nat} {parts : List Bytes}
    (counts : Counts rules budget names parts count) :
    ∃ ups downs, parts = List.replicate ups dotDot ++ downs ∧ dotDot ∉ downs ∧ ups ≤ budget ∧
      (names ≠ 0 → ups = 0) ∧
      (rules.allowTrailingSlash = false → count = names + downs.length) := by
  induction counts with
  | done => exact ⟨0, [], rfl, List.not_mem_nil, Nat.zero_le _, fun _ => rfl, fun _ => rfl⟩
  | closing allowed =>
      refine ⟨0, [[]], rfl, by decide, Nat.zero_le _, fun _ => rfl, fun forbidden => ?_⟩
      rw [forbidden] at allowed
      cases allowed
  | skipped allowed =>
      rw [canonical] at allowed
      cases allowed
  | climbed further ih =>
      obtain ⟨ups, downs, rfl, namesOnly, atMost, _, counted⟩ := ih
      exact ⟨ups + 1, downs, rfl, namesOnly, Nat.succ_le_succ atMost, fun named => absurd rfl named,
        counted⟩
  | @named budget names count segment others proper displayable further ih =>
      obtain ⟨ups, downs, rfl, namesOnly, _, none, counted⟩ := ih
      have other : dotDot ≠ segment := by
        rintro rfl
        cases proper
      rw [none (Nat.succ_ne_zero _)]
      refine ⟨0, segment :: downs, rfl, List.not_mem_cons_of_ne_of_not_mem other namesOnly,
        Nat.zero_le _, fun _ => rfl, fun forbidden => ?_⟩
      rw [counted forbidden, List.length_cons]
      omega

/-- An accepted path has this shape, and without a slash at the end it has as many segments
as names when it may not climb. -/
theorem check_shape {rules : Rules} (canonical : rules.allowNonCanonical = false)
    (named : rules.allowEmpty = false) {untrusted : Bytes} {budget count : Nat}
    (accepted : check untrusted budget rules = .ok count) :
    ∃ ups downs, segments untrusted.untilNul = List.replicate ups dotDot ++ downs ∧
      dotDot ∉ downs ∧ ups ≤ budget ∧
      (rules.allowTrailingSlash = false → count = downs.length) := by
  rcases check_eq_ok_iff.mp accepted with ⟨_, allowed, _⟩ | ⟨_, _, counts⟩
  · rw [named] at allowed
    cases allowed
  · obtain ⟨ups, downs, shape, namesOnly, atMost, _, counted⟩ := counts.shape canonical
    refine ⟨ups, downs, shape, namesOnly, atMost, fun forbidden => ?_⟩
    rw [counted forbidden, Nat.zero_add]

/-! ## Links -/

/-- A symbolic link that is accepted under the strictest rules. -/
structure Link where
  name : Bytes
  target : Bytes
  accepted : checkSymbolicLink name target .strict = .ok ()

namespace Link

/-- The components of the name of a link. -/
def location (link : Link) : List Bytes := segments link.name.untilNul

/-- The directory that holds a link. -/
def parent (link : Link) : List Bytes := link.location.dropLast

/-- The components of the target of a link. -/
def steps (link : Link) : List Bytes := segments link.target.untilNul

/-- A link lies at least one directory deep. -/
theorem two_le_length (link : Link) : 2 ≤ link.location.length := by
  obtain ⟨depth, _, named, deep, _⟩ := checkSymbolicLink_eq_ok_iff.mp link.accepted
  obtain ⟨ups, downs, shape, _, atMost, counted⟩ := check_shape rfl rfl named
  rw [location, shape, List.length_append, List.length_replicate, ← counted rfl]
  omega

/-- The target of a link climbs from its directory at most to the top-level directory. -/
theorem steps_shape (link : Link) : ∃ ups downs, link.steps = List.replicate ups dotDot ++ downs ∧
    dotDot ∉ downs ∧ ups + 2 ≤ link.location.length := by
  obtain ⟨depth, _, named, deep, targeted⟩ := checkSymbolicLink_eq_ok_iff.mp link.accepted
  obtain ⟨climbs, below, location, _, none, counted⟩ := check_shape rfl rfl named
  obtain ⟨ups, downs, steps, namesOnly, atMost, _⟩ := check_shape rfl rfl targeted
  refine ⟨ups, downs, steps, namesOnly, ?_⟩
  rw [Link.location, location, List.length_append, List.length_replicate, ← counted rfl]
  omega

end Link

/-! ## Links of a transfer -/

open Transfer (Session EntryHeader)

/-- A session admits no link that is not accepted. -/
theorem accepted_of_admitSymlink {session : Session} {length : Nat} {name target : Bytes}
    (admitted : (session.admitSymlink length name target).2 = .ok .symlink) :
    checkSymbolicLink name target .strict = .ok () := by
  cases accepted : checkSymbolicLink name target .strict with
  | ok => rfl
  | error violation =>
      simp only [Session.admitSymlink, accepted] at admitted
      repeat' split at admitted
      all_goals cases admitted

/-- What is admitted as a regular file is no link. -/
theorem admitRegular_ne_symlink (session : Session) (length : Nat) :
    (session.admitRegular length).2 ≠ .ok .symlink := by
  unfold Session.admitRegular
  repeat' split
  all_goals nofun

/-- **A transfer lets only accepted links pass.** -/
theorem accepted_of_checkEntry {session : Session} {header : EntryHeader} {name : Bytes}
    {target : Option Bytes}
    (passed : (session.checkEntry header name target).2 = .ok .symlink) :
    checkSymbolicLink name (target.getD []) .strict = .ok () := by
  unfold Session.checkEntry at passed
  cases checked : Session.checkHeader session.kinds header name with
  | error refusal =>
      rw [checked] at passed
      cases passed
  | ok kind =>
      rw [checked] at passed
      cases kind with
      | regular => exact absurd passed (admitRegular_ne_symlink _ _)
      | directory => cases passed
      | symlink => exact accepted_of_admitSymlink passed

/-- The link of an entry that a transfer let pass. -/
def Link.ofEntry (session : Session) (header : EntryHeader) (name : Bytes) (target : Option Bytes)
    (passed : (session.checkEntry header name target).2 = .ok .symlink) : Link :=
  ⟨name, target.getD [], accepted_of_checkEntry passed⟩

/-! ## Walks -/

/-- Where a walk is, and the components that are left. -/
structure Walk where
  location : List Bytes
  pending : List Bytes
deriving DecidableEq, Repr

/-- One step of a walk: at a link, the components of its target come first and the walk
goes on from the directory of the link; elsewhere, the next component is taken.  If
several links had one name, the first of them would count. -/
def advance (links : List Link) (walk : Walk) : Walk :=
  match links.find? fun link => link.location = walk.location with
  | some link => ⟨link.parent, link.steps ++ walk.pending⟩
  | none =>
    match walk.pending with
    | [] => walk
    | step :: pending =>
      if step = [] then ⟨walk.location, pending⟩
      else if step = dotDot then ⟨walk.location.dropLast, pending⟩
      else ⟨walk.location ++ [step], pending⟩

/-- The walk that resolves a link, after a number of steps. -/
def walkAfter (links : List Link) (link : Link) : (count : Nat) → Walk
  | 0 => ⟨link.parent, link.steps⟩
  | count + 1 => advance links (walkAfter links link count)

/-- No link lies below another one. -/
def Unnested (links : List Link) : Prop :=
  ∀ link ∈ links, ∀ other ∈ links, link.location <+: other.location → link.location = other.location

/-! ## Walks stay inside -/

/-- A walk is below the top-level directory `top`, deep enough for the steps to the parent
that are left, and while there are any, it is above the directory of some link. -/
structure Inside (links : List Link) (top : Bytes) (walk : Walk) : Prop where
  below : ∃ path, walk.location = top :: path
  climbs : ∃ ups downs, walk.pending = List.replicate ups dotDot ++ downs ∧ dotDot ∉ downs ∧
    ups < walk.location.length ∧ (0 < ups → ∃ link ∈ links, walk.location <+: link.parent)

variable {links : List Link} {link : Link} {top : Bytes} {location pending : List Bytes}

/-- The parent of what is deep enough is below the same top-level directory. -/
theorem exists_dropLast_eq_cons (below : ∃ path, location = top :: path)
    (deep : 2 ≤ location.length) : ∃ path, location.dropLast = top :: path := by
  obtain ⟨path, rfl⟩ := below
  have nonempty : path ≠ [] := List.length_pos_iff.mp (Nat.le_of_succ_le_succ deep)
  exact ⟨path.dropLast, List.dropLast_cons_of_ne_nil nonempty⟩

/-- No link is the directory of another one, or lies above it. -/
theorem Unnested.not_prefix_parent (unnested : Unnested links) (member : link ∈ links)
    {other : Link} (otherMember : other ∈ links) : ¬link.location <+: other.parent := by
  intro above
  have deep := other.two_le_length
  have shorter := above.length_le
  have same := unnested link member other otherMember (above.trans (List.dropLast_prefix _))
  rw [same, Link.parent, List.length_dropLast] at shorter
  omega

/-- The walk that resolves a link begins inside. -/
theorem inside_start (member : link ∈ links) (below : ∃ path, link.location = top :: path)
    (namesOnly : dotDot ∉ pending) : Inside links top ⟨link.parent, link.steps ++ pending⟩ := by
  obtain ⟨ups, downs, steps, clean, atMost⟩ := link.steps_shape
  refine ⟨exists_dropLast_eq_cons below link.two_le_length, ups, downs ++ pending, ?_, ?_, ?_, ?_⟩
  · rw [steps, List.append_assoc]
  · rw [List.mem_append, not_or]
    exact ⟨clean, namesOnly⟩
  · rw [Link.parent, List.length_dropLast]
    omega
  · exact fun _ => ⟨link, member, List.prefix_refl _⟩

/-- A walk that comes to a link is inside as it goes on. -/
theorem Inside.enter (unnested : Unnested links) (member : link ∈ links)
    (inside : Inside links top ⟨link.location, pending⟩) :
    Inside links top ⟨link.parent, link.steps ++ pending⟩ := by
  obtain ⟨below, ups, downs, shape, namesOnly, _, above⟩ := inside
  have spent : ups = 0 := by
    refine Nat.eq_zero_of_not_pos fun left => ?_
    obtain ⟨other, otherMember, isPrefix⟩ := above left
    exact unnested.not_prefix_parent member otherMember isPrefix
  refine inside_start member below ?_
  rw [show pending = _ from shape, spent]
  exact namesOnly

/-- A walk that takes a component stays inside. -/
theorem Inside.take {step : Bytes} (inside : Inside links top ⟨location, step :: pending⟩) :
    Inside links top
      (if step = [] then ⟨location, pending⟩
      else if step = dotDot then ⟨location.dropLast, pending⟩
      else ⟨location ++ [step], pending⟩) := by
  obtain ⟨below, ups, downs, shape, namesOnly, atMost, above⟩ := inside
  cases ups with
  | zero =>
      -- only names are left
      obtain rfl : step :: pending = downs := shape
      rw [List.mem_cons, not_or] at namesOnly
      rw [if_neg (Ne.symm namesOnly.1)]
      split
      · exact ⟨below, 0, pending, rfl, namesOnly.2, atMost, fun none => nomatch none⟩
      · obtain ⟨path, rfl⟩ := below
        exact ⟨⟨path ++ [step], rfl⟩, 0, pending, rfl, namesOnly.2, Nat.succ_pos _,
          fun none => nomatch none⟩
  | succ ups =>
      obtain ⟨rfl, rfl⟩ : step = dotDot ∧ pending = List.replicate ups dotDot ++ downs :=
        List.cons.inj shape
      obtain ⟨other, member, isPrefix⟩ := above (Nat.succ_pos ups)
      have deep : 2 ≤ location.length := Nat.le_trans (Nat.le_add_left 2 ups) atMost
      rw [if_neg (List.cons_ne_nil _ _), if_pos rfl]
      refine ⟨exists_dropLast_eq_cons below deep, ups, downs, rfl, namesOnly, ?_, ?_⟩
      · rw [List.length_dropLast]
        exact Nat.lt_sub_of_add_lt atMost
      · exact fun _ => ⟨other, member, (List.dropLast_prefix _).trans isPrefix⟩

/-- **A step keeps a walk inside.** -/
theorem Inside.advance {walk : Walk} (unnested : Unnested links) (inside : Inside links top walk) :
    Inside links top (advance links walk) := by
  unfold Path.advance
  split
  · rename_i link found
    have member := List.mem_of_find?_eq_some found
    have here : link.location = walk.location := by simpa using List.find?_some found
    refine Inside.enter unnested member ?_
    rw [here]
    exact inside
  · split
    · exact inside
    · rename_i step pending left
      refine Inside.take ?_
      rw [← left]
      exact inside

/-- **A walk stays inside.** -/
theorem inside_walkAfter (unnested : Unnested links) (member : link ∈ links)
    (below : ∃ path, link.location = top :: path) (count : Nat) :
    Inside links top (walkAfter links link count) := by
  induction count with
  | zero =>
      have start := inside_start member below (List.not_mem_nil : dotDot ∉ [])
      rw [List.append_nil] at start
      exact start
  | succ count ih => exact ih.advance unnested

/-- **Symbolic links do not lead out of their top-level directory**, however far they are
followed. -/
theorem never_leaves (unnested : Unnested links) (member : link ∈ links) :
    ∃ top below, link.location = top :: below ∧
      ∀ count, ∃ path, (walkAfter links link count).location = top :: path := by
  have deep := link.two_le_length
  cases located : link.location with
  | nil => simp [located] at deep
  | cons top below =>
      refine ⟨top, below, rfl, fun count => ?_⟩
      exact (inside_walkAfter unnested member ⟨below, located⟩ count).below

/-- The header of a symbolic link, all of whose permissions are granted. -/
def linkHeader (nameLength : UInt32) (targetLength : UInt64) : EntryHeader where
  nameLength := nameLength
  mode := 0xA1FF
  fileLength := targetLength
  accessSeconds := 0
  accessNanoseconds := 0
  changeSeconds := 0
  changeNanoseconds := 0

/-- A transfer of at most seven bytes. -/
def smallTransfer : Session := .start .all ⟨some 7, none⟩

/-- A link from the middle of a directory tree to one further up. -/
def upwardLink : Link :=
  .ofEntry smallTransfer (linkHeader 6 4) (Bytes.ofText "a/b/c") (some (Bytes.ofText "../x"))
    (by decide +kernel)

/-- A link from there back to the first one, for which the transfer has just enough left. -/
def downwardLink : Link :=
  .ofEntry (smallTransfer.checkEntry (linkHeader 6 4) upwardLink.name upwardLink.target).1
    (linkHeader 4 3) (Bytes.ofText "a/x") (some (Bytes.ofText "b/c")) (by decide +kernel)

/-- Two links that lead to each other do not lead out of their directory either. -/
theorem cycle_never_leaves : Unnested [upwardLink, downwardLink] ∧
    upwardLink ∈ [upwardLink, downwardLink] ∧
    ∃ top below, upwardLink.location = top :: below ∧
      ∀ count, ∃ path,
        (walkAfter [upwardLink, downwardLink] upwardLink count).location = top :: path := by
  have unnested : Unnested [upwardLink, downwardLink] := by
    unfold Unnested
    decide +kernel
  exact ⟨unnested, List.mem_cons_self, never_leaves unnested List.mem_cons_self⟩

example : walkAfter [upwardLink, downwardLink] upwardLink 6 =
    walkAfter [upwardLink, downwardLink] upwardLink 0 := by
  decide +kernel

end TrustBoundary.Path

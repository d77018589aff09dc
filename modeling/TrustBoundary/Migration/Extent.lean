import TrustBoundary.DiskError
import TrustBoundary.Gpt.Basic

/-!
# Which bytes partitions take

A partition is given in sectors, and what has to stay where it is are its
bytes.  `Extent.measure` turns the used entries of a table into byte ranges and
checks that the sectors of the new size can express them.  The two bounds that
a new table has to respect are the least start and the greatest end.  Of several
partitions at a bound, the first is named for the start and the last for the
end.
-/

set_option autoImplicit false

namespace TrustBoundary.Migration

open Logged (refuseIf)

/-- The bytes of a partition, from `start` up to, and not including, `stop`. -/
structure Extent where
  /-- The index of the partition's entry. -/
  index : Nat
  start : Nat
  stop : Nat
deriving DecidableEq, Repr

namespace Extent

/-- The bytes of a used entry under the sector size of its table, if their
positions are 64-bit numbers. -/
def ofEntry (oldBytes index : Nat) (entry : Gpt.Entry) : Except DiskError Extent :=
  let positions : Option Extent := do
    let start ← Word.mul entry.startingLba.toNat oldBytes
    let afterEnd ← Word.add entry.endingLba.toNat 1
    let stop ← Word.mul afterEnd oldBytes
    return { index, start, stop }
  match positions with
  | some extent => .ok extent
  | none => .error (.rejected (.entryOutOfRange index))

/-- Checks that a partition begins and ends at sectors of the new size. -/
def checkAligned (extent : Extent) (newBytes : Nat) : Logged DiskError Unit := do
  Logged.debug (s!"partition {extent.index + 1} consumes bytes " ++
    s!"[{Numeral.hex extent.start}, {Numeral.hex extent.stop})")
  refuseIf (extent.start % newBytes ≠ 0) (.startMisaligned (extent.index + 1) extent.start newBytes)
  refuseIf (extent.stop % newBytes ≠ 0) (.endMisaligned (extent.index + 1) extent.stop newBytes)

/-- The bytes of used entries, each checked to fit the new sector size. -/
def measure (oldBytes newBytes : Nat) : List (Nat × Gpt.Entry) → Logged DiskError (List Extent)
  | [] => return []
  | (index, entry) :: others => do
    let extent ← ofEntry oldBytes index entry
    extent.checkAligned newBytes
    let rest ← measure oldBytes newBytes others
    return extent :: rest

/-- The extent with the least start, the first of them if there are several. -/
def first? : List Extent → Option Extent
  | [] => none
  | extent :: others =>
    match first? others with
    | none => some extent
    | some later => if later.start < extent.start then some later else some extent

/-- The extent with the greatest end, the last of them if there are several. -/
def last? : List Extent → Option Extent
  | [] => none
  | extent :: others =>
    match last? others with
    | none => some extent
    | some later => if later.stop < extent.stop then some extent else some later

end Extent

end TrustBoundary.Migration

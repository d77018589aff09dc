import TrustBoundary.Path.Rules
import TrustBoundary.Text.Display

/-!
# Checking a relative path

A relative path is read once, from left to right.  Where a component begins,
the next bytes decide what it is (`opening`): an empty component, a single dot,
a step to the parent, or a name.  Steps to the parent are allowed only in front
of every name, and only as many as the caller grants, so a path never leads
above the directory that lies that many steps up.  Everything that is not such
a step must consist of displayable characters, the slash among them.

The result is the number of names in the path.  A file name is a path with no
step to the parent (`checkFileName`).  A symbolic link must lie at least one
directory deep, and its target may climb from the directory of the link up to
the top-level directory that holds it (`checkSymbolicLink`).

A path is created by walking its directories one at a time, so a checked path
has to be split into the directories and the last segment (`split`).  The parent
segments of a checked path are real names.  Meeting one that is empty, a dot or
two dots means that the check was left out, and then there is no answer.
-/

set_option autoImplicit false

namespace TrustBoundary.Path

/-- What a component turns out to be where it begins. -/
inductive Opening where
  /-- Nothing: another slash follows at once. -/
  | slash
  /-- The directory itself. -/
  | dot
  /-- The parent directory. -/
  | dotDot
  /-- An ordinary name. -/
  | name
deriving DecidableEq, Repr

/-- What the component at the start of `rest` is: `2F` is a slash and `2E` a dot. -/
def opening (rest : Bytes) : Opening :=
  match rest with
  | 0x2F :: _ => .slash
  | [0x2E] => .dot
  | 0x2E :: 0x2F :: _ => .dot
  | [0x2E, 0x2E] => .dotDot
  | 0x2E :: 0x2E :: 0x2F :: _ => .dotDot
  | _ => .name

/-- Reads the part `rest` of a path that begins at `position`.  `fresh` says
that a component begins here, `budget` is how many steps to the parent are
still granted, and `names` is how many names have begun so far. -/
def scan (rules : Rules) (rest : Bytes) (position : Nat) (fresh : Bool) (budget names : Nat) :
    Except Violation Nat :=
  match rest with
  | [] =>
    if fresh && !(rules.allowTrailingSlash || rules.allowNonCanonical) then
      .error .trailingSlash
    else
      .ok names
  | first :: others =>
    match fresh, opening (first :: others) with
    | true, .slash =>
      if rules.allowNonCanonical then
        scan rules others (position + 1) true budget names
      else
        .error (.repeatedSlash position)
    | true, .dot =>
      if rules.allowNonCanonical then
        scan rules others (position + 1) false budget names
      else
        .error (.dotComponent position)
    | true, .dotDot =>
      if budget = 0 then
        .error (.dotDotComponent position)
      else
        scan rules (others.drop 1) (position + 2) false (budget - 1) names
    | _, _ =>
      match Display.safeWidth position (first :: others) with
      | .error _ => .error (.invalidCharacter position)
      | .ok width =>
        scan rules (others.drop (width - 1)) (position + width) (first = 0x2F)
          (if fresh then 0 else budget) (if fresh then names + 1 else names)
termination_by rest.length
decreasing_by all_goals simp only [List.length_drop, List.length_cons]; omega

/-- Checks a relative path that may begin with up to `budget` steps to the
parent, and counts its names. -/
def check (untrusted : Bytes) (budget : Nat) (rules : Rules) : Except Violation Nat :=
  match untrusted.untilNul with
  | [] => if rules.allowEmpty then .ok 0 else .error .empty
  | 0x2F :: _ => .error .absolute
  | first :: others => scan rules (first :: others) 0 true budget 0

/-- Checks a name that must not refer to anything outside its directory. -/
def checkFileName (untrusted : Bytes) (rules : Rules) : Except Violation Unit :=
  match check untrusted 0 rules with
  | .error violation => .error violation
  | .ok names => if names = 0 && !rules.allowEmpty then .error .empty else .ok ()

/-- Checks a symbolic link called `name` that points to `target`. -/
def checkSymbolicLink (name target : Bytes) (rules : Rules) : Except Violation Unit :=
  match check name 0 rules with
  | .error violation => .error violation
  | .ok depth =>
    if depth < 2 then
      .error .topLevelSymlink
    else
      (check target (depth - 2)
        { rules with allowEmpty := false, allowTrailingSlash := true }).map fun _ => ()

/-- Whether a name is acceptable under the strictest rules. -/
def isFileName (untrusted : Bytes) : Bool := (checkFileName untrusted .strict).isOk

/-- Whether a symbolic link is acceptable under the strictest rules. -/
def isSymbolicLink (name target : Bytes) : Bool := (checkSymbolicLink name target .strict).isOk

/-! ## The segments of a checked path -/

/-- The parts of a text between its slashes: one more than there are slashes. -/
def segments : Bytes → List Bytes
  | [] => [[]]
  | byte :: rest =>
    if byte = 0x2F then
      [] :: segments rest
    else
      match segments rest with
      | [] => [[byte]]
      | segment :: others => (byte :: segment) :: others

/-- Whether a segment names a directory entry other than the directory itself and its parent. -/
def isProper (segment : Bytes) : Bool :=
  segment ≠ [] && segment ≠ [0x2E] && segment ≠ [0x2E, 0x2E]

/-- The parent directories of a checked path, outermost first, and its last segment. -/
def split (checked : Bytes) : Option (List Bytes × Bytes) :=
  let parts := segments checked.untilNul
  let parents := parts.dropLast
  if parents.all isProper then some (parents, parts.getLastD []) else none

end TrustBoundary.Path

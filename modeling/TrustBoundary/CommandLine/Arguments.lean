import TrustBoundary.CommandLine.SizeText

/-!
# Command line arguments

The tool takes a mode and a device, in this order, and options that may stand
anywhere in front of an argument that is just two hyphens.  Behind that
argument everything is positional.  Each option may be given once.  Arguments
are read from left to right, and the first one that is wrong, or that asks for
help or for the version, decides.
-/

set_option autoImplicit false

namespace TrustBoundary.CommandLine

/-- What the tool is asked to do with a device. -/
inductive Mode where
  | check
  | fix
deriving DecidableEq, Repr

/-- The mode with a name. -/
def Mode.ofName? (name : String) : Option Mode :=
  if name = "check" then some .check else if name = "fix" then some .fix else none

/-- A complete request to the tool. -/
structure Invocation where
  mode : Mode
  device : String
  /-- Accept a boot record that describes a FAT or NTFS volume. -/
  skipParameterBlock : Bool
  /-- Show every line of the log. -/
  verbose : Bool
  /-- Take the device as an image file with sectors of this many bytes. -/
  imageSectorSize : Option Nat
deriving DecidableEq, Repr

/-- What command line arguments amount to. -/
inductive Request where
  | run (invocation : Invocation)
  /-- Help was asked for. -/
  | help
  /-- The version was asked for. -/
  | version
  | usageError
  /-- Reading an argument broke a rule of its own. -/
  | fault
deriving DecidableEq, Repr

/-- The device that a request is about, if it is about one. -/
def Request.device? : Request → Option String
  | .run invocation => some invocation.device
  | _ => none

/-- What has been read of the arguments. -/
structure Draft where
  mode : Option Mode
  device : Option String
  skipParameterBlock : Bool
  verbose : Bool
  imageSectorSize : Option Nat
deriving DecidableEq, Repr

namespace Draft

/-- What has been read before the first argument. -/
def start : Draft := ⟨none, none, false, false, none⟩

/-- The request, if nothing is missing. -/
def finish (draft : Draft) : Request :=
  match draft.mode, draft.device with
  | some mode, some device =>
    .run ⟨mode, device, draft.skipParameterBlock, draft.verbose, draft.imageSectorSize⟩
  | _, _ => .usageError

/-- Takes in a positional argument. -/
def addPositional (draft : Draft) (argument : String) : Except Request Draft :=
  match draft.mode, draft.device with
  | none, _ =>
    match Mode.ofName? argument with
    | some mode => .ok { draft with mode := some mode }
    | none => .error .usageError
  | some _, none => .ok { draft with device := some argument }
  | some _, some _ => .error .usageError

/-- Takes in the option for a full log. -/
def addVerbose (draft : Draft) : Except Request Draft :=
  if draft.verbose then .error .usageError else .ok { draft with verbose := true }

/-- Takes in the option for accepting a volume's boot record. -/
def addSkip (draft : Draft) : Except Request Draft :=
  if draft.skipParameterBlock then .error .usageError
  else .ok { draft with skipParameterBlock := true }

/-- Takes in the option for the sector size of an image.  A second one is wrong
whatever its value is. -/
def addSectorSize (draft : Draft) (value : String) : Except Request Draft :=
  if draft.imageSectorSize.isSome then
    .error .usageError
  else
    match SizeText.parse value with
    | .ok bytes => .ok { draft with imageSectorSize := some bytes }
    | .error (.refused _) => .error .usageError
    | .error .fault => .error .fault

/-- Takes in short options that were written together. -/
def addShort (draft : Draft) : List Char → Except Request Draft
  | [] => .ok draft
  | 'v' :: others => draft.addVerbose.bind fun next => next.addShort others
  | 'h' :: _ => .error .help
  | 'V' :: _ => .error .version
  | _ :: _ => .error .usageError

/-- Takes in a long option without a value. -/
def addFlag (draft : Draft) (name : String) : Except Request Draft :=
  if name = "verbose" then draft.addVerbose
  else if name = "unsafe-skip-bpb-check" then draft.addSkip
  else if name = "help" then .error .help
  else if name = "version" then .error .version
  else .error .usageError

end Draft

/-- The name of the option that takes a value. -/
def sectorSizeOption : String := "image-sector-size"

/-- Reads positional arguments. -/
def readPositionals (draft : Draft) : List String → Request
  | [] => draft.finish
  | argument :: others =>
    match draft.addPositional argument with
    | .error request => request
    | .ok next => readPositionals next others

/-- The name and the value of a long option that is written with an equals sign. -/
def splitValue? (option : List Char) : Option (String × String) :=
  if option.contains '=' then
    some (String.ofList (option.takeWhile (· ≠ '=')),
      String.ofList ((option.dropWhile (· ≠ '=')).drop 1))
  else
    none

/-- Takes in one argument that needs no other argument. -/
def addArgument (draft : Draft) (argument : String) : Except Request Draft :=
  match argument.toList with
  | '-' :: '-' :: option =>
    match splitValue? option with
    | some (name, value) =>
      if name = sectorSizeOption then draft.addSectorSize value else .error .usageError
    | none => draft.addFlag (String.ofList option)
  | '-' :: first :: others => draft.addShort (first :: others)
  | _ => draft.addPositional argument

/-- Reads arguments, the option whose value is an argument of its own and the
end of the options among them. -/
def readFrom (draft : Draft) : List String → Request
  | [] => draft.finish
  | "--" :: others => readPositionals draft others
  | "--image-sector-size" :: [] => .usageError
  | "--image-sector-size" :: value :: others =>
    match draft.addSectorSize value with
    | .error request => request
    | .ok next => readFrom next others
  | argument :: others =>
    match addArgument draft argument with
    | .error request => request
    | .ok next => readFrom next others

/-- What command line arguments amount to. -/
def read (arguments : List String) : Request := readFrom Draft.start arguments

end TrustBoundary.CommandLine

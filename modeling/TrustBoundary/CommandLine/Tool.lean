import TrustBoundary.CommandLine.Arguments
import TrustBoundary.Migration.Steps

/-!
# What the tool does

Given what command line arguments amount to and what opening the device gives,
the tool's exit status, the lines it shows and the writes it makes are
determined.  Without details only warnings and errors are shown, and the reason
of a failure is the last line.

The log repeats text that came from outside, such as the name of a device.  Some
control characters steer a terminal: those that begin an escape sequence, ring,
erase or feed, and all of the second control block, `80` to `9F`.  They are shown
by their numbers.  Every other character is shown as it is.
-/

set_option autoImplicit false

namespace TrustBoundary

/-! ## Text shown on a terminal -/

namespace Terminal

/-- The characters of the first control block that steer a terminal, and delete. -/
def steering : List Char := ['\x07', '\x08', '\x0c', '\x1b', '\x7f']

/-- Whether a character belongs to the second control block. -/
def isSecondControl (letter : Char) : Bool := 0x80 ≤ letter.toNat && letter.toNat ≤ 0x9F

/-- A character as it is shown. -/
def showChar (letter : Char) : String :=
  if steering.contains letter then
    "\\x" ++ Numeral.padded 16 2 letter.toNat
  else if isSecondControl letter then
    "\\u\x7b" ++ Numeral.padded 16 0 letter.toNat ++ "\x7d"
  else
    letter.toString

/-- A text as it is shown. -/
def showText (text : String) : String := String.join (text.toList.map showChar)

end Terminal

/-! ## The tool -/

/-- The content of an image file as a disk with sectors of the given size. -/
def Disk.ofImage (content : Disk) (sectorSize : SectorSize) : Except ImageError Disk :=
  if content.size = 0 then .error .emptyMap else .ok { content with sectorSize }

namespace CommandLine

/-- What opening a path gives. -/
structure Opened where
  /-- Why the path cannot be opened for reading, if it cannot. -/
  readError : Option OsError
  /-- The content of the path, opened for reading and writing. -/
  content : Except OsError Disk

/-- What the tool did. -/
structure Report where
  status : Nat
  lines : List LogLine
  /-- The writes that were carried out, in order. -/
  writes : List Write

/-- The exit status after a fault. -/
def faultStatus : Nat := 101

/-- The disk that an invocation is about.  Without a sector size for an image
the device would have to be a block device, and none is supported here. -/
def openDisk (invocation : Invocation) (opened : Opened) : Except DiskError Disk :=
  match invocation.imageSectorSize with
  | some bytes =>
    match SectorSize.ofBytes? bytes, opened.content with
    | none, _ => .error (.unsupportedSectorSize bytes)
    | some _, .error cause => .error (.image (.cannotOpen cause))
    | some sectorSize, .ok content =>
      match content.ofImage sectorSize with
      | .error cause => .error (.image cause)
      | .ok disk => .ok disk
  | none =>
    match opened.readError with
    | some cause => .error (.cannotOpen invocation.device cause)
    | none => .error (.notBlockDevice invocation.device)

/-- The work that an invocation asks for. -/
def work (invocation : Invocation) : Work Unit :=
  match invocation.mode with
  | .check => do
    let disk ← Work.disk
    checkDisk disk invocation.skipParameterBlock
  | .fix => repairDisk invocation.skipParameterBlock

/-- Whether a line is shown. -/
def isShown (invocation : Invocation) (line : LogLine) : Bool :=
  invocation.verbose || line.level.isAlarm

/-- The exit status of an outcome, and the lines that end the log. -/
def ending (outcome : Except (Halt DiskError) Unit) : Nat × List LogLine :=
  match outcome with
  | .ok () => (ExitStatus.success.code, [])
  | .error (.refused reason) => (reason.exitStatus.code, [⟨.error, reason.message⟩])
  | .error .fault => (faultStatus, [])

/-- The writes that were carried out among requests that are given newest first. -/
def storedWrites (requests : List TrustBoundary.Request) : List Write :=
  requests.reverse.filterMap fun
    | .write write true => some write
    | _ => none

/-- A line as it is shown. -/
def shownLine (line : LogLine) : LogLine := { line with text := Terminal.showText line.text }

/-- Does what an invocation asks for. -/
def execute (invocation : Invocation) (opened : Opened) : Report :=
  match openDisk invocation opened with
  | .error reason =>
    let (status, lines) := ending (.error (.refused reason))
    ⟨status, lines.map shownLine, []⟩
  | .ok disk =>
    let (report, device) := (work invocation).run (Device.ofDisk disk)
    let (status, lines) := ending report.outcome
    let shown := (report.lines ++ lines).filter (isShown invocation)
    ⟨status, shown.map shownLine, storedWrites device.requests⟩

/-- Does what command line arguments amount to. -/
def respond (request : Request) (opened : Opened) : Report :=
  match request with
  | .run invocation => execute invocation opened
  | .help | .version => ⟨ExitStatus.success.code, [], []⟩
  | .usageError => ⟨ExitStatus.failure.code, [], []⟩
  | .fault => ⟨faultStatus, [], []⟩

end CommandLine

end TrustBoundary

import TrustBoundary.CommandLine.Tool

/-!
# The command line tool

Reads an image file into a disk, lets the library decide, and then does what it
decided: shows lines, stores writes in the file, and ends with a status.
-/

set_option autoImplicit false

namespace TrustBoundary.CommandLine

/-- The text shown when help is asked for. -/
def helpText : String := "\n".intercalate [
  "Check or repair a GPT after a logical sector size change (512 <-> 4096)",
  "",
  "Usage: [OPTIONS] <MODE> <DEVICE>",
  "",
  "Modes:",
  "  check  Exit with status 7 if the GPT needs to be fixed",
  "  fix    Lay out the GPT anew for the current sector size",
  "",
  "Options:",
  "      --unsafe-skip-bpb-check     Accept a protective MBR with a FAT boot parameter block",
  "  -v, --verbose                   Log every step and dump the GPT",
  "      --image-sector-size <SIZE>  Treat DEVICE as a disk image with this logical sector size",
  "  -h, --help                      Show this help",
  "  -V, --version                   Show the version"]

/-- The text shown when the version is asked for. -/
def versionText : String := "0.1.0"

/-- The number of the operating system behind an error. -/
def osErrorOf : IO.Error → OsError
  | .alreadyExists _ code _ | .otherError code _ | .resourceBusy code _
  | .resourceVanished code _ | .unsupportedOperation code _ | .hardwareFault code _
  | .unsatisfiedConstraints code _ | .illegalOperation code _ | .protocolError code _
  | .timeExpired code _ | .interrupted _ code _ | .noFileOrDirectory _ code _
  | .invalidArgument _ code _ | .permissionDenied _ code _ | .resourceExhausted _ code _
  | .inappropriateType _ code _ | .noSuchThing _ code _ => ⟨code.toNat⟩
  | .unexpectedEof => ⟨5⟩
  | .userError _ => ⟨22⟩

/-- What opening a path for reading gives. -/
def tryReading (path : String) : IO (Option OsError) := do
  try
    discard (IO.FS.Handle.mk path .read)
    return none
  catch reason =>
    return some (osErrorOf reason)

/-- Whether a path names a device node.  Such a file has no length, and reading it
to its end may take forever. -/
def isDeviceNode (path : String) : Bool := path.startsWith "/dev/"

/-- The content of a file that can also be written to.  A device node has none. -/
def tryLoading (path : String) : IO (Except OsError Disk) := do
  try
    let handle ← IO.FS.Handle.mk path .readWrite
    if isDeviceNode path then
      return .ok (Disk.blank .small 0)
    else
      let data ← handle.readBinToEnd
      return .ok ⟨.small, data.size, [⟨0, data⟩]⟩
  catch reason =>
    return .error (osErrorOf reason)

/-- The number of bytes that are passed over at a time. -/
def strideBytes : Nat := 0x100000

/-- Moves from the start of a file to a position. -/
def seek (handle : IO.FS.Handle) (offset : Nat) : IO Unit := do
  handle.rewind
  for _ in [0:offset / strideBytes] do
    discard (handle.read (USize.ofNat strideBytes))
  if offset % strideBytes ≠ 0 then
    discard (handle.read (USize.ofNat (offset % strideBytes)))
  handle.flush

/-- Stores writes in a file, one after the other. -/
def storeAll (path : String) (writes : List Write) : IO Unit := do
  unless writes.isEmpty do
    let handle ← IO.FS.Handle.mk path .readWrite
    for write in writes do
      seek handle write.offset
      handle.write write.data.toByteArray
      handle.flush

/-- Shows a line of the log. -/
def printLine (line : LogLine) : IO Unit := do
  let level := String.ofList (line.level.name.toList.leftpad 5 ' ')
  IO.eprintln s!"{level} {line.text}"

/-- What opening the device of a request gives.  Its content is needed only if
it is taken as an image. -/
def openDevice (request : Request) : IO Opened := do
  match request with
  | .run invocation =>
    let readError ← tryReading invocation.device
    if invocation.imageSectorSize.isSome then
      return ⟨readError, ← tryLoading invocation.device⟩
    else
      return ⟨readError, .ok (Disk.blank .small 0)⟩
  | _ => return ⟨none, .ok (Disk.blank .small 0)⟩

/-- Prints the texts that a request asks for and that are not part of the log. -/
def printTexts (request : Request) : IO Unit := do
  match request with
  | .help => IO.println helpText
  | .version => IO.println versionText
  | .usageError => IO.eprintln helpText
  | .run _ | .fault => return ()

end TrustBoundary.CommandLine

open TrustBoundary.CommandLine

/-- Runs the tool. -/
def main (arguments : List String) : IO UInt32 := do
  let request := read arguments
  printTexts request
  let report := respond request (← openDevice request)
  for line in report.lines do
    printLine line
  if let some device := request.device? then
    storeAll device report.writes
  return UInt32.ofNat report.status

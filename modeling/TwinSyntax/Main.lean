import TwinSyntax.CommandLine

/-!
# The program

Reads the file that the arguments name, hands its content to `CommandLine.dump` and shows the
report.
-/

namespace TwinSyntax.CommandLine

/-- Why a file could not be read. -/
def readFailure : IO.Error → ReadFailure
  | .noFileOrDirectory _ _ _ => .notFound
  | .alreadyExists _ number reason
  | .inappropriateType _ number reason
  | .interrupted _ number reason
  | .invalidArgument _ number reason
  | .noSuchThing _ number reason
  | .permissionDenied _ number reason
  | .resourceExhausted _ number reason
  | .hardwareFault number reason
  | .illegalOperation number reason
  | .otherError number reason
  | .protocolError number reason
  | .resourceBusy number reason
  | .resourceVanished number reason
  | .timeExpired number reason
  | .unsatisfiedConstraints number reason
  | .unsupportedOperation number reason => .system number.toNat reason
  | .unexpectedEof => .system 5 "Input/output error"
  | .userError reason => .system 0 reason

/-- The text of a file, if it has one. -/
def readFile (file : String) : IO (Except ReadFailure String) := do
  match ← (IO.FS.readBinFile file).toBaseIO with
  | .ok bytes => return decode bytes
  | .error e => return .error (readFailure e)

/-- Does what the arguments ask for and returns the exit code. -/
def run (arguments : List String) : IO UInt32 := do
  match Arguments.ofList? arguments with
  | none =>
    IO.eprintln "Usage: --dump [--syntax <name>] <file>"
    return 2
  | some arguments =>
    let report := dump arguments.surfaceName arguments.file (← readFile arguments.file)
    IO.print report.standardOutput
    IO.eprint report.standardError
    return report.exitCode.toUInt32

end TwinSyntax.CommandLine

def main (arguments : List String) : IO UInt32 := TwinSyntax.CommandLine.run arguments

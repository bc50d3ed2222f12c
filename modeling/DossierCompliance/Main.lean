import DossierCompliance.Calendar.Unix
import DossierCompliance.Command.Run
import DossierCompliance.Engine.Seed

/-!
The program of the command line. It reads the files that a command names, takes
the time and a seed, and prints what the command brings forth.
-/

namespace DossierCompliance

/-- Whether an error carries a code of the system, which may be written with a
minus. -/
def carries (found code : UInt32) : Bool := found == code || found == 0 - code

/-- The failure that an error of the system stands for. -/
def fileFailure : IO.Error → FileFailure
  | .noFileOrDirectory .. => .missing
  | .inappropriateType _ code _ => if carries code 21 then .isDirectory else .notDirectory
  | .invalidArgument _ code _ => if carries code 36 then .nameTooLong else .badName
  | e => .other (toString e)

def readContent (path : String) : IO FileContent := do
  try
    return .bytes (← IO.FS.readBinFile path).toList
  catch e =>
    match fileFailure e with
    | .isDirectory => return .directory
    | why => return .failed why

def readFiles (paths : List String) : IO Files := do
  let contents ← paths.mapM fun path => return (path, ← readContent path)
  return fun path =>
    ((contents.find? fun entry => entry.1 == path).map (·.2)).getD (.failed .missing)

/-- The number that a line begins with behind a word and a blank. -/
def numberBehind? (word line : String) : Option Nat :=
  match Text.split ' ' line with
  | first :: second :: _ => if first == word then second.toNat? else none
  | _ => none

/-- The seconds since the start of 1970: those up to the start of the machine,
and those since. -/
def secondsNow : IO Nat := do
  let stat ← IO.FS.readFile "/proc/stat"
  let uptime ← IO.FS.readFile "/proc/uptime"
  let start := ((Text.split '\n' stat).findSome? (numberBehind? "btime")).getD 0
  return start + (String.ofList (uptime.toList.takeWhile Char.isDigit)).toNat?.getD 0

def drawSupply : IO Supply := do
  let seconds ← secondsNow
  let seed ← IO.getRandomBytes 16
  let now := (Instant.ofUnix? seconds 0).getD ⟨⟨1970, 1, 1, by decide⟩, 0, 0, by decide⟩
  return Supply.ofSeed now seed.toList

def helpLines : List String :=
  ["Training Compliance Engine admin tool.",
   "",
   "Usage: tce [-v] <command>",
   "",
   "Commands:",
   "  rules check <FILE>                         Load a rule document and report every problem",
   "  rules list [--rules FILE] [--trigger TO_X] List rules",
   "  dry-run --dossier FILE --target STATUS     Validate a dossier transition in memory",
   "          [--rules FILE] [--actor ID [--role ROLE]] [--json]"]

def versionLine : String := "tce 0.1.0"

def printOutcome (o : Outcome) : IO UInt32 := do
  match o with
  | .printed _ lines => lines.forM fun line => IO.println line
  | .reported _ report => IO.println report.renderIndented
  | .failed why => IO.eprintln ("ERROR " ++ String.intercalate ": " why.causes)
  return o.exitCode.toUInt32

def runArguments (arguments : List String) : IO UInt32 := do
  match Command.ofArguments arguments with
  | .error .help =>
    helpLines.forM fun line => IO.println line
    return 0
  | .error .version =>
    IO.println versionLine
    return 0
  | .error .misuse =>
    IO.eprintln "error: the arguments name no command; see --help"
    return 2
  | .ok c => printOutcome (c.run (← readFiles c.paths) (← drawSupply))

end DossierCompliance

def main (arguments : List String) : IO UInt32 :=
  DossierCompliance.runArguments arguments

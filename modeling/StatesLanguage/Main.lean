import StatesLanguage.CommandLine.Help
import StatesLanguage.CommandLine.Report
import Std.Time.DateTime.Timestamp

/-!
# The program

Reads the command line, the files that it names, the clock and some random octets, and
prints what the command answers.
-/

namespace StatesLanguage

namespace CommandLine

/-- Hexadecimal digits of a number, at least so many. -/
def hexText (width value : Nat) : String :=
  let digits := Nat.toDigits 16 value
  String.ofList (List.replicate (width - digits.length) '0' ++ digits)

/-- An identifier of version seven: milliseconds, then random bits. -/
def identifier (milliseconds : Nat) (random : ByteArray) : String :=
  let noise := random.foldl (fun value octet => 256 * value + octet.toNat) 0
  let time := hexText 12 (milliseconds % twoTo 48)
  let first := hexText 3 (noise % twoTo 12)
  let second := hexText 4 (0x8000 + noise / twoTo 12 % twoTo 14)
  let third := hexText 12 (noise / twoTo 26 % twoTo 48)
  String.intercalate "-"
    [(time.take 8).toString, (time.drop 8).toString, "7" ++ first, second, third]

def readFile? (path : String) : IO (Option ByteArray) := do
  try
    return some (← IO.FS.readBinFile path)
  catch _ =>
    return none

def readClock : IO Instant := do
  let time ← Std.Time.Timestamp.now
  let nanoseconds := time.toNanosecondsSinceUnixEpoch.val
  return ⟨nanoseconds / 1000000000, (nanoseconds % 1000000000).toNat⟩

/-- What an invocation finds around it. -/
def readSurroundings (invocation : Invocation) : IO Surroundings := do
  let contents ← invocation.files.mapM fun path => do
    return (path, ← readFile? path)
  let now ← readClock
  let milliseconds := (now.seconds * 1000).toNat + now.nanoseconds / 1000000
  return {
    file := fun path => (contents.lookup path).join
    now
    freshExecutionId := identifier milliseconds (← IO.getRandomBytes 10)
    freshMachineId := identifier milliseconds (← IO.getRandomBytes 10) }

/-- Answers an invocation on the standard streams. -/
def answer (invocation : Invocation) : IO UInt32 := do
  match invocation.report (← readSurroundings invocation) with
  | .ok report =>
      IO.sleep report.duration.toUInt32
      match report.status with
      | some status => IO.eprintln status
      | none => pure ()
      IO.print report.output
      return 0
  | .error trouble =>
      IO.eprintln ("Error: " ++ trouble.message)
      match trouble.cause? with
      | some cause => IO.eprintln ("\nCaused by:\n    " ++ cause)
      | none => pure ()
      return 1

/-- Answers a command line. -/
def respond (words : List String) : IO UInt32 := do
  match Reading.ofWords (← IO.getEnv "STATELANG_CONFIG") words with
  | .invocation invocation => answer invocation
  | .help topic => do
      IO.print (helpText topic)
      return 0
  | .version topic => do
      IO.print (versionText topic)
      return 0
  | .fault fault => do
      IO.eprintln ("error: " ++ fault.message)
      return 2

end CommandLine

end StatesLanguage

def main (words : List String) : IO UInt32 :=
  StatesLanguage.CommandLine.respond words

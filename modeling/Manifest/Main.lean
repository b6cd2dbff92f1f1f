import Manifest.CommandLine.Run
import Manifest.Event.Line
import Manifest.FileTree.Record
import Manifest.Json.Reader

/-!
# The program

The program takes its command from the arguments and the tree of files from a line of JSON on the
standard input. The variable `TRELLIS_LOG` filters the events, and `SOURCE_DATE_EPOCH` is the time
in seconds.
-/

namespace Manifest.Main

/-- What is printed when the arguments are wrong or help is asked for. -/
def usage : String :=
  "Usage: trellis [--log-format text|json] compile -m DIR -n NODE [-f KEY=VALUE]... [-e ENV]" ++
  " [-c FILE]\n       trellis [--log-format text|json] check -m DIR"

/-- The tree of files in a line of input; there are none in any other line. -/
def treeOf (line : String) : FileTree := ((Json.read? line).bind FileTree.ofJson?).getD .empty

/-- The clock at the time that a variable holds. -/
def clockOf (seconds : Option String) : Clock :=
  ⟨UInt64.ofNat ((seconds.bind String.toNat?).getD 0)⟩

/-- Writes events and messages to the standard error and the result to the standard output. -/
def write (format : LogFormat) (events : List Event) (r : Report) : IO UInt32 := do
  for e in events do
    IO.eprintln (e.line format)
  match r.result with
  | .ok text => IO.println text
  | .error messages => IO.eprintln ("Error: " ++ String.intercalate "\n  " messages)
  return r.exitCode.toUInt32

/-- Runs the command in the arguments. -/
def run (args : List String) : IO UInt32 := do
  match Invocation.read args with
  | .error .help =>
    IO.println usage
    return 0
  | .error .usage =>
    IO.eprintln usage
    return 2
  | .ok i =>
    let tree := treeOf (← (← IO.getStdin).getLine)
    let clock := clockOf (← IO.getEnv "SOURCE_DATE_EPOCH")
    let filter := EventFilter.ofText (← IO.getEnv "TRELLIS_LOG")
    let report := i.command.run tree clock
    write i.logFormat (report.shownEvents filter) report

end Manifest.Main

/-- Runs the program. -/
def main (args : List String) : IO UInt32 := Manifest.Main.run args

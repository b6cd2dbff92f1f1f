import Manifest.Config
import Manifest.EvalError
import Manifest.Shell.Run

/-!
# Stamping a version

A new catalog gets the output of the version command as its version, or else the time. Any shell may
run the command; the one that is described here is used if none is given.

## Main definitions

* `Version.ofCommand` — the version that a command prints.
* `Version.stamp` — the version for a configuration, a clock and a shell.
-/

namespace Manifest.Version

/-- The failure of a command. -/
def commandFailure (command : String) (status : Shell.Status) (errors : List UInt8) : EvalError :=
  .versionCommand command (status.text ++ ": " ++ Text.trim (Text.decodeLossy errors))

/-- What a command prints, without blanks at the ends. The command must succeed, and a text with a
null character cannot be run at all. -/
def ofCommand (shell : Shell) (command : String) : Except EvalError String :=
  if command.toList.contains '\x00' then
    .error (.versionCommand command "nul byte found in provided data")
  else
    let outcome := shell command
    if outcome.status = .exited 0 then .ok (Text.trim (Text.decodeLossy outcome.output))
    else .error (commandFailure command outcome.status outcome.errors)

/-- The version for a configuration, a clock and a shell, with the reports. -/
def stamp (config : Config) (clock : Clock) (shell : Shell := Shell.run) :
    Except EvalError Version × List Event :=
  match config.effectiveCommand? with
  | none => (.ok (timestamp clock.seconds), [])
  | some line =>
    match ofCommand shell line with
    | .ok output => (.ok (command output), [.commandRan line output])
    | .error e => (.error e, [])

end Manifest.Version

import CopyBench.CommandLine.Scan
import CopyBench.Text.Quoted
/-!
# Help on the command line

The lines that tell a user what the options are, and the complaint about a
command line that was not understood.
-/

namespace CopyBench.CommandLine

/-- What a flag is for. -/
def Flag.purpose : Flag → String
  | info => "Tell all about the recognised devices, and stop"
  | list => "List all devices, and stop"
  | noop => "Report the test cases without running them"
  | validation => "Enable the validation layer"
  | debugLayer => "Enable the debug messenger and the names of objects"
  | forceBlitter => "Copy on the blitter, whatever engine is given"
  | useEvents => "Tag the samples as timed by device events"
  | allowCreationFail => "Do not fail when there is no device to run on"

/-- What a setting is for. -/
def Setting.purpose : Setting → String
  | test => "Run only the test case with this name"
  | deviceIndex => "The number of the device to run on"
  | engine => "The engine to copy on: unknown, rcs, ccs or bcs"
  | size => "Bytes copied per iteration"
  | iterations => "Number of copies to time"
  | contents => "Initial contents: zeros, increasing or random"
  | seed => "Seed of random contents"
  | logConfig => "File with the logging configuration"

/-- What an option is for. -/
def Named.purpose : Named → String
  | flag f => f.purpose
  | setting s => s.purpose
  | help => "Print help"
  | version => "Print the version"

/-- The lines that tell what the options are. -/
def usage : List String :=
  "Options:" :: Named.all.flatMap fun named => ["  " ++ named.display, "      " ++ named.purpose]

/-- What is wrong with a command line, if something is. -/
def Stop.complaint? : Stop → Option String
  | unknownArgument word => some ("unexpected argument " ++ Text.quoted word)
  | invalidValue setting value | valueValidation setting value =>
    some ("invalid value " ++ Text.quoted value ++ " for " ++ (Named.setting setting).display)
  | tooManyValues named value =>
    some ("unexpected value " ++ Text.quoted value ++ " for " ++ named.display)
  | argumentConflict named => some (named.display ++ " is given more than once")
  | displayHelp | displayVersion => none

end CopyBench.CommandLine

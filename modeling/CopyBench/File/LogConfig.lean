import CopyBench.File.Directory
/-!
# Files with a logging configuration

The extension of such a file says its format. The format is asked for before the
file is looked for.
-/

namespace CopyBench

/-- Why no logging configuration was loaded. -/
inductive LogConfigFault where
  /-- The file has no extension. -/
  | unknownFormat
  /-- The extension is that of no format. -/
  | unsupportedFormat (extension : String)
  /-- The format is one that this program was not built for. -/
  | formatLeftOut (feature name : String)
  | unreadable (fault : FileFault)
deriving DecidableEq, Repr

namespace LogConfigFault

/-- The text of a fault. -/
def message : LogConfigFault → String
  | unknownFormat => "unable to determine the file format"
  | unsupportedFormat extension => "unsupported file format `" ++ extension ++ "`"
  | formatLeftOut feature name =>
    "the `" ++ feature ++ "` feature is required for " ++ name ++ " support"
  | unreadable fault => fault.message

end LogConfigFault

namespace LogConfig

/-- Why a file with an extension cannot be understood, if it cannot. -/
def formatFault? : Option String → Option LogConfigFault
  | some "yaml" | some "yml" => none
  | some "json" => some (.formatLeftOut "json_format" "JSON")
  | some "toml" => some (.formatLeftOut "toml_format" "TOML")
  | some other => some (.unsupportedFormat other)
  | none => some .unknownFormat

/-- Why the file at a path cannot be loaded, if it cannot. `unreadable` says of a
path why its file cannot be read. -/
def fault? (unreadable : String → Option FileFault) (path : String) : Option LogConfigFault :=
  match formatFault? (Path.extension? path) with
  | some fault => some fault
  | none => (unreadable path).map .unreadable

end LogConfig

end CopyBench

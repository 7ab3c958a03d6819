import CopyBench.File.Path
/-!
# Looking for files

A directory holds regular files. Looking for the file at a path goes from name
to name, and fails at the first one that cannot be followed.
-/

namespace CopyBench

/-- Why a file cannot be read, with the number of that reason. -/
structure FileFault where
  number : Nat
  reason : String
deriving DecidableEq, Repr

namespace FileFault

/-- There is no file of that name. -/
def notFound : FileFault := ⟨2, "No such file or directory"⟩

/-- The file may not be read. -/
def denied : FileFault := ⟨13, "Permission denied"⟩

/-- A file stands where the path needs a directory. -/
def notDirectory : FileFault := ⟨20, "Not a directory"⟩

/-- The path leads to a directory. -/
def isDirectory : FileFault := ⟨21, "Is a directory"⟩

/-- The path, or a name in it, is longer than any file's. -/
def nameTooLong : FileFault := ⟨36, "File name too long"⟩

/-- The text of a fault. -/
def message (fault : FileFault) : String :=
  fault.reason ++ " (os error " ++ toString fault.number ++ ")"

end FileFault

/-- A directory with its files. Nothing is known of what lies outside of it. -/
structure Directory where
  files : List String
deriving DecidableEq, Repr

namespace Directory

/-- The most octets that a name can have. -/
def longestName : Nat := 255

/-- The most octets that a path can have. -/
def longestPath : Nat := 4095

/-- Follows names from the directory, or from a place outside of it. -/
def follow (directory : Directory) : Bool → List String → Option FileFault
  | _, [] => some .isDirectory
  | outside, name :: rest =>
    if Path.isIdle name then follow directory outside rest
    else if name = ".." then follow directory true rest
    else if longestName < name.utf8ByteSize then some .nameTooLong
    else if outside || name ∉ directory.files then some .notFound
    else if rest = [] then none
    else some .notDirectory

/-- Why the file at a path cannot be read, if it cannot. -/
def fault? (directory : Directory) (path : String) : Option FileFault :=
  if longestPath < path.utf8ByteSize then some .nameTooLong
  else follow directory (path.startsWith "/") (Path.names path)

end Directory

end CopyBench

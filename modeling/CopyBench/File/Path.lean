/-!
# Paths

A path is a list of names between slashes. Empty names and single dots stand for
the place that was reached before them.
-/

namespace CopyBench.Path

/-- The names of a path, as they stand between its slashes. -/
def names (path : String) : List String := path.splitOn "/"

/-- Whether a name leaves the place as it is. -/
def isIdle (name : String) : Bool := name = "" || name = "."

/-- The name of the file that a path leads to. A path that ends with a step up,
or has no names, leads to none. -/
def fileName? (path : String) : Option String :=
  match ((names path).filter (!isIdle ·)).getLast? with
  | some ".." => none
  | last => last

/-- The text after the last dot of a name, when something stands before that dot. -/
def extensionOf? (name : String) : Option String :=
  match name.toList.reverse.dropWhile (· ≠ '.') with
  | [] | [_] => none
  | _ :: _ :: _ => some (String.ofList (name.toList.reverse.takeWhile (· ≠ '.')).reverse)

/-- The extension of the file that a path leads to. -/
def extension? (path : String) : Option String := (fileName? path).bind extensionOf?

end CopyBench.Path

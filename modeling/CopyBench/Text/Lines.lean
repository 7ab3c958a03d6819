/-!
# Lines

A line ends at a newline. A carriage return right before the newline belongs to
the end of the line, any other belongs to the line.
-/

namespace CopyBench.Text

/-- A line without the carriage return at its end, of which one is taken off. -/
def dropReturn (line : String) : String :=
  match line.toList.reverse with
  | '\r' :: rest => String.ofList rest.reverse
  | _ => line

/-- The lines of a text. What stands after the last newline is a line of its own,
unless nothing does. -/
def lines (text : String) : List String :=
  match (text.splitOn "\n").reverse with
  | [] => []
  | last :: ended => (ended.map dropReturn).reverse ++ (if last = "" then [] else [last])

end CopyBench.Text

/-!
# Text up to ASCII case

The letters `A` to `Z` and `a` to `z` are the only ones whose case is looked
past.
-/

namespace CopyBench.Text

/-- A text with `A` to `Z` in lower case and all else unchanged. -/
def lowerCase (text : String) : String := text.map Char.toLower

/-- Whether two texts differ in the case of ASCII letters at most. -/
def sameUpToCase (a b : String) : Bool := lowerCase a = lowerCase b

end CopyBench.Text

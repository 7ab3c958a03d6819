import CopyBench.Action
/-!
# The console

What a run tells its user: notes logged at a level, and printed text, in the
order they were made. A state that keeps a console is a `Console`.
-/

namespace CopyBench

/-- The severities of notes, the gravest first. -/
inductive Level where
  | error
  | warn
  | info
  | debug
  | trace
deriving DecidableEq, Repr

namespace Level

/-- The place of a level, counted from the gravest. -/
def rank : Level → Nat
  | error => 0
  | warn => 1
  | info => 2
  | debug => 3
  | trace => 4

/-- The word that starts a logged line. -/
def word : Level → String
  | error => "ERROR"
  | warn => "WARN"
  | info => "INFO"
  | debug => "DEBUG"
  | trace => "TRACE"

end Level

/-- One thing that a run told its user. -/
inductive Note where
  | logged (level : Level) (message : String)
  | printed (text : String)
deriving DecidableEq, Repr

namespace Note

/-- The line of a logged note that is at least as grave as `threshold`. -/
def logLine? (threshold : Level) : Note → Option String
  | logged level message =>
    if level.rank ≤ threshold.rank then some (level.word ++ " " ++ message) else none
  | printed _ => none

/-- The printed text of a note. -/
def text? : Note → Option String
  | logged _ _ => none
  | printed text => some text

end Note

/-- A state that keeps what was told to the user. -/
class Console (σ : Type) where
  tell : Note → σ → σ

instance {σ τ : Type} [Console σ] : Console (σ × τ) := ⟨fun note s => (Console.tell note s.1, s.2)⟩

/-- The console of a run that has no other state. -/
structure Notebook where
  notes : Array Note := #[]

instance : Console Notebook := ⟨fun note s => { s with notes := s.notes.push note }⟩

/-- Logs a message. -/
def log {σ : Type} [Console σ] (level : Level) (message : String) : Action σ Unit :=
  modify (Console.tell (.logged level message))

/-- Prints text. -/
def print {σ : Type} [Console σ] (text : String) : Action σ Unit :=
  modify (Console.tell (.printed text))

end CopyBench

import CommandScript.Text.Blank
import CommandScript.Text.Case

/-! Messages of scripts, and how much of them is shown. -/

namespace CommandScript

/-- How much a running script reports. -/
inductive Verbosity where
  /-- Every message, progress included. -/
  | full
  /-- Regular output and errors. -/
  | minimal
  /-- Regular output only. -/
  | quiet
  deriving DecidableEq

/-- The verbosity of whatever does not ask for another. -/
instance : Inhabited Verbosity := ⟨.minimal⟩

namespace Verbosity

/-- The word for a verbosity. -/
def name : Verbosity → String
  | full => "full"
  | minimal => "minimal"
  | quiet => "none"

/-- The verbosity that a text names, up to blanks around it and ASCII case; otherwise the word that names none. -/
def read (s : String) : Except String Verbosity :=
  let word := Text.asciiLower (Text.trim s)
  if word = "full" then .ok full
  else if word = "minimal" then .ok minimal
  else if word = "none" then .ok quiet
  else .error word

/-- What is said of a word that names no verbosity. -/
def unknownMessage (word : String) : String :=
  s!"Unknown verbosity '{word}': expected full, minimal or none."

end Verbosity

/-- What a message is about. -/
inductive MessageKind where
  /-- Regular output. -/
  | info
  /-- Progress. -/
  | good
  /-- Errors and warnings. -/
  | bad
  deriving DecidableEq

/-- Whether messages of a kind are shown at a verbosity. -/
def MessageKind.shownAt : MessageKind → Verbosity → Bool
  | info, _ => true
  | good, v => v = .full
  | bad, v => v ≠ .quiet

end CommandScript

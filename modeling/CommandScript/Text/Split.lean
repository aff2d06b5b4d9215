/-! Cutting texts into pieces and finding one text in another, over lists of characters. -/

namespace CommandScript.Text

/-- The pieces between the occurrences of `sep`. There is always at least one piece. -/
def splitChar (sep : Char) : List Char → List (List Char)
  | [] => [[]]
  | c :: rest =>
    match splitChar sep rest with
    | piece :: more => if c = sep then [] :: piece :: more else (c :: piece) :: more
    | [] => [[c]]

/-- What stands before and after the first `sep`, if there is one. -/
def splitFirst (sep : Char) : List Char → Option (List Char × List Char)
  | [] => none
  | c :: rest =>
    if c = sep then some ([], rest) else (splitFirst sep rest).map fun (before, after) => (c :: before, after)

/-- `cs` without `start` at its beginning, if it begins so. -/
def dropStart? [DecidableEq α] : (start cs : List α) → Option (List α)
  | [], cs => some cs
  | _ :: _, [] => none
  | s :: start, c :: cs => if s = c then dropStart? start cs else none

/-- The pieces of a text between the occurrences of `sep`, read from left to right. `skip` characters belong to
    an occurrence that has begun. An empty separator never occurs. -/
def splitTextFrom (sep : List Char) : (skip : Nat) → List Char → List (List Char)
  | _, [] => [[]]
  | skip + 1, _ :: rest => splitTextFrom sep skip rest
  | 0, c :: rest =>
    if sep.isPrefixOf (c :: rest) && !sep.isEmpty then [] :: splitTextFrom sep (sep.length - 1) rest
    else
      match splitTextFrom sep 0 rest with
      | piece :: more => (c :: piece) :: more
      | [] => [[c]]

/-- The pieces of a text between the occurrences of `sep`. -/
def splitText (sep s : String) : List String :=
  (splitTextFrom sep.toList 0 s.toList).map String.ofList

/-- Whether `part` occurs in `cs`. -/
def occurs [BEq α] (part : List α) : List α → Bool
  | [] => part.isEmpty
  | c :: cs => part.isPrefixOf (c :: cs) || occurs part cs

/-- Whether the text `part` occurs in `s`. -/
def contains (s part : String) : Bool :=
  occurs part.toList s.toList

/-- The pieces of a text between bars. -/
def splitBars (s : String) : List String :=
  (splitChar '|' s.toList).map String.ofList

/-- A line without one carriage return at its end. -/
def dropReturn (line : List Char) : List Char :=
  if line.getLast? = some '\r' then line.dropLast else line

/-- The lines between line feeds. A carriage return right before a line feed belongs to it, and what follows the last
    line feed is a line only if it is not empty. -/
def linesOf : List (List Char) → List (List Char)
  | [] => []
  | [last] => if last.isEmpty then [] else [last]
  | line :: next :: more => dropReturn line :: linesOf (next :: more)

/-- The lines of a text. -/
def lines (s : String) : List String :=
  (linesOf (splitChar '\n' s.toList)).map String.ofList

/-- Texts joined with `sep` between them. -/
def join (sep : String) : List String → String
  | [] => ""
  | [s] => s
  | s :: t :: more => s ++ sep ++ join sep (t :: more)

end CommandScript.Text

import CommandScript.Pattern.CharSet
import CommandScript.Text.Split

/-! What properties of characters are made of: tables of code points in writing, and the two kinds of properties. A
    table is some lines of words. It writes code points in hexadecimal digits. -/

namespace CommandScript.Pattern

/-- The words of several lines, which stand apart by one blank. -/
def tableWords (lines : List String) : List (List Char) :=
  lines.flatMap fun line => Text.splitChar ' ' line.toList

/-- The set that a table lists: single code points such as `5F`, and stretches such as `41-5A`. -/
def CharSet.listed (lines : List String) : CharSet :=
  .ofSpans ((tableWords lines).map fun word =>
    match Text.splitFirst '-' word with
    | some (first, last) => (Text.hexNumber first, Text.hexNumber last)
    | none => (Text.hexNumber word, Text.hexNumber word))

/-- The groups of names that a table lists, each with strokes between its names. -/
def readNames (lines : List String) : List (List String) :=
  (tableWords lines).map fun word => (Text.splitChar '/' word).map String.ofList

/-- A set, unless it is empty. -/
def CharSet.nonempty? (s : CharSet) : Option CharSet :=
  if s.spans.isEmpty then none else some s

/-! ### Divisions -/

/-- A division of the code points into classes with names. A run begins at its code point and goes up to the next
    run. -/
structure Division where
  runs : List (Nat × String)

namespace Division

/-- Words taken as code points and names by turns. -/
def pairUp : List (List Char) → List (Nat × String)
  | first :: name :: rest => (Text.hexNumber first, String.ofList name) :: pairUp rest
  | _ => []

/-- The division that a table writes: the code point where a run begins, and the name of its class, by turns. -/
def read (lines : List String) : Division :=
  ⟨pairUp (tableWords lines)⟩

/-- The runs with names that `p` accepts, as stretches. -/
def stretches (p : String → Bool) : List (Nat × String) → List (Nat × Nat)
  | [] => []
  | [(first, name)] => if p name then [(first, lastCode)] else []
  | (first, name) :: (next, name') :: rest =>
    let others := stretches p ((next, name') :: rest)
    if p name then (first, next - 1) :: others else others

/-- The characters in the classes with names that `p` accepts. -/
def set (d : Division) (p : String → Bool) : CharSet :=
  .ofSpans (stretches p d.runs)

end Division

/-! ### Kinds of properties -/

/-- A property that a character has or has not. Its names are written in lower case, without blanks. -/
structure BinaryProperty where
  names : List String
  set : CharSet

/-- A property with values, which have names too. The first name of a value stands for it. A value may have no set,
    since no character can have it. -/
structure ValuedProperty where
  names : List String
  values : List (List String)
  set? : String → Option CharSet

namespace ValuedProperty

/-- The property whose values are given with their sets. -/
def ofClasses (names : List String) (classes : List (List String × Option CharSet)) : ValuedProperty where
  names := names
  values := classes.map (·.1)
  set? value := (classes.find? fun (names, _) => names.head? == some value).bind (·.2)

/-- The first name of the value that has the name `name` too, if there is such a value. -/
def value? (p : ValuedProperty) (name : String) : Option String :=
  (p.values.find? (·.contains name)).bind List.head?

end ValuedProperty

end CommandScript.Pattern

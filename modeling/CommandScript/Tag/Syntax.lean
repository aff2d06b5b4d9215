/-! Arguments of commands and the tags in them. An argument is literal text with tags `<{ … }>` in between. A
    tag is a chain of keys divided by points; a key may have a parameter in brackets, which is an argument again,
    and two bars introduce the fallback for a chain without a value. -/

namespace CommandScript

mutual

/-- A stretch of an argument. -/
inductive Segment where
  | text (s : String)
  | tag (t : Tag)

/-- An argument of a command, a parameter or a fallback. -/
structure Argument where
  segments : List Segment
  /-- Whether the argument was written between quotes. -/
  quoted : Bool := false

/-- A chain of keys with its fallback. -/
structure Tag where
  parts : List Part
  fallback : Option Argument

/-- A key of a chain with its parameter. -/
structure Part where
  key : String
  param : Option Argument

end

deriving instance BEq for Segment, Argument, Tag, Part

instance : Inhabited Argument := ⟨[], false⟩

/-- An argument of literal text. -/
def Argument.ofText (s : String) : Argument :=
  ⟨[.text s], false⟩

/-- Whether a segment is literal text. -/
def Segment.isText : Segment → Bool
  | .text _ => true
  | .tag _ => false

/-- Whether an argument has no tags. -/
def Argument.isLiteral (a : Argument) : Bool :=
  a.segments.all Segment.isText

/-- The text of segments that have no tags. -/
def literalText : List Segment → Option String
  | [] => some ""
  | .text s :: rest => (literalText rest).map (s ++ ·)
  | .tag _ :: _ => none

/-- The text of an argument without tags. -/
def Argument.literal? (a : Argument) : Option String :=
  literalText a.segments

/-- The tags of an argument, without those inside other tags. -/
def Argument.tags (a : Argument) : List Tag :=
  a.segments.filterMap fun
    | .tag t => some t
    | .text _ => none

/-! ### Source form -/

mutual

/-- The source form of a segment, and `after` behind it. -/
def Segment.write (after : List Char) : Segment → List Char
  | .text s => s.toList ++ after
  | .tag t => '<' :: '\x7b' :: t.write ('\x7d' :: '>' :: after)

/-- The source form of segments in a row, and `after` behind them. -/
def writeSegments (after : List Char) : List Segment → List Char
  | [] => after
  | s :: rest => s.write (writeSegments after rest)

/-- The source form of an argument, and `after` behind it. -/
def Argument.write (after : List Char) : Argument → List Char
  | ⟨segments, _⟩ => writeSegments after segments

/-- The source form of a tag without its delimiters, and `after` behind it. -/
def Tag.write (after : List Char) : Tag → List Char
  | ⟨parts, fallback⟩ => writeParts (writeFallback after fallback) parts

/-- The source form of the keys of a chain, and `after` behind them. -/
def writeParts (after : List Char) : List Part → List Char
  | [] => after
  | [p] => p.write after
  | p :: q :: rest => p.write ('.' :: writeParts after (q :: rest))

/-- The source form of a key with its parameter, and `after` behind it. -/
def Part.write (after : List Char) : Part → List Char
  | ⟨key, param⟩ => key.toList ++ writeParam after param

/-- The source form of a parameter, and `after` behind it. -/
def writeParam (after : List Char) : Option Argument → List Char
  | none => after
  | some a => '[' :: a.write (']' :: after)

/-- The source form of a fallback, and `after` behind it. -/
def writeFallback (after : List Char) : Option Argument → List Char
  | none => after
  | some a => '|' :: '|' :: a.write after

end

/-- The source form of an argument. -/
def Argument.source (a : Argument) : List Char :=
  a.write []

/-- The source text of an argument. -/
def Argument.toText (a : Argument) : String :=
  String.ofList a.source

/-- The source text of a tag, without its delimiters. -/
def Tag.bodyText (t : Tag) : String :=
  String.ofList (t.write [])

/-- The source text of a tag. -/
def Tag.toText (t : Tag) : String :=
  String.ofList (Segment.write [] (.tag t))

end CommandScript

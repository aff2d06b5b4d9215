import CommandScript.Decimal.Whole
import CommandScript.Pattern.Classes
import CommandScript.Pattern.RegexError
import CommandScript.Pattern.Property
import CommandScript.Pattern.Regex
import CommandScript.Text.Alphabetic
import CommandScript.Text.Blank

/-! Reading regular expressions. The reader moves over the pattern from left to right and keeps the flags in force;
    a flag holds up to the end of the group that sets it. Loops are bounded by the length of the pattern, since
    every round consumes a character. A pattern may be well formed and yet have no meaning; what is wrong with its
    meaning is only said once the whole pattern has been read. -/

namespace CommandScript.Pattern

/-- The flags that change what a pattern means. -/
structure Flags where
  caseless : Bool
  /-- Whether `^` and `$` also hold where lines end. -/
  multiLine : Bool := false
  /-- Whether a point matches the end of a line too. -/
  dotAll : Bool := true
  /-- Whether blanks and comments between the parts of a pattern are passed over. -/
  spaced : Bool := false
  /-- Whether repetitions prefer fewer times, and more times where they are marked. -/
  swapped : Bool := false
  /-- Whether classes and case are those of ASCII. Then no class may have other characters. -/
  ascii : Bool := false
  /-- Whether carriage returns end lines too. -/
  returns : Bool := false

/-- A set under the flags in force: with all characters equal up to case, where case does not count. -/
def Flags.fold (f : Flags) (s : CharSet) : CharSet :=
  if !f.caseless then s else if f.ascii then s.caselessAscii else s.caseless

/-- The characters that a point matches. -/
def Flags.dot (f : Flags) : CharSet :=
  if f.dotAll then .all
  else if f.returns then (CharSet.union (.single '\n') (.single '\r')).complement
  else (CharSet.single '\n').complement

/-- Where the reader stands, the flags in force, the number and names of groups so far, and the first fault of
    meaning so far. -/
structure ReaderState where
  chars : Array Char
  pos : Nat
  flags : Flags
  groups : Nat
  names : List (String × Stretch)
  doubt : Option RegexError := none

/-- Reading a part of a pattern. -/
abbrev Reading := StateT ReaderState (Except RegexError)

namespace Reading

/-- Gives up with a fault at a stretch. -/
def fail (start stop : Nat) (fault : RegexFault) : Reading α :=
  throw { fault := fault, place := ⟨start, stop⟩ }

/-- Notes a fault of meaning at a stretch, unless there has been one before. -/
def doubt (start stop : Nat) (fault : RegexFault) : Reading Unit :=
  modify fun s => { s with doubt := s.doubt <|> some { fault := fault, place := ⟨start, stop⟩ } }

/-- The position of the reader. -/
def here : Reading Nat :=
  return (← get).pos

/-- The character at the reader, if the pattern has not ended. -/
def peek? : Reading (Option Char) :=
  return (← get).chars[(← get).pos]?

/-- The character `n` places on. -/
def peekAhead? (n : Nat) : Reading (Option Char) :=
  return (← get).chars[(← get).pos + n]?

/-- Moves on by `n` characters. -/
def skip (n : Nat) : Reading Unit :=
  modify fun s => { s with pos := min (s.pos + n) s.chars.size }

/-- Moves over `text` if it stands at the reader, and says whether it did. -/
def take? (text : String) : Reading Bool := do
  let s ← get
  let cs := text.toList
  if (s.chars.extract s.pos (s.pos + cs.length)).toList == cs then
    skip cs.length
    return true
  return false

/-- The position after blanks and comments. -/
def spaceEnd (chars : Array Char) (comment : Bool) (pos : Nat) : (fuel : Nat) → Nat
  | 0 => pos
  | fuel + 1 =>
    match chars[pos]? with
    | none => pos
    | some c =>
      if comment then spaceEnd chars (c != '\n') (pos + 1) fuel
      else if Text.isBlank c then spaceEnd chars false (pos + 1) fuel
      else if c == '#' then spaceEnd chars true (pos + 1) fuel
      else pos

/-- Moves over blanks and comments, if they do not count. -/
def skipSpace : Reading Unit :=
  modify fun s => if s.flags.spaced then { s with pos := spaceEnd s.chars false s.pos s.chars.size } else s

/-- Moves over a character and the space after it, and says whether the pattern goes on. -/
def advance : Reading Bool := do
  skip 1
  skipSpace
  return (← peek?).isSome

/-- The first character that is not blank. One `#` before it is passed over too, if it is not in a comment. -/
def firstSolid? (comment : Bool) : List Char → Option Char
  | [] => none
  | c :: rest =>
    if Text.isBlank c then firstSolid? comment rest
    else if c == '#' && !comment then firstSolid? true rest
    else some c

/-- The character behind the one at the reader. Where blanks do not count, it is the first behind them, if there is
    one. -/
def peekSolid? : Reading (Option Char) := do
  let s ← get
  let next := s.chars[s.pos + 1]?
  if s.flags.spaced then return firstSolid? false (s.chars.toList.drop (s.pos + 1)) <|> next
  return next

/-- How many rounds a loop over the rest of the pattern may need. -/
def rounds : Reading Nat :=
  return (← get).chars.size + 1

/-! ### Escapes -/

/-- A part of a pattern that is not made of others, and where it stands. -/
inductive Atom where
  | literal (c : Char)
  | assertion (a : Assertion)
  | set (s : CharSet)
  | dot

/-- The character with a code point, if there is one. -/
def charOfCode? (n : Nat) : Option Char :=
  if n < 0xD800 ∨ 0xDFFF < n ∧ n < 0x110000 then some (Char.ofNat n) else none

/-- Reads `count` hexadecimal digits after the value `high`. -/
def hexDigits (first : Bool) (high : Nat) : (count : Nat) → Reading Nat
  | 0 => do
    let _ ← advance
    return high
  | count + 1 => do
    let more ← if first then pure true else advance
    let place ← here
    if !more then fail place place .openEscape
    match ← peek? with
    | none => fail place place .openEscape
    | some c =>
      match Text.hexDigit? c with
      | none => fail place (place + 1) .badHexDigit
      | some d => hexDigits false (16 * high + d) count

/-- Reads hexadecimal digits up to a closing brace. Says how many there were and their value. -/
def bracedDigits (count value : Nat) : (fuel : Nat) → Reading (Nat × Nat)
  | 0 => return (count, value)
  | fuel + 1 => do
    if !(← advance) then return (count, value)
    let place ← here
    match ← peek? with
    | some '\x7d' => return (count, value)
    | some c =>
      match Text.hexDigit? c with
      | none => fail place (place + 1) .badHexDigit
      | some d => bracedDigits (count + 1) (16 * value + d) fuel
    | none => return (count, value)

/-- Reads the code point after `\x`, `\u` or `\U`, as `width` digits or in braces. The escape began at `opened`. Two
    digits mean a byte where only ASCII counts, which is not encoded text if it is a high one. -/
def hexCode (opened width : Nat) : Reading Char := do
  if !(← advance) then fail (← here) (← here) .openEscape
  let start ← here
  if (← peek?) == some '\x7b' then
    let (count, value) ← bracedDigits 0 0 (← rounds)
    if (← peek?).isNone then fail start (← here) .openEscape
    let stop ← here
    let _ ← advance
    if count = 0 then fail start (← here) .emptyHex
    match charOfCode? value with
    | some c => return c
    | none => fail (start + 1) stop .hexNoCharacter
  else
    let value ← hexDigits true 0 width
    if (← get).flags.ascii && width == 2 && 127 < value then doubt opened (← here) .badEncoding
    match charOfCode? value with
    | some c => return c
    | none => fail start (← here) .hexNoCharacter

/-- Reads up to the closing brace of a property. `read` is written backwards. -/
def propertyText (read : List Char) : (fuel : Nat) → Reading (List Char)
  | 0 => return read.reverse
  | fuel + 1 => do
    if !(← advance) then return read.reverse
    match ← peek? with
    | some '\x7d' => return read.reverse
    | some c => propertyText (c :: read) fuel
    | none => return read.reverse

/-- Reads the property after `\p` or, if `negated`, `\P`, which began at `start`. -/
def property (negated : Bool) (start : Nat) : Reading CharSet := do
  if !(← advance) then fail (← here) (← here) .openEscape
  let first ← peek?
  let found ←
    if first == some '\x7b' then do
      let text ← propertyText [] (← rounds)
      if (← peek?).isNone then fail (← here) (← here) .openEscape
      skip 1
      pure (CharSet.property text)
    else do
      let place ← here
      if first == some '\\' then fail place (place + 1) .badUnicodeClass
      let _ ← advance
      pure (CharSet.named first.toList)
  let flags := (← get).flags
  match if flags.ascii then Except.error .unicodeRefused else found with
  | .ok s => return if negated then (flags.fold s).complement else flags.fold s
  | .error fault =>
    doubt start (← here) fault
    return .empty

/-- Whether a character may stand in the name of a word boundary. -/
def isBoundaryChar (c : Char) : Bool :=
  c.isAlpha || c == '-'

/-- Reads the characters of the name of a word boundary. -/
def boundaryName (name : List Char) : (fuel : Nat) → Reading (List Char)
  | 0 => return name.reverse
  | fuel + 1 => do
    match ← peek? with
    | some c =>
      if isBoundaryChar c then
        let _ ← advance
        boundaryName (c :: name) fuel
      else return name.reverse
    | none => return name.reverse

/-- Reads what follows `\b`, which began at `start`: the kind of a word boundary in braces, if one stands there. -/
def wordBoundary (start : Nat) : Reading WordEdge := do
  if (← peek?) ≠ some '\x7b' then return .boundary
  let brace ← here
  if !(← advance) then fail start (← here) .openBrace
  let inner ← here
  if !(← peek?).any isBoundaryChar then
    modify fun s => { s with pos := brace }
    return .boundary
  let name ← boundaryName [] (← rounds)
  if (← peek?) ≠ some '\x7d' then fail brace (← here) .openWordBoundary
  let stop ← here
  skip 1
  match String.ofList name with
  | "start" => return .start
  | "end" => return .stop
  | "start-half" => return .startHalf
  | "end-half" => return .stopHalf
  | _ => fail inner stop .unknownWordBoundary

/-- Whether a character without a meaning of its own may follow a backslash. -/
def isEscapable (c : Char) : Bool :=
  c.toNat < 128 && !c.isAlphanum && c != '<' && c != '>'

/-- A set that a class at a stretch stands for. Where only ASCII counts, it may not have other characters. -/
def checked (start stop : Nat) (s : CharSet) : Reading CharSet := do
  if (← get).flags.ascii && !s.isAscii then doubt start stop .badEncoding
  return s

/-- The class that a letter stands for after a backslash. A capital letter stands for the other characters. -/
def escapeClass? (c : Char) : Option (EscapeClass × Bool) :=
  match c with
  | 'd' => some (.digit, false)
  | 'D' => some (.digit, true)
  | 's' => some (.blank, false)
  | 'S' => some (.blank, true)
  | 'w' => some (.word, false)
  | 'W' => some (.word, true)
  | _ => none

/-- Reads an escape. -/
def escape : Reading Atom := do
  let start ← here
  skip 1
  match ← peek? with
  | none => fail start (← here) .openEscape
  | some c =>
    if c.isDigit then fail start (start + 2) .backreference
    let ascii := (← get).flags.ascii
    match c with
    | 'x' => return .literal (← hexCode start 2)
    | 'u' => return .literal (← hexCode start 4)
    | 'U' => return .literal (← hexCode start 8)
    | 'p' | 'P' => return .set (← property (c == 'P') start)
    | _ =>
      skip 1
      match escapeClass? c with
      | some (escaped, negated) =>
        let set := escaped.set ascii
        return .set (← checked start (← here) (if negated then set.complement else set))
      | none =>
        match c with
        | 'a' => return .literal '\x07'
        | 'f' => return .literal '\x0c'
        | 't' => return .literal '\t'
        | 'n' => return .literal '\n'
        | 'r' => return .literal '\r'
        | 'v' => return .literal '\x0b'
        | 'A' => return .assertion .textStart
        | 'z' => return .assertion .textEnd
        | 'b' => return .assertion (.word ascii (← wordBoundary start))
        | 'B' => return .assertion (.word ascii .noBoundary)
        | '<' => return .assertion (.word ascii .start)
        | '>' => return .assertion (.word ascii .stop)
        | _ => if isEscapable c then return .literal c else fail start (← here) .unknownEscape

/-! ### Bracketed classes -/

/-- How two sets of a class are joined. -/
inductive SetOp where
  | inter
  | diff
  | symmetric

/-- Two sets joined, after case is taken away from both where it does not count. -/
def SetOp.apply (op : SetOp) (flags : Flags) (s t : CharSet) : CharSet :=
  let s := flags.fold s
  let t := flags.fold t
  match op with
  | inter => s.inter t
  | diff => s.diff t
  | symmetric => (s.diff t).union (t.diff s)

/-- A part of a class: where it stands, its set, and the parts within it. -/
structure Member where
  place : Stretch
  set : CharSet
  nested : List Nesting := []

/-- What stands to the left of an operation in a class, with the operation. -/
abbrev Pending := Option (Member × SetOp)

/-- Members one after the other as one. They are written backwards and began at `start`. -/
def members (start : Nat) (ms : List Member) : Member :=
  let place : Stretch :=
    match ms.getLast?, ms.head? with
    | some first, some last => ⟨first.place.start, last.place.stop⟩
    | _, _ => ⟨start, start⟩
  { place := place, set := .unionAll (ms.map (·.set)),
    nested := nestTogether place ms.length (ms.reverse.flatMap (·.nested)) }

/-- A class so far: what stands left of an operation, joined with what stands right of it. -/
def joined (flags : Flags) (pending : Pending) (right : Member) : Member :=
  match pending with
  | none => right
  | some (left, op) =>
    let place : Stretch := ⟨left.place.start, right.place.stop⟩
    { place := place, set := op.apply flags left.set right.set,
      nested := [.node place (left.nested ++ right.nested)] }

/-- Reads a named ASCII class such as `[:alpha:]`, if one stands at the reader. Otherwise the reader stays. Where
    case does not count, it is taken away before a negation. -/
def asciiClass? : Reading (Option Member) := do
  if (← peekAhead? 1) ≠ some ':' then return none
  let s ← get
  let rest := (s.chars.extract s.pos s.chars.size).toList
  match rest with
  | '[' :: ':' :: tail =>
    let (negated, tail) :=
      match tail with
      | '^' :: tail => (true, tail)
      | _ => (false, tail)
    let name := tail.takeWhile (· ≠ ':')
    match tail.dropWhile (· ≠ ':') with
    | ':' :: ']' :: _ =>
      match CharSet.named? (String.ofList name) with
      | none => return none
      | some set =>
        skip (2 + (if negated then 1 else 0) + name.length + 2)
        let set := s.flags.fold set
        let place : Stretch := ⟨s.pos, ← here⟩
        return some { place := place,
                      set := ← checked place.start place.stop (if negated then set.complement else set) }
    | _ => return none
  | _ => return none

/-- A single character that stands at `place` as a member. -/
def memberAt (place : Nat) (c : Char) : Member :=
  { place := ⟨place, place + 1⟩, set := .single c }

/-- The members that hyphens at the beginning of a class write. -/
def leadingHyphens (start : Nat) (ms : List Member) : (fuel : Nat) → Reading (List Member)
  | 0 => return ms
  | fuel + 1 => do
    if (← peek?) ≠ some '-' then return ms
    let place ← here
    if !(← advance) then fail start start .openClass
    leadingHyphens start (memberAt place '-' :: ms) fuel

/-- The beginning of a class: whether it is negated, the members so far, where these begin, and its stretch. -/
structure ClassOpening where
  negated : Bool
  first : List Member
  start : Nat
  opened : Stretch

/-- Reads the beginning of a class: the bracket, a negation, hyphens and a closing bracket that are members. -/
def classStart : Reading ClassOpening := do
  let start ← here
  if !(← advance) then fail start (← here) .openClass
  let negated := (← peek?) == some '^'
  if negated then
    if !(← advance) then fail start (← here) .openClass
  let inner ← here
  let ms ← leadingHyphens start [] (← rounds)
  let ms ←
    if ms.isEmpty && (← peek?) == some ']' then do
      if !(← advance) then fail start (← here) .openClass
      pure [memberAt inner ']']
    else pure ms
  return ⟨negated, ms, inner, ⟨start, ← here⟩⟩

/-- Reads one member of a class as it stands. -/
def classAtom : Reading (Atom × Stretch) := do
  let start ← here
  match ← peek? with
  | some '\\' =>
    let atom ← escape
    return (atom, ⟨start, ← here⟩)
  | some c =>
    skip 1
    return (.literal c, ⟨start, start + 1⟩)
  | none => fail start start .openClass

/-- A character that stands at a place in a class. Where only ASCII counts, it has to be ASCII. -/
def classChar (place : Stretch) (c : Char) : Reading Char := do
  if (← get).flags.ascii && 127 < c.toNat then doubt place.start place.stop .unicodeRefused
  return c

/-- The end of a range, which has to be a single character. -/
def rangeEnd (atom : Atom) (s : Stretch) : Reading Char :=
  match atom with
  | .literal c => return c
  | _ => fail s.start s.stop .badRangeBoundary

/-- Reads a member or a range of the class that began at `opened`. -/
def classRange (opened : Stretch) : Reading Member := do
  let (first, place) ← classAtom
  skipSpace
  let unclosed : Reading Member := fail opened.start opened.stop .openClass
  match ← peek? with
  | none => unclosed
  | some c =>
    let after ← peekSolid?
    if c ≠ '-' ∨ after = some ']' ∨ after = some '-' then
      match first with
      | .literal c => return { place := place, set := .single (← classChar place c) }
      | .set s => return { place := place, set := s }
      | _ => fail place.start place.stop .badClassEscape
    else if !(← advance) then unclosed
    else
      let (last, place') ← classAtom
      let low ← rangeEnd first place
      let high ← rangeEnd last place'
      if high < low then fail place.start place'.stop .badClassRange
      return { place := ⟨place.start, place'.stop⟩,
               set := .range (← classChar place low) (← classChar place' high) }

/-- Moves over the operation on sets that stands at the reader, if there is one. -/
def setOp? : Reading (Option SetOp) := do
  if ← take? "&&" then return some .inter
  if ← take? "--" then return some .diff
  if ← take? "~~" then return some .symmetric
  return none

mutual

/-- Reads a bracketed class. -/
def bracketed : (fuel : Nat) → Reading Member
  | 0 => do fail (← here) (← here) .openClass
  | fuel + 1 => do
    let opening ← classStart
    let inner ← classRest opening.opened none opening.start opening.first fuel
    let set := (← get).flags.fold inner.set
    let place : Stretch := ⟨opening.opened.start, ← here⟩
    let set ← checked place.start place.stop (if opening.negated then set.complement else set)
    return { place := place, set := set, nested := [.node place inner.nested] }

/-- Reads the rest of the class that began at `opened`, with its closing bracket. `ms` are the members since
    `start`, written backwards. -/
def classRest (opened : Stretch) (pending : Pending) (start : Nat) (ms : List Member) :
    (fuel : Nat) → Reading Member
  | 0 => fail opened.start opened.stop .openClass
  | fuel + 1 => do
    skipSpace
    let flags := (← get).flags
    match ← peek? with
    | none => fail opened.start opened.stop .openClass
    | some '[' =>
      match ← asciiClass? with
      | some m => classRest opened pending start (m :: ms) fuel
      | none =>
        let m ← bracketed fuel
        classRest opened pending start (m :: ms) fuel
    | some ']' =>
      skip 1
      return joined flags pending (members start ms)
    | some _ =>
      match ← setOp? with
      | some op =>
        classRest opened (some (joined flags pending (members start ms), op)) (← here) [] fuel
      | none =>
        let m ← classRange opened
        classRest opened pending start (m :: ms) fuel

end

/-! ### Repetition -/

/-- Moves over blanks. -/
def skipBlanks : (fuel : Nat) → Reading Unit
  | 0 => return
  | fuel + 1 => do
    if (← peek?).any Text.isBlank then
      skip 1
      skipBlanks fuel

/-- Reads digits after `read`, which is written backwards. -/
def digits (read : List Char) : (fuel : Nat) → Reading (List Char)
  | 0 => return read.reverse
  | fuel + 1 => do
    match ← peek? with
    | some c =>
      if c.isDigit then
        let _ ← advance
        digits (c :: read) fuel
      else return read.reverse
    | none => return read.reverse

/-- The value of decimal digits. -/
def digitsNumber (cs : List Char) : Nat :=
  cs.foldl (fun n c => 10 * n + (c.toNat - '0'.toNat)) 0

/-- Reads a count, or says where and why there is none. -/
def count : Reading (Except RegexError Nat) := do
  skipBlanks (← rounds)
  let start ← here
  let read ← digits [] (← rounds)
  let place : Stretch := ⟨start, ← here⟩
  skipBlanks (← rounds)
  if read.isEmpty then return .error { fault := .emptyCount, place := place }
  let n := digitsNumber read
  if n < Decimal.twoTo 32 then return .ok n else return .error { fault := .badDecimal, place := place }

/-- How often an expression is repeated: at least `low` times, at most `high` times if that is given, and rather
    fewer times if `lazy`. -/
structure Count where
  low : Nat
  high : Option Nat
  lazy : Bool

/-- Moves over the question mark of a lazy repetition, and says whether fewer times are preferred. -/
def takeLazy : Reading Bool :=
  return (← take? "?") != (← get).flags.swapped

/-- Reads a repetition in braces. -/
def braces : Reading Count := do
  let start ← here
  let unclosed {α : Type} : Reading α := do fail start (← here) .openCount
  if !(← advance) then unclosed
  else
    let low ← count
    match ← peek? with
    | none => unclosed
    | some c =>
      let range ←
        if c = ',' then
          if !(← advance) then unclosed
          else if (← peek?) ≠ some '\x7d' then do
            let low ← liftM low
            let high ← liftM (← count)
            pure (low, some high)
          else do
            let low ← liftM low
            pure (low, none)
        else do
          let low ← liftM low
          pure (low, some low)
      if (← peek?) ≠ some '\x7d' then unclosed
      else
        let _ ← advance
        let lazy ← takeLazy
        match range with
        | (low, some high) =>
          if high < low then fail start (← here) .badCountRange
          return ⟨low, some high, lazy⟩
        | (low, none) => return ⟨low, none, lazy⟩

/-! ### Groups and flags -/

/-- Which flag a letter stands for, and how it is set. -/
def flagOf? (c : Char) : Option (Bool → Flags → Flags) :=
  match c with
  | 'i' => some fun on f => { f with caseless := on }
  | 'm' => some fun on f => { f with multiLine := on }
  | 's' => some fun on f => { f with dotAll := on }
  | 'x' => some fun on f => { f with spaced := on }
  | 'U' => some fun on f => { f with swapped := on }
  | 'u' => some fun on f => { f with ascii := !on }
  | 'R' => some fun on f => { f with returns := on }
  | _ => none

/-- Reads flags up to a colon or a closing parenthesis. `seen` are the letters so far with their places. -/
def flagLetters (on : Bool) (seen : List (Char × Nat)) (flags : Flags) : (fuel : Nat) → Reading (Flags × Bool)
  | 0 => do fail (← here) (← here) .openFlags
  | fuel + 1 => do
    let place ← here
    match ← peek? with
    | none => fail place place .openFlags
    | some c =>
      if c = ':' ∨ c = ')' then
        match seen with
        | ('-', p) :: _ => fail p (p + 1) .danglingNegation
        | _ => return (flags, !seen.isEmpty)
      else
        let next : Option (Bool × Flags) :=
          if c = '-' then some (false, flags) else (flagOf? c).map fun set => (on, set on flags)
        match next with
        | none => fail place (place + 1) .unknownFlag
        | some (on, flags) =>
          match seen.lookup c with
          | some p =>
            let fault := if c = '-' then RegexFault.repeatedNegation else .repeatedFlag
            throw { fault := fault, place := ⟨place, place + 1⟩, earlier := some ⟨p, p + 1⟩ }
          | none =>
            skip 1
            if (← peek?).isNone then fail (← here) (← here) .openFlags
            flagLetters on ((c, place) :: seen) flags fuel

/-- Whether a character may stand in the name of a group. -/
def isNameChar (first : Bool) (c : Char) : Bool :=
  c == '_' || Text.isAlphabetic c || !first && (c == '.' || c == '[' || c == ']' || Text.isNumeric c)

/-- Reads the characters of the name of a group. -/
def nameChars (name : List Char) : (fuel : Nat) → Reading (List Char)
  | 0 => return name.reverse
  | fuel + 1 => do
    let place ← here
    match ← peek? with
    | none => return name.reverse
    | some '>' => return name.reverse
    | some c =>
      if isNameChar name.isEmpty c then
        skip 1
        nameChars (c :: name) fuel
      else fail place (place + 1) .badName

/-- Reads the name of a group with the angle bracket after it. -/
def groupName : Reading Unit := do
  let start ← here
  if (← peek?).isNone then fail start start .openName
  let name ← nameChars [] (← rounds)
  let stop ← here
  if (← peek?).isNone then fail stop stop .openName
  skip 1
  if name.isEmpty then fail start start .emptyName
  let name := String.ofList name
  match (← get).names.lookup name with
  | some earlier => throw { fault := .repeatedName, place := ⟨start, stop⟩, earlier := some earlier }
  | none => modify fun s => { s with names := (name, ⟨start, stop⟩) :: s.names }

/-- What follows an opening parenthesis: flags for the rest of the group around it, or a group of its own, which
    has a number if its match is remembered. -/
inductive Opening where
  | flags
  | group (number : Option Nat)

/-- The opening of the next group with a number. -/
def numbered : Reading Opening := do
  modify fun s => { s with groups := s.groups + 1 }
  return .group (some (← get).groups)

/-- Reads an opening parenthesis and what belongs to it, and puts its flags in force. -/
def opening : Reading Opening := do
  let start ← here
  skip 1
  skipSpace
  for look in ["?=", "?!", "?<=", "?<!"] do
    if ← take? look then fail start (← here) .lookAround
  let inner ← here
  if ← take? "?P<" then
    groupName
    return ← numbered
  if ← take? "?<" then
    groupName
    return ← numbered
  if ← take? "?" then
    if (← peek?).isNone then fail start (start + 1) .openGroup
    let (flags, any) ← flagLetters true [] (← get).flags (← rounds)
    let last ← peek?
    skip 1
    if last == some ')' then
      if !any then fail inner inner .nothingToRepeat
      modify fun s => { s with flags := flags }
      return .flags
    modify fun s => { s with flags := flags }
    return .group none
  numbered

/-! ### Expressions -/

/-- A part of a pattern: where it stands, its expression, and the parts within it. Flags are no expression, so they
    cannot be repeated. -/
structure Part where
  place : Stretch
  regex : Option Regex
  nested : List Nesting := []

/-- The parts of a sequence, which are written backwards, as one at `place`. -/
def sequencePart (place : Stretch) (parts : List Part) : Part :=
  { place := place, regex := some (.sequence (parts.reverse.filterMap (·.regex))),
    nested := nestTogether place parts.length (parts.reverse.flatMap (·.nested)) }

/-- What has been read of a group or of the whole pattern: its first position, the alternatives before the last bar,
    the position after that, and the parts of the sequence since then. Alternatives and parts are written
    backwards. -/
structure Draft where
  start : Nat
  before : List Part := []
  since : Nat := start
  parts : List Part := []

/-- A draft with one part more. -/
def Draft.add (d : Draft) (p : Part) : Draft :=
  { d with parts := p :: d.parts }

/-- A draft whose sequence ends with a bar at `stop`. -/
def Draft.addBar (d : Draft) (stop : Nat) : Draft :=
  { d with before := sequencePart ⟨d.since, stop⟩ d.parts :: d.before, since := stop + 1, parts := [] }

/-- What a draft that ends at `stop` has become. -/
def Draft.finish (d : Draft) (stop : Nat) : Part :=
  let place : Stretch := ⟨d.start, stop⟩
  let ways := (sequencePart ⟨d.since, stop⟩ d.parts :: d.before).reverse
  { place := place, regex := some (.choice (ways.filterMap (·.regex))),
    nested := nestTogether place ways.length (ways.flatMap (·.nested)) }

/-- What a single character stands for under the flags in force, if it begins nothing that is longer. -/
def Atom.ofChar (flags : Flags) (c : Char) : Atom :=
  match c with
  | '.' => .dot
  | '^' => .assertion (if flags.multiLine then .lineStart flags.returns else .textStart)
  | '$' => .assertion (if flags.multiLine then .lineEnd flags.returns else .textEnd)
  | _ => .literal c

/-- The expression that an atom stands for under the flags in force. -/
def Atom.regex (flags : Flags) : Atom → Regex
  | literal c => .chars (flags.fold (.single c))
  | assertion a => .assert a
  | set s => .chars s
  | dot => .chars flags.dot

/-- An atom that stands at a place as a part of a pattern. Where only ASCII counts, a point might match a part of a
    character. -/
def atomPart (place : Stretch) (atom : Atom) : Reading Part := do
  let flags := (← get).flags
  match atom with
  | .dot => if flags.ascii then doubt place.start place.stop .badEncoding
  | _ => pure ()
  return { place := place, regex := some (atom.regex flags) }

/-- A draft with its last part repeated, up to `stop`. -/
def Draft.repeatLast (d : Draft) (count : Count) (stop : Nat) : Draft :=
  match d.parts with
  | ⟨place, some r, nested⟩ :: rest =>
    let place : Stretch := ⟨place.start, stop⟩
    { d with parts := ⟨place, some (r.times count.low count.high count.lazy), [.node place nested]⟩ :: rest }
  | _ => d

/-- Refuses a repetition without an expression before it. -/
def needOperand (parts : List Part) : Reading Unit := do
  match parts with
  | ⟨_, some _, _⟩ :: _ => return
  | _ => fail (← here) (← here) .nothingToRepeat

/-- Reads the rest of a group, which began at `opened`, or of the whole pattern, after `d`. -/
def body (opened : Option Stretch) (d : Draft) : (fuel : Nat) → Reading Part
  | 0 => return d.finish d.since
  | fuel + 1 => do
    skipSpace
    let flags := (← get).flags
    let start ← here
    match ← peek? with
    | none =>
      match opened with
      | some s => fail s.start s.stop .openGroup
      | none => return d.finish start
    | some c =>
      match c with
      | '(' =>
        match ← opening with
        | .flags => body opened (d.add { place := ⟨start, ← here⟩, regex := none }) fuel
        | .group number =>
          let inner ← body (some ⟨start, start + 1⟩) { start := ← here } fuel
          modify fun s => { s with flags := flags }
          let place : Stretch := ⟨start, ← here⟩
          let regex := inner.regex.map fun r =>
            match number with
            | some n => Regex.group n r
            | none => r
          body opened (d.add ⟨place, regex, [.node place inner.nested]⟩) fuel
      | ')' =>
        match opened with
        | none => fail start (start + 1) .strayParenthesis
        | some _ =>
          skip 1
          return d.finish start
      | '|' =>
        skip 1
        body opened (d.addBar start) fuel
      | '[' =>
        let m ← bracketed (← rounds)
        body opened (d.add ⟨m.place, some (.chars m.set), m.nested⟩) fuel
      | '?' | '*' | '+' =>
        needOperand d.parts
        skip 1
        let lazy ← takeLazy
        let count : Count := ⟨if c = '+' then 1 else 0, if c = '?' then some 1 else none, lazy⟩
        body opened (d.repeatLast count (← here)) fuel
      | '\x7b' =>
        needOperand d.parts
        let count ← braces
        body opened (d.repeatLast count (← here)) fuel
      | '\\' =>
        let atom ← escape
        body opened (d.add (← atomPart ⟨start, ← here⟩ atom)) fuel
      | _ =>
        skip 1
        body opened (d.add (← atomPart ⟨start, start + 1⟩ (.ofChar flags c))) fuel

end Reading

/-- The reader at the beginning of a pattern. -/
def ReaderState.start (caseless : Bool) (pattern : String) : ReaderState :=
  { chars := pattern.toList.toArray, pos := 0, groups := 0, names := [], flags := { caseless := caseless } }

/-- The regular expression that a pattern writes. Points match line feeds; case counts unless `caseless`. Faults of
    form come first, then parts that are nested too deeply, then faults of meaning. -/
def Regex.read (caseless : Bool) (pattern : String) : Except RegexError Regex := do
  let (whole, final) ← (Reading.body none { start := 0 } (pattern.length + 1)).run (.start caseless pattern)
  match tooDeepAmong? nestingLimit whole.nested with
  | some place => throw { fault := .nestedTooDeep, place := place }
  | none =>
    match final.doubt with
    | some e => throw e
    | none => return whole.regex.getD .empty

end CommandScript.Pattern

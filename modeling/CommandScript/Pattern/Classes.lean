import CommandScript.Pattern.Property.Binary

/-! The classes of characters that have an escape of their own: digits, characters of words, and blanks. -/

namespace CommandScript.Pattern

/-- A class of characters with an escape. -/
inductive EscapeClass where
  | digit
  | word
  | blank

/-- The decimal digits of all scripts. -/
def CharSet.digit : CharSet := .category "nd"

/-- The characters of words: letters, marks, digits, connecting punctuation and joiners. -/
def CharSet.word : CharSet :=
  .unionAll [alphabetic, .category "m", digit, .category "pc", joinControl]

/-- The digits of ASCII. -/
def CharSet.asciiDigit : CharSet := .range '0' '9'

/-- The characters of words that are ASCII. -/
def CharSet.asciiWord : CharSet :=
  .unionAll [.range 'a' 'z', .range 'A' 'Z', .single '_', asciiDigit]

/-- The blank characters of ASCII. -/
def CharSet.asciiBlank : CharSet :=
  .union (.range '\t' '\r') (.single ' ')

/-- The characters of a class, all of them or those of ASCII. -/
def EscapeClass.set (ascii : Bool) : EscapeClass → CharSet
  | digit => if ascii then .asciiDigit else .digit
  | word => if ascii then .asciiWord else .word
  | blank => if ascii then .asciiBlank else .blank

end CommandScript.Pattern

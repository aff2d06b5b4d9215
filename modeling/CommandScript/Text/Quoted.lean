import CommandScript.Text.Printable

/-! Quoted text: between double quotes, with a backslash before quotes and backslashes, letters for the common
    controls, and numbers for characters that do not show. -/

namespace CommandScript.Text

/-- The lower-case hexadecimal digits of a number, the least one first. -/
def hexDigitsRev (fuel n : Nat) : List Char :=
  match fuel with
  | 0 => []
  | fuel + 1 => (Nat.digitChar (n % 16)) :: (if n < 16 then [] else hexDigitsRev fuel (n / 16))

/-- How a character is written inside quotes. -/
def quoteChar (c : Char) : List Char :=
  if c = '"' then ['\\', '"']
  else if c = '\\' then ['\\', '\\']
  else if c = '\n' then ['\\', 'n']
  else if c = '\r' then ['\\', 'r']
  else if c = '\t' then ['\\', 't']
  else if c.toNat = 0 then ['\\', '0']
  else if isPrintable c then [c]
  else ['\\', 'u', '\x7b'] ++ (hexDigitsRev 8 c.toNat).reverse ++ ['\x7d']

/-- A text between quotes. -/
def quoted (s : String) : String :=
  String.ofList (['"'] ++ s.toList.flatMap quoteChar ++ ['"'])

end CommandScript.Text

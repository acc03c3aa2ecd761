import LayeredTree.Text.Characters

/-!
# Quoted text

A text in quotes, on one line and printable throughout. Double quotes stand around a text that has
single quotes in it and no double ones, and single quotes around any other. A backslash, the quote
itself and every character that cannot be printed are escaped.
-/

namespace LayeredTree.Text.Quoted

/-- A number in at least `width` hexadecimal digits. -/
def hexadecimal (width n : Nat) : List Char :=
  let digits := Nat.toDigits 16 n
  List.replicate (width - digits.length) '0' ++ digits

/-- The escape of a character by its code point, in two, four or eight digits. -/
def numeric (c : Char) : List Char :=
  let n := c.toNat
  if n < 0x100 then '\\' :: 'x' :: hexadecimal 2 n
  else if n < 0x10000 then '\\' :: 'u' :: hexadecimal 4 n
  else '\\' :: 'U' :: hexadecimal 8 n

/-- A character as it is written between quotes of a given kind. -/
def encodeChar (quote c : Char) : List Char :=
  if c = quote || c = '\\' then ['\\', c]
  else if c = '\t' then ['\\', 't']
  else if c = '\n' then ['\\', 'n']
  else if c = '\r' then ['\\', 'r']
  else if isPrintable c then [c]
  else numeric c

/-- The quote that stands around a text. -/
def quoteFor (text : List Char) : Char :=
  if text.contains '\'' && !text.contains '"' then '"' else '\''

/-- A text in quotes. -/
def encode (text : String) : String :=
  let quote := quoteFor text.toList
  String.ofList (quote :: (text.toList.flatMap (encodeChar quote) ++ [quote]))

end LayeredTree.Text.Quoted

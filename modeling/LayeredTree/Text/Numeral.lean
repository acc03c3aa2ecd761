/-!
# Reading integers

A plain integer is an optional minus and digits without a leading zero. A text that is none may
still have blanks around an integer, a plus before it, leading zeros, underscores between its
digits, and a fraction of zeros only: ` +01_000.0 ` reads as one thousand. All this is taken away
step by step, and what remains is read as a plain integer again. A plain integer with too many
digits is reported as such, but not one that remains only when something has been taken away.
-/

namespace LayeredTree.Text

/-- Why a text does not read as an integer. -/
inductive NumeralFault where
  /-- It is not written as one. -/
  | malformed
  /-- It has too many digits. -/
  | oversized
  deriving DecidableEq, Repr

/-- The characters with the Unicode property `White_Space`. -/
def isBlank (c : Char) : Bool :=
  let n := c.toNat
  (0x09 ≤ n && n ≤ 0x0D) || n == 0x20 || n == 0x85 || n == 0xA0 || n == 0x1680 ||
    (0x2000 ≤ n && n ≤ 0x200A) || n == 0x2028 || n == 0x2029 || n == 0x202F || n == 0x205F ||
    n == 0x3000

/-- A text without the blanks at its two ends. -/
def trim (text : List Char) : List Char :=
  ((text.dropWhile isBlank).reverse.dropWhile isBlank).reverse

/-- A text without its plus, which no minus may follow. -/
def dropPlus? : List Char → Option (List Char)
  | '+' :: '-' :: _ => none
  | '+' :: rest => some rest
  | text => some text

/-- A digit other than zero. -/
def isLeadingDigit (c : Char) : Bool := '1' ≤ c && c ≤ '9'

/-- A character that ends leading zeros and is the first one behind them. -/
def isOpening (c : Char) : Bool := c == '-' || isLeadingDigit c

/-- Skip the zeros and underscores of a text behind one of them, which stays when nothing or a point
follows. -/
def skipZeros? (last : Char) : List Char → Option (List Char)
  | [] => some [last]
  | c :: rest =>
    if c == '0' || c == '_' then skipZeros? c rest
    else if isOpening c then some (c :: rest)
    else if c == '.' then some (last :: c :: rest)
    else none

/-- A text without its leading zeros. It must begin with a digit. -/
def dropZeros? : List Char → Option (List Char)
  | [] => none
  | c :: rest =>
    if c == '0' then skipZeros? c rest else if isLeadingDigit c then some (c :: rest) else none

/-- A text without the leading zeros behind its sign, if it has one. -/
def dropSignedZeros? : List Char → Option (List Char)
  | '-' :: rest => (dropZeros? rest).map ('-' :: ·)
  | text => dropZeros? text

/-- A text without its fraction, if that is a point and some zeros. -/
def dropFraction (text : List Char) : List Char :=
  match text.dropWhile (· != '.') with
  | '.' :: '0' :: zeros =>
    if zeros.all (· == '0') then text.takeWhile (· != '.') else text
  | _ => text

/-- No underscore stands at an end of a text or beside another one. -/
def isSpaced (text : List Char) : Bool :=
  text.head? != some '_' && text.getLast? != some '_' && !(text.zip text.tail).contains ('_', '_')

/-- A text without the underscores in it, if they stand well. -/
def dropUnderscores (text : List Char) : List Char :=
  if isSpaced text then text.filter (· != '_') else text

/-- What remains of a text without all that may surround a plain integer. -/
def stripped? (text : List Char) : Option (List Char) := do
  let text ← dropSignedZeros? (← dropPlus? (trim text))
  return dropUnderscores (dropFraction text)

/-- The number that digits stand for. -/
def digitsValue (digits : List Char) : Nat :=
  digits.foldl (fun value c => 10 * value + (c.toNat - '0'.toNat)) 0

/-- The most digits that an integer may have. -/
def digitLimit : Nat := 4300

/-- Read a plain integer without a sign. -/
def natural (text : List Char) : Except NumeralFault Nat :=
  let digits := text.takeWhile Char.isDigit
  if text == ['0'] then .ok 0
  else if !(text.head?.any isLeadingDigit) then .error .malformed
  else if digitLimit < digits.length then .error .oversized
  else if digits.length < text.length then .error .malformed
  else .ok (digitsValue digits)

/-- Read a plain integer. Too many digits are reported whatever stands behind them. -/
def plainInteger : List Char → Except NumeralFault Int
  | '-' :: rest => do return -(← natural rest : Nat)
  | text => do return (← natural text : Nat)

/-- Read what remains of a text. -/
def strippedInteger? (text : List Char) : Option Int := do
  (plainInteger (← stripped? text)).toOption

/-- Read an integer. -/
def integer (text : String) : Except NumeralFault Int :=
  match plainInteger text.toList with
  | .error .malformed =>
    match strippedInteger? text.toList with
    | some value => .ok value
    | none => .error .malformed
  | result => result

end LayeredTree.Text

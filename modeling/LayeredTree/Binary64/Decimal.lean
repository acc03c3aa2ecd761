import LayeredTree.Binary64.Basic

/-!
# Binary64 numbers in decimal notation

A number is written with the fewest digits that read back as the number; of two decimals with as
few digits the nearer one is taken, and from the middle the even one. Numbers from a ten-thousandth
up to ten to the power 16 are written with a point, all others with an exponent.
-/

namespace LayeredTree

/-- A positive decimal number: `digits` times ten to the power `power`. -/
structure Decimal where
  /-- The digits as one number. -/
  digits : Nat
  /-- The power of ten of the last digit. -/
  power : Int
  deriving DecidableEq, Repr

namespace Binary64

/-- A decimal reads back as a count of units. -/
def isReading (units : Nat) (decimal : Decimal) : Bool :=
  ofDecimal false decimal.digits decimal.power == finite false units

/-- The power of ten just above a positive count of units. The smallest unit has 324 zeros behind
the point. -/
def magnitude (units : Nat) : Int :=
  (Nat.toDigits 10 (units * Nat.pow 10 324 / one)).length - 324

/-- The two decimals around a count of units whose last digits stand at a power of ten, the nearer
one first. -/
def neighbours (units : Nat) (power : Int) : List Decimal :=
  let (num, den) := match power with
    | .ofNat n => (units, one * Nat.pow 10 n)
    | .negSucc n => (units * Nat.pow 10 (n + 1), one)
  let below := num / den
  if roundQuotient num den = below then [⟨below, power⟩, ⟨below + 1, power⟩]
  else [⟨below + 1, power⟩, ⟨below, power⟩]

/-- The decimal with the fewest digits that reads back as a count of units, unless that is zero.
Seventeen digits are always enough. -/
def shortest? (units : Nat) : Option Decimal :=
  if units = 0 then none
  else (List.range 17).findSome? fun n =>
    (neighbours units (magnitude units - (n + 1 : Nat))).find? (isReading units)

end Binary64

namespace Decimal

/-- An exponent with its sign and at least two digits. -/
def exponentText (exponent : Int) : String :=
  let digits := toString exponent.natAbs
  (if exponent < 0 then "-" else "+") ++ (if digits.length < 2 then "0" else "") ++ digits

/-- Digits with a point at a place counted from the first digit, and zeros where the digits do not
reach. -/
def pointed (digits : List Char) (place : Int) : List Char :=
  match place with
  | .ofNat n =>
    if n = 0 then '0' :: '.' :: digits
    else if n < digits.length then digits.take n ++ '.' :: digits.drop n
    else digits ++ List.replicate (n - digits.length) '0' ++ ['.', '0']
  | .negSucc n => '0' :: '.' :: (List.replicate (n + 1) '0' ++ digits)

/-- One digit, the others behind a point if there are any, and an exponent. -/
def scientific (digits : List Char) (place : Int) : String :=
  String.ofList (digits.take 1) ++
    (if digits.length = 1 then "" else "." ++ String.ofList (digits.drop 1)) ++
    "e" ++ exponentText (place - 1)

/-- A decimal as text. -/
def toText (decimal : Decimal) : String :=
  let all := Nat.toDigits 10 decimal.digits
  let place := all.length + decimal.power
  let digits := (all.reverse.dropWhile (· == '0')).reverse
  if -4 < place && place ≤ 16 then String.ofList (pointed digits place)
  else scientific digits place

end Decimal

namespace Binary64

/-- A number as text. -/
def toText : Binary64 → String
  | finite negative units =>
    (if negative then "-" else "") ++
      (match shortest? units with
        | some decimal => decimal.toText
        | none => "0.0")
  | infinite negative => if negative then "-inf" else "inf"
  | undefined => "nan"

end Binary64

end LayeredTree

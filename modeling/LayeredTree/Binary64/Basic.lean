/-!
# Binary64 numbers

A number written with a point or an exponent is held in the binary64 format: of the numbers with
53 significant bits, the nearest one. Every finite number of the format is a whole multiple of the
smallest positive one, so a sign and a count of such units hold it exactly.
-/

namespace LayeredTree

/-- A number of the binary64 format. -/
inductive Binary64 where
  /-- So many units of the smallest positive number, with a sign. Zero has a sign, too. -/
  | finite (negative : Bool) (units : Nat)
  /-- A number beyond the largest finite one. -/
  | infinite (negative : Bool)
  /-- The result of an operation that has none. -/
  | undefined
  deriving DecidableEq, Repr

namespace Binary64

/-- How many units make one. -/
def one : Nat := Nat.pow 2 1074

/-- The first count of units that is beyond the finite numbers. -/
def bound : Nat := Nat.pow 2 2098

/-- A quotient rounded to the nearest whole number, and from the middle to the even one. -/
def roundQuotient (num den : Nat) : Nat :=
  let whole := num / den
  let rest := 2 * (num % den)
  if rest < den || (rest == den && whole % 2 == 0) then whole else whole + 1

/-- The value of the last of 53 significant bits of a count of units. -/
def lastPlace (units : Nat) : Nat := Nat.pow 2 (Nat.log2 units - 52)

/-- A fraction of units rounded to 53 significant bits. -/
def roundUnits (num den : Nat) : Nat :=
  let place := lastPlace (num / den)
  roundQuotient num (den * place) * place

/-- The number nearest to a fraction of units with a sign. -/
def nearest (negative : Bool) (num den : Nat) : Binary64 :=
  let units := roundUnits num den
  if units < bound then finite negative units else infinite negative

/-- The number nearest to `mantissa` times ten to the power `power`, with a sign. Powers far
outside the range of the format are decided without computing them. -/
def ofDecimal (negative : Bool) (mantissa : Nat) (power : Int) : Binary64 :=
  if mantissa = 0 || power + Nat.log2 mantissa < -400 then finite negative 0
  else if 310 ≤ power then infinite negative
  else
    match power with
    | .ofNat n => nearest negative (mantissa * Nat.pow 10 n * one) 1
    | .negSucc n => nearest negative (mantissa * one) (Nat.pow 10 (n + 1))

/-- The units of a finite number as an integer. -/
def units? : Binary64 → Option Int
  | finite negative units => some (if negative then -units else units)
  | _ => none

/-- The integer that a number is. -/
def integer? (number : Binary64) : Option Int :=
  match number.units? with
  | some units => if units % one = 0 then some (units / one) else none
  | none => none

/-- A number plus an integer. -/
def addInt (number : Binary64) (n : Int) : Binary64 :=
  match number.units? with
  | some units =>
    let total := units + n * one
    nearest (total < 0) total.natAbs 1
  | none => number

/-- A number times a positive whole number. -/
def scale (number : Binary64) (factor : Nat) : Binary64 :=
  match number with
  | finite negative units => nearest negative (factor * units) 1
  | other => other

end Binary64

end LayeredTree

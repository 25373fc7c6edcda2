/-!
# Numbers

A natural number is written in a base of at most sixteen, with the letters from `a` on, small or
capital, as the digits from ten on.

A decimal number that is too large for a double-precision number rounds to infinity. The bound lies
halfway between the greatest double-precision number and the next one that there would be, and is
itself too large.

Every finite double-precision number is a multiple of the least positive one, so its magnitude is
kept as a natural number of such units. It has at most 53 bits besides the zeros at its end. A
decimal number is read as the nearest of them, and from halfway as the one whose 53 bits are even.
It is written with as few digits as read back as the same number, and of those digits with the
nearest ones; no exponent is used, however long the text becomes.
-/
namespace RuleLexer.Number

/-! ## Digits -/

/-- The value of a digit of the base sixteen. -/
def digitValue? (char : Char) : Option Nat :=
  if '0' ≤ char ∧ char ≤ '9' then some (char.toNat - '0'.toNat)
  else if 'a' ≤ char ∧ char ≤ 'f' then some (char.toNat - 'a'.toNat + 10)
  else if 'A' ≤ char ∧ char ≤ 'F' then some (char.toNat - 'A'.toNat + 10)
  else none

/-- The value of a digit of a base. -/
def digitIn? (base : Nat) (char : Char) : Option Nat :=
  (digitValue? char).filter (· < base)

/-- The value of at least one digit of a base. -/
def ofDigits? (base : Nat) (digits : List Char) : Option Nat :=
  if digits.isEmpty then none
  else digits.foldlM (fun value digit => (digitIn? base digit).map (value * base + ·)) 0

/-! ## Magnitudes -/

/-- The least magnitude that is too large for a double-precision number. -/
def overflowBound : Nat := Nat.pow 2 1024 - Nat.pow 2 970

/-- The exponents of ten from which on every other magnitude is too large. -/
def overflowExponent : Nat := 309

/-- Whether `digits` times ten to the power of `exponent` is small enough for a double-precision
number. A power so large or so small that it decides alone is not computed. -/
def isFinite (digits : Nat) (exponent : Int) : Bool :=
  match exponent with
  | .ofNat power =>
    digits == 0 || (power < overflowExponent && digits * Nat.pow 10 power < overflowBound)
  | .negSucc power =>
    (Nat.toDigits 10 digits).length ≤ power + 1 || digits < overflowBound * Nat.pow 10 (power + 1)

/-! ## Double-precision numbers -/

/-- A double-precision number. A finite one is a sign and a number of units. -/
inductive Binary64
  | finite (negative : Bool) (units : Nat)
  | infinite (negative : Bool)
  | notANumber
deriving DecidableEq, Repr

namespace Binary64

/-- The least positive number goes into one as often as this. -/
def unitsPerOne : Nat := Nat.pow 2 1074

/-- A quotient rounded to the nearest natural number, and from halfway to the even one. -/
def roundToEven (numerator denominator : Nat) : Nat :=
  let floor := numerator / denominator
  let twice := 2 * (numerator % denominator)
  if twice < denominator ∨ (twice = denominator ∧ floor % 2 = 0) then floor else floor + 1

/-- The distance between neighbouring numbers of this size. -/
def grain (units : Nat) : Nat := Nat.pow 2 (units.log2 - 52)

/-- The nearest number to a quotient of units. -/
def roundUnits (numerator denominator : Nat) : Nat :=
  let grain := grain (numerator / denominator)
  roundToEven numerator (denominator * grain) * grain

/-- The number of digits of a decimal number. -/
def decimalLength (value : Nat) : Nat := (Nat.toDigits 10 value).length

/-- The decimal exponent from which on all numbers are nearer to nothing than to one unit. -/
def underflowExponent : Int := -324

/-- The nearest number to `digits` times ten to the power of `exponent`. -/
def ofDecimal (negative : Bool) (digits : Nat) (exponent : Int) : Binary64 :=
  if !isFinite digits exponent then infinite negative
  else if digits = 0 ∨ decimalLength digits + exponent < underflowExponent then finite negative 0
  else match exponent with
    | .ofNat power => finite negative (roundUnits (digits * Nat.pow 10 power * unitsPerOne) 1)
    | .negSucc power => finite negative (roundUnits (digits * unitsPerOne) (Nat.pow 10 (power + 1)))

def isZero : Binary64 → Bool
  | finite _ units => units == 0
  | _ => false

/-- The nearest natural number that is not beyond a limit; halves are rounded up. -/
def nearestNatural (limit : Nat) : Binary64 → Nat
  | finite false units => min limit ((2 * units + unitsPerOne) / (2 * unitsPerOne))
  | infinite false => limit
  | _ => 0

/-- The power of ten of the first digit of a positive number of units. -/
def leadingPower (units : Nat) : Int :=
  decimalLength (units * Nat.pow 10 324 / unitsPerOne) - 325

/-- A decimal number without a zero as its last digit, if the digits have just been counted up. -/
def carry (digits : Nat) (power : Int) : Nat × Int :=
  if digits % 10 = 0 then (digits / 10, power + 1) else (digits, power)

/-- The two decimal numbers of `count` digits around a positive number of units, the nearer first.
-/
def neighbours (units count : Nat) : List (Nat × Int) :=
  let power := leadingPower units - count + 1
  let (numerator, denominator) := match power with
    | .ofNat power => (units, unitsPerOne * Nat.pow 10 power)
    | .negSucc power => (units * Nat.pow 10 (power + 1), unitsPerOne)
  let below := numerator / denominator
  if 2 * (numerator % denominator) < denominator then [(below, power), carry (below + 1) power]
  else [carry (below + 1) power, (below, power)]

def readsBack (units : Nat) (decimal : Nat × Int) : Bool :=
  ofDecimal false decimal.1 decimal.2 = finite false units

/-- The nearest of the shortest decimal numbers that read back as a positive number of units. No
number needs more than 17 digits. -/
def shortest (units : Nat) : Nat × Int :=
  ((List.range' 1 17).findSome? fun count => (neighbours units count).find? (readsBack units)).getD
    (units, underflowExponent)

/-- A decimal number written without an exponent. -/
def positional (digits : List Char) : Int → List Char
  | .ofNat power => digits ++ List.replicate power '0'
  | .negSucc power =>
    let padded := List.replicate (power + 2 - digits.length) '0' ++ digits
    let places := padded.length - (power + 1)
    padded.take places ++ '.' :: padded.drop places

def signText (negative : Bool) : List Char := if negative then ['-'] else []

def magnitudeText (units : Nat) : List Char :=
  if units = 0 then ['0']
  else
    let (digits, power) := shortest units
    positional (Nat.toDigits 10 digits) power

def text : Binary64 → List Char
  | finite negative units => signText negative ++ magnitudeText units
  | infinite negative => signText negative ++ ['i', 'n', 'f']
  | notANumber => ['N', 'a', 'N']

end Binary64

end RuleLexer.Number

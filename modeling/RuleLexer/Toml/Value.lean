import RuleLexer.Number

/-!
# TOML values

A table lists its keys in the order in which they were first written, each of them once.

A moment is a date, a time of day, or both, and then perhaps also a distance from universal time. It
is written in one way, whatever the way it was read from: with a capital `T` between date and time,
and with as many digits of a fraction of a second as are needed, but never more than nine.
-/
namespace RuleLexer.Toml

/-! ## Moments in time -/

structure Date where
  year : Nat
  month : Nat
  day : Nat
deriving DecidableEq, Repr

structure Time where
  hour : Nat
  minute : Nat
  second : Nat
  /-- The digits of the fraction, at most nine. -/
  fraction : List Char
deriving DecidableEq, Repr

inductive Offset
  | universal
  /-- The distance from universal time in minutes. -/
  | minutes (west : Bool) (distance : Nat)
deriving DecidableEq, Repr

/-- A date, a time of day, or both. -/
inductive Moment
  | date (date : Date)
  | time (time : Time)
  | both (date : Date) (time : Time) (offset : Option Offset)
deriving DecidableEq, Repr

/-- A number with zeros in front of it. -/
def padded (width value : Nat) : List Char :=
  let digits := Nat.toDigits 10 value
  List.replicate (width - digits.length) '0' ++ digits

def Date.text (date : Date) : List Char :=
  padded 4 date.year ++ '-' :: padded 2 date.month ++ '-' :: padded 2 date.day

/-- The fraction of a second without the zeros at its end. -/
def Time.fractionText (time : Time) : List Char :=
  match (time.fraction.reverse.dropWhile (· = '0')).reverse with
  | [] => []
  | digits => '.' :: digits

def Time.text (time : Time) : List Char :=
  padded 2 time.hour ++ ':' :: padded 2 time.minute ++ ':' :: padded 2 time.second ++
    time.fractionText

def Offset.text : Offset → List Char
  | .universal => ['Z']
  | .minutes west distance =>
    (if west ∧ distance ≠ 0 then '-' else '+') ::
      padded 2 (distance / 60) ++ ':' :: padded 2 (distance % 60)

def Moment.text : Moment → List Char
  | .date day => day.text
  | .time clock => clock.text
  | .both day clock offset => day.text ++ 'T' :: clock.text ++ offset.elim [] Offset.text

/-! ### Reading -/

/-- A fixed number of decimal digits, and what follows them. -/
def readDigits (width : Nat) (text : List Char) : Option (Nat × List Char) :=
  if (text.take width).length < width then none
  else (Number.ofDigits? 10 (text.take width)).map fun value => (value, text.drop width)

/-- Two digits with a value between two bounds. -/
def readPair (least greatest : Nat) (text : List Char) : Option (Nat × List Char) :=
  (readDigits 2 text).filter fun (value, _) => least ≤ value ∧ value ≤ greatest

def readSign (sign : Char) : List Char → Option (List Char)
  | char :: rest => if char = sign then some rest else none
  | [] => none

def isLeapYear (year : Nat) : Bool := year % 4 = 0 && (year % 100 ≠ 0 || year % 400 = 0)

def daysInMonth (year month : Nat) : Nat :=
  if month = 2 then if isLeapYear year then 29 else 28
  else if month ∈ [4, 6, 9, 11] then 30
  else 31

def readDate (text : List Char) : Option (Date × List Char) := do
  let (year, rest) ← readDigits 4 text
  let (month, rest) ← readPair 1 12 (← readSign '-' rest)
  let (day, rest) ← readPair 1 (daysInMonth year month) (← readSign '-' rest)
  return (⟨year, month, day⟩, rest)

/-- A fraction of a second, of which no more than nine digits count. -/
def readFraction : List Char → List Char × List Char
  | '.' :: rest =>
    let digits := rest.takeWhile Char.isDigit
    if digits.isEmpty then ([], '.' :: rest) else (digits.take 9, rest.dropWhile Char.isDigit)
  | text => ([], text)

/-- A time of day, in which a minute may have a leap second. -/
def readTime (text : List Char) : Option (Time × List Char) := do
  let (hour, rest) ← readPair 0 23 text
  let (minute, rest) ← readPair 0 59 (← readSign ':' rest)
  let (second, rest) ← readPair 0 60 (← readSign ':' rest)
  let (fraction, rest) := readFraction rest
  return (⟨hour, minute, second, fraction⟩, rest)

def readDistance (west : Bool) (text : List Char) : Option (Option Offset × List Char) := do
  let (hours, rest) ← readPair 0 23 text
  let (minutes, rest) ← readPair 0 59 (← readSign ':' rest)
  return (some (.minutes west (hours * 60 + minutes)), rest)

/-- The distance from universal time, if one is given. -/
def readOffset : List Char → Option (Option Offset × List Char)
  | 'Z' :: rest | 'z' :: rest => some (some .universal, rest)
  | '+' :: rest => readDistance false rest
  | '-' :: rest => readDistance true rest
  | text => some (none, text)

/-- Whether a text goes on like a date. -/
def startsDate (text : List Char) : Bool :=
  (readDigits 4 text).any fun (_, rest) => rest.head? = some '-'

/-- Whether a text goes on like a time of day. -/
def startsTime (text : List Char) : Bool :=
  (readPair 0 23 text).any fun (_, rest) => rest.head? = some ':'

/-- What follows the sign between a date and a time, if there is one. -/
def afterDate? : List Char → Option (List Char)
  | 'T' :: rest | 't' :: rest | ' ' :: rest => if startsTime rest then some rest else none
  | _ => none

/-- A moment at the start of a text that goes on like a date or a time of day. -/
def readMoment (text : List Char) : Option (Moment × List Char) :=
  if startsDate text then do
    let (date, rest) ← readDate text
    match afterDate? rest with
    | none => return (.date date, rest)
    | some rest =>
      let (time, rest) ← readTime rest
      let (offset, rest) ← readOffset rest
      return (.both date time offset, rest)
  else (readTime text).map fun (time, rest) => (.time time, rest)

/-! ## Values -/

/-- A value of a document. -/
inductive Value
  | string (chars : List Char)
  /-- Between the bounds of 64 bits with a sign. -/
  | integer (value : Int)
  | float (value : Number.Binary64)
  | bool (value : Bool)
  | moment (moment : Moment)
  | array (items : List Value)
  | table (entries : List (List Char × Value))

end RuleLexer.Toml

import RuleLexer.Toml.Value

/-!
# Strings and numbers

A string stands between double quotes, where a backslash begins an escape, or between single quotes,
where all characters stand for themselves. Between quotes that are written three times it may go
over several lines, and then one or two quotes may stand in it as well, even just before its end.

Digits may be grouped by single underscores between them. An integer has at most 64 bits with its
sign; a decimal number that is too large is refused unless it is negative.

Every reader takes the text that is left and gives back what follows the part that it has read.
-/
namespace RuleLexer.Toml

def isBlank (char : Char) : Bool := char = ' ' || char = '\t'

def dropBlanks (text : List Char) : List Char := text.dropWhile isBlank

/-- What follows the end of a line. -/
def afterBreak? : List Char → Option (List Char)
  | '\n' :: rest => some rest
  | '\r' :: '\n' :: rest => some rest
  | _ => none

/-- The characters of comments and strings: all but the control characters, of which only the
tabulator is one of them. -/
def isPlain (char : Char) : Bool :=
  char = '\t' || (0x20 ≤ char.toNat && char.toNat ≤ 0x7E) || 0x80 ≤ char.toNat

/-- What a character stands for after a backslash. -/
def shortEscape? : Char → Option Char
  | 'b' => some '\x08'
  | 't' => some '\t'
  | 'n' => some '\n'
  | 'f' => some '\x0c'
  | 'r' => some '\r'
  | '"' => some '"'
  | '\\' => some '\\'
  | _ => none

/-- The character with a number of `width` hexadecimal digits. -/
def readNumbered (width : Nat) (text : List Char) : Option (Char × List Char) :=
  if (text.take width).length < width then none
  else
    match Number.ofDigits? 16 (text.take width) with
    | some value => if value.isValidChar then some (Char.ofNat value, text.drop width) else none
    | none => none

/-- The character of an escape, after its backslash. -/
def readEscape : List Char → Option (Char × List Char)
  | 'u' :: rest => readNumbered 4 rest
  | 'U' :: rest => readNumbered 8 rest
  | char :: rest => (shortEscape? char).map fun char => (char, rest)
  | [] => none

/-- A string between double quotes, after the opening one. -/
def readQuoted : Nat → List Char → Option (List Char × List Char)
  | 0, _ => none
  | room + 1, text =>
    match text with
    | '"' :: rest => some ([], rest)
    | '\\' :: rest => do
      let (char, rest) ← readEscape rest
      let (chars, rest) ← readQuoted room rest
      return (char :: chars, rest)
    | char :: rest =>
      if isPlain char then (readQuoted room rest).map fun (chars, rest) => (char :: chars, rest)
      else none
    | [] => none

/-- A string between single quotes, after the opening one. -/
def readVerbatim : List Char → Option (List Char × List Char)
  | '\x27' :: rest => some ([], rest)
  | char :: rest =>
    if isPlain char then (readVerbatim rest).map fun (chars, rest) => (char :: chars, rest)
    else none
  | [] => none

/-- The quotes that belong to a string of several lines although they follow three quotes. -/
def readLastQuotes (quote : Char) : List Char → List Char × List Char
  | first :: second :: rest =>
    if first = quote ∧ second = quote then ([quote, quote], rest)
    else if first = quote then ([quote], second :: rest)
    else ([], first :: second :: rest)
  | [first] => if first = quote then ([quote], []) else ([], [first])
  | [] => ([], [])

/-- Passes blanks and ends of lines. -/
def passLines : Nat → List Char → List Char
  | 0, text => text
  | room + 1, text =>
    match afterBreak? (dropBlanks text) with
    | some rest => passLines room rest
    | none => dropBlanks text

/-- What follows a backslash at the end of a line: the next character that is neither a blank nor
the end of a line. -/
def afterContinuation? (text : List Char) : Option (List Char) :=
  (afterBreak? (dropBlanks text)).map (passLines text.length)

/-- A string of several lines between double quotes, after the opening ones. -/
def readQuotedLines : Nat → List Char → Option (List Char × List Char)
  | 0, _ => none
  | room + 1, text =>
    match text with
    | '"' :: '"' :: '"' :: rest => some (readLastQuotes '"' rest)
    | '\\' :: rest =>
      match afterContinuation? rest with
      | some rest => readQuotedLines room rest
      | none => do
        let (char, rest) ← readEscape rest
        let (chars, rest) ← readQuotedLines room rest
        return (char :: chars, rest)
    | char :: rest =>
      match afterBreak? (char :: rest) with
      | some rest => (readQuotedLines room rest).map fun (chars, rest) => ('\n' :: chars, rest)
      | none =>
        if isPlain char then
          (readQuotedLines room rest).map fun (chars, rest) => (char :: chars, rest)
        else none
    | [] => none

/-- A string of several lines between single quotes, after the opening ones. -/
def readVerbatimLines : Nat → List Char → Option (List Char × List Char)
  | 0, _ => none
  | room + 1, text =>
    match text with
    | '\x27' :: '\x27' :: '\x27' :: rest => some (readLastQuotes '\x27' rest)
    | char :: rest =>
      match afterBreak? (char :: rest) with
      | some rest => (readVerbatimLines room rest).map fun (chars, rest) => ('\n' :: chars, rest)
      | none =>
        if isPlain char then
          (readVerbatimLines room rest).map fun (chars, rest) => (char :: chars, rest)
        else none
    | [] => none

/-- A text without the end of a line at its start. -/
def dropBreak (text : List Char) : List Char := (afterBreak? text).getD text

/-- A string of any kind. -/
def readString (text : List Char) : Option (List Char × List Char) :=
  match text with
  | '"' :: '"' :: '"' :: rest => readQuotedLines (rest.length + 1) (dropBreak rest)
  | '"' :: rest => readQuoted (rest.length + 1) rest
  | '\x27' :: '\x27' :: '\x27' :: rest => readVerbatimLines (rest.length + 1) (dropBreak rest)
  | '\x27' :: rest => readVerbatim rest
  | _ => none

/-! ## Numbers -/

/-- Further digits of a group, in which single underscores may stand between digits. -/
def readMoreDigits (base : Nat) : List Char → Option (List Char × List Char)
  | '_' :: char :: rest =>
    if (Number.digitIn? base char).isSome then
      (readMoreDigits base rest).map fun (digits, rest) => (char :: digits, rest)
    else none
  | ['_'] => none
  | char :: rest =>
    if (Number.digitIn? base char).isSome then
      (readMoreDigits base rest).map fun (digits, rest) => (char :: digits, rest)
    else some ([], char :: rest)
  | [] => some ([], [])

/-- At least one digit. -/
def readDigitGroup (base : Nat) : List Char → Option (List Char × List Char)
  | char :: rest =>
    if (Number.digitIn? base char).isSome then
      (readMoreDigits base rest).map fun (digits, rest) => (char :: digits, rest)
    else none
  | [] => none

/-- The integer part of a number, in which nothing follows a leading zero. -/
def readWhole : List Char → Option (List Char × List Char)
  | '0' :: rest => some (['0'], rest)
  | text => readDigitGroup 10 text

def integerOf (negative : Bool) (magnitude : Nat) : Option Value :=
  if negative then if magnitude ≤ Nat.pow 2 63 then some (.integer (-magnitude)) else none
  else if magnitude < Nat.pow 2 63 then some (.integer magnitude)
  else none

/-- An integer in a base other than ten, after the sign of the base. -/
def readInBase (base : Nat) (text : List Char) : Option (Value × List Char) := do
  let (digits, rest) ← readDigitGroup base text
  let value ← integerOf false (← Number.ofDigits? base digits)
  return (value, rest)

/-- A decimal number. -/
def floatOf (negative : Bool) (whole fraction : List Char) (exponent : Int) : Option Value := do
  let digits ← Number.ofDigits? 10 (whole ++ fraction)
  let value := Number.Binary64.ofDecimal negative digits (exponent - fraction.length)
  if value = .infinite false then none else some (.float value)

/-- An exponent, after its letter. -/
def readExponent (text : List Char) : Option (Int × List Char) := do
  let (negative, rest) := match text with
    | '-' :: rest => (true, rest)
    | '+' :: rest => (false, rest)
    | rest => (false, rest)
  let (digits, rest) ← readDigitGroup 10 rest
  let size ← Number.ofDigits? 10 digits
  return (if negative then -size else size, rest)

/-- What follows the integer part of a number. -/
def readNumberRest (negative : Bool) (whole : List Char) (text : List Char) :
    Option (Value × List Char) :=
  match text with
  | '.' :: rest => do
    let (fraction, rest) ← readDigitGroup 10 rest
    let (exponent, rest) ← if rest.head? = some 'e' ∨ rest.head? = some 'E' then
        readExponent rest.tail
      else some (0, rest)
    let value ← floatOf negative whole fraction exponent
    return (value, rest)
  | 'e' :: rest | 'E' :: rest => do
    let (exponent, rest) ← readExponent rest
    let value ← floatOf negative whole [] exponent
    return (value, rest)
  | text => do
    let value ← integerOf negative (← Number.ofDigits? 10 whole)
    return (value, text)

/-- A number after its sign. -/
def readUnsigned (negative : Bool) : List Char → Option (Value × List Char)
  | 'i' :: 'n' :: 'f' :: rest => some (.float (.infinite negative), rest)
  | 'n' :: 'a' :: 'n' :: rest => some (.float .notANumber, rest)
  | text => do
    let (whole, rest) ← readWhole text
    readNumberRest negative whole rest

/-- A number, or a moment, which starts with a digit as well. -/
def readNumber (text : List Char) : Option (Value × List Char) :=
  if startsDate text ∨ startsTime text then
    (readMoment text).map fun (moment, rest) => (.moment moment, rest)
  else
    match text with
    | '+' :: rest => readUnsigned false rest
    | '-' :: rest => readUnsigned true rest
    | '0' :: 'x' :: rest => readInBase 16 rest
    | '0' :: 'o' :: rest => readInBase 8 rest
    | '0' :: 'b' :: rest => readInBase 2 rest
    | text => readUnsigned false text

end RuleLexer.Toml

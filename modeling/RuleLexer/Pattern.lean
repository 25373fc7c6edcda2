import RuleLexer.Regex.Backward
import RuleLexer.Regex.Compile
import RuleLexer.Regex.Source
import RuleLexer.Text.Offset

/-!
# Patterns

A pattern is matched at a place of a text: it matches from there or not at all, but its assertions
see the whole text. It may begin with a look-behind, `(?<=X)` or `(?<!X)`, which is split off and
asked first: whether `X` matches some stretch of the text that ends at the place. The look-behind
sees nothing after the place.

Patterns are the same if their texts are.
-/
namespace RuleLexer

/-- The switches of a table that all of its patterns are read with. -/
structure PatternOptions where
  caseInsensitive : Bool := false
  dotMatchesNewline : Bool := false
  /-- The assertions for the start and the end hold at every line. -/
  multiLine : Bool := true
deriving DecidableEq, Repr

def PatternOptions.flags (options : PatternOptions) : Regex.Flags where
  caseInsensitive := options.caseInsensitive
  multiLine := options.multiLine
  dotMatchesNewline := options.dotMatchesNewline
  swapGreed := false
  unicode := true
  crlf := false
  ignoreBlanks := false

/-- A look-behind at the beginning of a pattern, split off from the rest. -/
structure LookbehindSource where
  negated : Bool
  assertion : List Char
  rest : List Char
deriving DecidableEq, Repr

namespace LookbehindSource

/-- The text up to the parenthesis that closes the assertion, and the text after it. Parentheses in
brackets do not count, and a backslash takes the meaning from the character that follows it. -/
def closing? (depth : Nat) (inBrackets : Bool) : List Char → Option (List Char × List Char)
  | [] => none
  | '\\' :: [] => none
  | '\\' :: char :: rest =>
    (closing? depth inBrackets rest).map fun (front, back) => ('\\' :: char :: front, back)
  | char :: rest =>
    if char = ')' ∧ !inBrackets ∧ depth = 0 then some ([], rest)
    else
      let depth := if inBrackets then depth
        else if char = '(' then depth + 1
        else if char = ')' then depth - 1
        else depth
      let inBrackets := if char = '[' then true else if char = ']' then false else inBrackets
      (closing? depth inBrackets rest).map fun (front, back) => (char :: front, back)

/-- Splits a look-behind off the beginning of a pattern. -/
def split? : List Char → Option LookbehindSource
  | '(' :: '?' :: '<' :: '!' :: rest =>
    (closing? 0 false rest).map fun (assertion, rest) => ⟨true, assertion, rest⟩
  | '(' :: '?' :: '<' :: '=' :: rest =>
    (closing? 0 false rest).map fun (assertion, rest) => ⟨false, assertion, rest⟩
  | _ => none

end LookbehindSource

/-- A look-behind that is asked before the rest of its pattern. -/
structure Lookbehind where
  negated : Bool
  /-- The assertion and the end of the text, which is the end of what it sees. -/
  expr : Regex.Expr

/-- Whether the look-behind lets a match start after the characters given nearest first. -/
def Lookbehind.allows (lookbehind : Lookbehind) (before : List Char) : Bool :=
  lookbehind.expr.occurs none before != lookbehind.negated

/-- A pattern that has been read: it may begin with a look-behind, and its program does the rest. -/
structure Pattern where
  source : String
  lookbehind : Option Lookbehind
  program : Regex.Program
  groupCount : Nat
  leastLength : Option Nat

instance : BEq Pattern := ⟨fun left right => left.source == right.source⟩

/-- The part of a text that a pattern matched, and the parts that its groups matched. -/
structure Match where
  stop : Nat
  groups : List (Option Regex.Extent)
deriving DecidableEq, Repr

/-- What a group matched; groups are counted from one. -/
def Match.group? (found : Match) : Nat → Option Regex.Extent
  | 0 => none
  | index + 1 => (found.groups[index]?).join

namespace Pattern

/-- The expression of a text, unless it is no pattern or its program would be too large. -/
def readExpr (options : PatternOptions) (source : List Char) :
    Except Regex.SourceError Regex.Expr := do
  let expr ← Regex.Expr.ofSource options.flags source
  if expr.footprint > Regex.footprintLimit then throw .tooLarge
  return expr

/-- The look-behind of an assertion's text, which must end where the text before the place ends. -/
def readLookbehind (options : PatternOptions) (source : LookbehindSource) :
    Except Regex.SourceError Lookbehind := do
  let whole := "(?:".toList ++ source.assertion ++ ")\\z".toList
  return ⟨source.negated, ← readExpr options whole⟩

/-- The pattern of a text. -/
def compile (options : PatternOptions) (source : String) : Except Regex.SourceError Pattern := do
  let chars := source.toList
  let (lookbehind, body) ← match LookbehindSource.split? chars with
    | some split => do
      let lookbehind ← readLookbehind options split
      pure (some lookbehind, split.rest)
    | none => pure (none, chars)
  let expr ← readExpr options body
  return {
    source, lookbehind
    program := .ofExpr expr
    groupCount := expr.captureCount
    leastLength := expr.leastLength }

/-- Whether some text lets the pattern match without consuming anything. -/
def canMatchEmpty (pattern : Pattern) : Bool := pattern.leastLength = some 0

/-- The match at a place, given by the characters before it, nearest first, and the text from it on.
Offsets are counted from the place. -/
def matchHere? (pattern : Pattern) (before after : List Char) : Option Match :=
  if pattern.lookbehind.all fun lookbehind => lookbehind.allows before then
    (pattern.program.run before.head? after).map fun success =>
      ⟨success.stop, (List.range pattern.groupCount).map fun index =>
        success.groups.get? (index + 1)⟩
  else none

/-- Asking for a match at an offset that is no place of the text. -/
inductive OffsetError
  /-- The offset lies more than one byte past the end. -/
  | pastEnd
  /-- The look-behind has no text to look at. -/
  | noBoundary
deriving DecidableEq, Repr

/-- The match at an offset of a text. No match starts inside a character or right after the end. -/
def matchAt (pattern : Pattern) (text : List Char) (offset : Nat) :
    Except OffsetError (Option Match) :=
  match Text.splitAt? text offset with
  | some (before, after) =>
    .ok ((pattern.matchHere? before after).map fun found =>
      ⟨offset + found.stop, found.groups.map fun group =>
        group.map fun extent => ⟨offset + extent.start, offset + extent.stop⟩⟩)
  | none =>
    if pattern.lookbehind.isSome then .error .noBoundary
    else if offset > Text.byteLength text + 1 then .error .pastEnd
    else .ok none

end Pattern

end RuleLexer

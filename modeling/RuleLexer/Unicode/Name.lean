import RuleLexer.Unicode.Category
import RuleLexer.Unicode.Property
import RuleLexer.Unicode.Script
import RuleLexer.Unicode.ScriptExtension

/-!
# Looking up classes of characters by name

Names are compared loosely: case, spaces, hyphens and underscores do not count, characters outside
ASCII are dropped, and a leading `is` is ignored. A bare name is that of a property, of a general
category or of a script, tried in this order; the three short names that denote both a property and
something else denote the latter.
-/
namespace RuleLexer.Unicode

/-- The form under which names are compared. -/
def looseName (name : List Char) : String :=
  let lower (char : Char) : Char := if char.isUpper then char.toLower else char
  let keep (chars : List Char) : List Char :=
    (chars.filter fun char => char.toNat < 0x80 && char != ' ' && char != '_' && char != '-').map
      lower
  match name with
  | first :: second :: rest =>
    if lower first = 'i' ∧ lower second = 's' then
      let kept := keep rest
      if kept = ['c'] then "isc" else .ofList kept
    else .ofList (keep name)
  | _ => .ofList (keep name)

/-- The entry of a table that carries a name. -/
def lookUp (name : String) (table : List (List String × CharSet)) : Option CharSet :=
  (table.find? fun entry => entry.1.contains name).map (·.2)

namespace Category

/-- The names of each category, without the groups. -/
def single : List (List String × CharSet) := [
  (["lu", "uppercaseletter"], uppercaseLetter),
  (["ll", "lowercaseletter"], lowercaseLetter),
  (["lt", "titlecaseletter"], titlecaseLetter),
  (["lm", "modifierletter"], modifierLetter),
  (["lo", "otherletter"], otherLetter),
  (["mn", "nonspacingmark"], nonspacingMark),
  (["mc", "spacingmark"], spacingMark),
  (["me", "enclosingmark"], enclosingMark),
  (["nd", "decimalnumber", "digit"], decimalNumber),
  (["nl", "letternumber"], letterNumber),
  (["no", "othernumber"], otherNumber),
  (["pc", "connectorpunctuation"], connectorPunctuation),
  (["pd", "dashpunctuation"], dashPunctuation),
  (["ps", "openpunctuation"], openPunctuation),
  (["pe", "closepunctuation"], closePunctuation),
  (["pi", "initialpunctuation"], initialPunctuation),
  (["pf", "finalpunctuation"], finalPunctuation),
  (["po", "otherpunctuation"], otherPunctuation),
  (["sm", "mathsymbol"], mathSymbol),
  (["sc", "currencysymbol"], currencySymbol),
  (["sk", "modifiersymbol"], modifierSymbol),
  (["so", "othersymbol"], otherSymbol),
  (["zs", "spaceseparator"], spaceSeparator),
  (["zl", "lineseparator"], lineSeparator),
  (["zp", "paragraphseparator"], paragraphSeparator),
  (["cc", "control", "cntrl"], control),
  (["cf", "format"], format),
  (["co", "privateuse"], privateUse),
  (["cn", "unassigned"], unassigned)]

/-- The names of each group, with the first letter or the categories of its members. -/
def groups : List (List String × List CharSet) := [
  (["l", "letter"],
    [uppercaseLetter, lowercaseLetter, titlecaseLetter, modifierLetter, otherLetter]),
  (["lc", "casedletter"], [uppercaseLetter, lowercaseLetter, titlecaseLetter]),
  (["m", "mark", "combiningmark"], [nonspacingMark, spacingMark, enclosingMark]),
  (["n", "number"], [decimalNumber, letterNumber, otherNumber]),
  (["p", "punctuation", "punct"],
    [connectorPunctuation, dashPunctuation, openPunctuation, closePunctuation, initialPunctuation,
      finalPunctuation, otherPunctuation]),
  (["s", "symbol"], [mathSymbol, currencySymbol, modifierSymbol, otherSymbol]),
  (["z", "separator"], [spaceSeparator, lineSeparator, paragraphSeparator]),
  (["c", "other"], [control, format, privateUse, unassigned])]

/-- The characters of a general category or of a group of them. -/
def named? (name : String) : Option CharSet :=
  match name with
  | "any" => some .full
  | "ascii" => some (.range 0 0x7F)
  | "assigned" => some unassigned.complement
  | name =>
    match lookUp name single with
    | some set => some set
    | none => (groups.find? fun entry => entry.1.contains name).map fun entry =>
        entry.2.foldl (· ∪ ·) .empty

end Category

/-- The class with a bare name. -/
def named? (name : List Char) : Option CharSet :=
  let name := looseName name
  let property :=
    if name = "cf" ∨ name = "sc" ∨ name = "lc" then none else lookUp name Property.table
  property <|> Category.named? name <|> lookUp name Script.table

/-- The class of the characters for which a property has a value. -/
def valued? (property value : List Char) : Option CharSet :=
  let value := looseName value
  match looseName property with
  | "gc" | "generalcategory" | "category" => Category.named? value
  | "sc" | "script" => lookUp value Script.table
  | "scx" | "scriptextensions" => lookUp value ScriptExtension.table
  | _ => none

end RuleLexer.Unicode

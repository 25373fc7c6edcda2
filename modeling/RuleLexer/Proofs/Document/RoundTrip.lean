import RuleLexer.Proofs.Json.Data
import RuleLexer.Proofs.Yaml.Data

/-!
# Documents that are read back

A table is written as data, in JSON or in YAML, and both formats answer the questions of the reader
as the data says. That a JSON text is read as the value that was written holds of every value that
can be written. Of a YAML text it is taken for granted that it is read as nodes that stand for the
data which was written.

## Main result

`TableDocument.reads_written`: a table is read back from what is written for it.
-/
namespace RuleLexer

/-! ### Comparing data -/

namespace Datum

mutual

/-- Whether two pieces of data are the same. -/
def same : Datum → Datum → Bool
  | .null, .null => true
  | .bool left, .bool right => left == right
  | .natural left, .natural right => left == right
  | .number, .number => true
  | .string left, .string right => left == right
  | .list left, .list right => sameItems left right
  | .map left, .map right => samePairs left right
  | _, _ => false

def sameItems : List Datum → List Datum → Bool
  | [], [] => true
  | left :: lefts, right :: rights => same left right && sameItems lefts rights
  | _, _ => false

def samePairs : List (Datum × Datum) → List (Datum × Datum) → Bool
  | [], [] => true
  | (key, left) :: lefts, (other, right) :: rights =>
    same key other && same left right && samePairs lefts rights
  | _, _ => false

end

mutual

theorem eq_of_same : ∀ {left right : Datum}, same left right → left = right
  | .null, .null, _ => rfl
  | .bool _, .bool _, alike | .natural _, .natural _, alike | .string _, .string _, alike => by
    simpa [same] using alike
  | .number, .number, _ => rfl
  | .list _, .list _, alike => congrArg Datum.list (eq_of_sameItems alike)
  | .map _, .map _, alike => congrArg Datum.map (eq_of_samePairs alike)

theorem eq_of_sameItems : ∀ {lefts rights : List Datum}, sameItems lefts rights → lefts = rights
  | [], [], _ => rfl
  | _ :: _, _ :: _, alike => by
    obtain ⟨first, rest⟩ := Bool.and_eq_true_iff.mp alike
    rw [eq_of_same first, eq_of_sameItems rest]

theorem eq_of_samePairs : ∀ {lefts rights : List (Datum × Datum)}, samePairs lefts rights →
    lefts = rights
  | [], [], _ => rfl
  | (_, _) :: _, (_, _) :: _, alike => by
    obtain ⟨first, rest⟩ := Bool.and_eq_true_iff.mp alike
    obtain ⟨key, value⟩ := Bool.and_eq_true_iff.mp first
    rw [eq_of_same key, eq_of_same value, eq_of_samePairs rest]

end

end Datum

/-! ### Tables -/

namespace TableDocument

variable {document : TableDocument}

theorem ofJson_toJson (proper : document.IsProper) : ofJson document.toJson = .ok document := by
  have writable := Json.isWritable_ofDatum (fits_toDatum proper)
  have read : Json.read document.toJson.toList = some (Json.Value.ofDatum document.toDatum) := by
    rw [toJson, Json.writeDatum, String.toList_ofList]
    exact Json.read_write writable
  rw [ofJson, read, Option.bind_some, ofElement?_eq_some Json.faithful proper rfl]

theorem ofYaml_toYaml (proper : document.IsProper) {tree : Yaml.Document}
    (read : Yaml.Document.read? document.toYaml.toList = some tree)
    (same : tree.root.datum? = some document.toDatum) : ofYaml document.toYaml = .ok document := by
  rw [ofYaml, read, Option.bind_some, ofElement?_eq_some Yaml.faithful proper same]

/-- **Round trip.** A table, whatever its name, its options and its entries are, is read back from
the JSON text that is written for it, and from the YAML text as well, where this text is read as the
tree that was written. What is read builds the same table or fails with the same error. -/
theorem reads_written (proper : document.IsProper) :
    (ofJson document.toJson = .ok document ∧
      (ofJson document.toJson).map build = .ok document.build) ∧
    ∀ tree, Yaml.Document.read? document.toYaml.toList = some tree →
      tree.root.datum? = some document.toDatum →
      ofYaml document.toYaml = .ok document ∧
        (ofYaml document.toYaml).map build = .ok document.build := by
  refine ⟨?_, fun tree read same => ?_⟩
  · rw [ofJson_toJson proper]
    exact ⟨rfl, rfl⟩
  · rw [ofYaml_toYaml proper read same]
    exact ⟨rfl, rfl⟩

/-- A table whose texts would mean something else without quotes. -/
theorem reads_written_of_quoted :
    let document : TableDocument := {
      name := "1", options := { patterns := { caseInsensitive := true } },
      states := [("~", [.words ["true"] "" "" "Name" (some (.one "#pop")), .includeState "no"])] }
    ofYaml document.toYaml = .ok document ∧ ofJson document.toJson = .ok document := by
  intro document
  have proper : document.IsProper := ⟨by decide, by decide, by decide⟩
  -- The text is computed and read, and what is read is compared with the data.
  have kept : (Yaml.Document.read? document.toYaml.toList).any fun tree =>
      tree.root.datum?.any fun datum => datum.same document.toDatum := by
    decide +kernel
  obtain ⟨tree, read, kept⟩ := (Option.any_eq_true _ _).mp kept
  obtain ⟨datum, shown, alike⟩ := (Option.any_eq_true _ _).mp kept
  rw [Datum.eq_of_same alike] at shown
  obtain ⟨⟨json, -⟩, fromYaml⟩ := reads_written proper
  exact ⟨(fromYaml tree read shown).1, json⟩

end TableDocument

end RuleLexer

import Scaffold.Proofs.Json.Reading
import Scaffold.Result.Render
import Scaffold.Result.Schema

/-!
# Results read back from JSON

A result is written as a map of its fields and read from one.  What is written of a plain result is
read as that result, with the entries of its maps in their order, on one line and on many.
-/

namespace Scaffold

open Json Schema

/-- Whether the data, the details of the error and the meta data are values that can be read back
    from their texts. -/
def Result.isPlain (r : Result) : Bool :=
  (Value.map r.data).isPlain && r.error.all (fun e => (Value.map e.detail).isPlain) &&
    r.metaData.all (fun entries => (Value.map entries).isPlain)

section Reading

variable {source : Source}

/-- A list of texts is read as those texts. -/
theorem readTexts_ofStrings (texts : List String) :
    readTexts source (.ofStrings texts) = .ok texts := by
  have strings : Value.strings (texts.map .str) = texts := by
    induction texts with
    | nil => rfl
    | cons s texts ih => exact congrArg (s :: ·) ih
  rw [Value.ofStrings, readTexts, if_pos, strings]
  rw [List.isEmpty_iff, List.filterMap_eq_nil_iff]
  rintro ⟨item, n⟩ member
  obtain ⟨s, -, rfl⟩ := List.mem_map.mp (List.fst_mem_of_mem_zipIdx member)
  rfl

/-- A field that is among the entries is read from there. -/
theorem readField_of_get? {α : Type} {entries : Entries} {name : String} {v : Value} {a : α}
    {fallback : Read α} {read : Value → Read α} (found : entries.get? name = some v)
    (result : read v = .ok a) : readField entries name fallback read = .ok a := by
  rw [readField, found]
  dsimp only
  rw [result]
  rfl

/-- A result is read from the map of its fields. -/
theorem Result.read_toJson (r : Result) : Result.read source r.toJson = .ok r := by
  have error : readNullable (ErrorInfo.read source) ((r.error.map ErrorInfo.toJson).getD .null) =
      .ok r.error := by
    cases r.error <;> rfl
  have metaData : readNullable (fun v => whole (readMap source v))
      ((r.metaData.map Value.map).getD .null) = .ok r.metaData := by
    cases r.metaData <;> rfl
  have fields : r.toJson = .map r.toJson.entries := rfl
  have ok : readField r.toJson.entries "ok" required (fun v => whole (readBool v)) = .ok r.ok := rfl
  have op : readField r.toJson.entries "op" required (fun v => whole (readText v)) = .ok r.op := rfl
  have data : readField r.toJson.entries "data" (.ok []) (fun v => whole (readMap source v)) =
      .ok r.data := rfl
  rw [fields, Result.read, ok, op, data, readField_of_get? rfl (readTexts_ofStrings r.warnings),
    readField_of_get? rfl error, readField_of_get? rfl metaData]

end Reading

section Plain

variable {r : Result}

theorem isPlain_ofStrings (texts : List String) : (Value.ofStrings texts).isPlain := by
  induction texts with
  | nil => rfl
  | cons s texts ih => exact ih

/-- A map with different keys is plain if all values are. -/
theorem isPlain_map {entries : Entries} (distinct : (entries.map (·.1)).Nodup)
    (plain : arePlainEntries entries) : (Value.map entries).isPlain := by
  rw [Value.isPlain, Bool.and_eq_true]
  exact ⟨decide_eq_true distinct, plain⟩

/-- The map of the fields of a plain result is plain. -/
theorem Result.isPlain_toJson (plain : r.isPlain) : r.toJson.isPlain := by
  simp only [Result.isPlain, Bool.and_eq_true] at plain
  obtain ⟨⟨data, detail⟩, metaData⟩ := plain
  have error : ((r.error.map ErrorInfo.toJson).getD .null).isPlain := by
    cases known : r.error with
    | none => rfl
    | some e =>
      rw [known, Option.all_some] at detail
      refine isPlain_map (by simp) ?_
      simp only [arePlainEntries, Value.isPlain, Bool.true_and, Bool.and_true]
      exact detail
  have metaData : ((r.metaData.map Value.map).getD .null).isPlain := by
    cases known : r.metaData with
    | none => rfl
    | some entries =>
      rw [known, Option.all_some] at metaData
      exact metaData
  have warnings := isPlain_ofStrings r.warnings
  refine isPlain_map (by simp) ?_
  simp only [arePlainEntries, data, warnings, error, metaData, Bool.and_true]
  rfl

/-- Every spelling of the map of the fields of a plain result is a text of that result. -/
theorem Result.parse_spelled {text : String} (spells : Spells r.toJson text.toList)
    (plain : r.isPlain) (shallow : r.toJson.depth ≤ nestingLimit) : Result.parse text = .ok r := by
  have value := Json.parse_spelled spells (Result.isPlain_toJson plain) shallow
  rw [Result.parse, value]
  exact Result.read_toJson r

end Plain

end Scaffold

import Scaffold.Config.Settings
import Scaffold.Proofs.Json.Entries

/-!
# Merging sources key by key

A source of settings says something of a place: a top-level name, or a key of a section.  What
merged sources say of it is what the upper one says, or else what the lower one says.  Where both
say a map the two maps are merged, so that this holds up to the content of maps: `Alike`.
-/

namespace Scaffold.Config

open Json

/-- The same value, or a map on both sides. -/
def Alike (a b : Option Value) : Prop :=
  a = b ∨ ∃ es more, a = some (.map es) ∧ b = some (.map more)

namespace Alike

variable {a b c a' b' : Option Value}

theorem refl (a : Option Value) : Alike a a := .inl rfl

theorem maps (es more : Entries) : Alike (some (.map es)) (some (.map more)) :=
  .inr ⟨es, more, rfl, rfl⟩

theorem trans (first : Alike a b) (next : Alike b c) : Alike a c := by
  rcases first with rfl | ⟨es, more, left, middle⟩
  · exact next
  · rcases next with rfl | ⟨_, last, _, right⟩
    · exact .inr ⟨es, more, left, middle⟩
    · exact .inr ⟨es, last, left, right⟩

/-- The first of two that says something says alike things of alike ones. -/
theorem or_ (upper : Alike a a') (lower : Alike b b') : Alike (a.or b) (a'.or b') := by
  rcases upper with rfl | ⟨es, more, rfl, rfl⟩
  · cases a with
    | none => simpa using lower
    | some v => exact refl _
  · exact maps es more

/-- What is not a map is the same on both sides. -/
theorem eq_of_noMap (alike : Alike a b) (noMap : ∀ es, b ≠ some (.map es)) : a = b := by
  rcases alike with same | ⟨_, more, _, right⟩
  · exact same
  · exact absurd right (noMap more)

end Alike

/-- What is left under a key when a value is set over what was there. -/
def setOver (below : Option Value) (value : Value) : Value :=
  match below with
  | some below => mergeValue below value
  | none => value

theorem mergeValue_map (l u : Entries) :
    mergeValue (.map l) (.map u) = .map (mergeEntries l u) := by
  rw [mergeValue]

/-- What is set over another value is this value, or a map if both are. -/
theorem alike_setOver (below : Option Value) (value : Value) :
    Alike (some (setOver below value)) (some value) := by
  cases below with
  | none => exact .refl _
  | some below =>
    rw [setOver, mergeValue.eq_def]
    split
    · exact .maps _ _
    · exact .refl _

section

variable {lower upper : Entries} {key : String}

theorem mergeEntries_nil (lower : Entries) : mergeEntries lower [] = lower := by
  rw [mergeEntries]

theorem mergeEntries_cons (lower upper : Entries) (key : String) (value : Value) :
    mergeEntries lower ((key, value) :: upper) =
      mergeEntries (lower.insert key (setOver (lower.get? key) value)) upper := by
  rw [mergeEntries]
  rfl

/-- Entries with new keys are put at the end. -/
theorem mergeEntries_eq_append (distinct : (lower.keys ++ upper.keys).Nodup) :
    mergeEntries lower upper = lower ++ upper := by
  induction upper generalizing lower with
  | nil => rw [mergeEntries_nil, List.append_nil]
  | cons e upper ih =>
    obtain ⟨first, value⟩ := e
    have fresh : first ∉ lower.keys := fun member =>
      (List.nodup_append.mp distinct).2.2 first member first List.mem_cons_self rfl
    rw [mergeEntries_cons, Entries.get?_eq_none_iff.mpr fresh, Entries.insert_of_not_mem fresh, ih]
    · simp [setOver]
    · simpa [Entries.keys] using distinct

/-- What merged entries say of a key. -/
theorem get?_mergeEntries (distinct : upper.keys.Nodup) (key : String) :
    (mergeEntries lower upper).get? key =
      ((upper.get? key).map (setOver (lower.get? key))).or (lower.get? key) := by
  induction upper generalizing lower with
  | nil => rw [mergeEntries_nil]; rfl
  | cons e upper ih =>
    obtain ⟨first, value⟩ := e
    obtain ⟨fresh, distinct⟩ := List.nodup_cons.mp distinct
    rw [mergeEntries_cons, ih distinct, Entries.get?_insert, Entries.get?_cons]
    by_cases here : first = key
    · subst here
      have absent : Entries.get? upper first = none := Entries.get?_eq_none_iff.mpr fresh
      simp [absent]
    · simp [here]

theorem alike_get?_mergeEntries (distinct : upper.keys.Nodup) (key : String) :
    Alike ((mergeEntries lower upper).get? key) ((upper.get? key).or (lower.get? key)) := by
  rw [get?_mergeEntries distinct]
  refine .or_ ?_ (.refl _)
  cases upper.get? key with
  | none => exact .refl _
  | some value => exact alike_setOver _ value

theorem mem_keys_mergeEntries :
    key ∈ (mergeEntries lower upper).keys ↔ key ∈ lower.keys ∨ key ∈ upper.keys := by
  induction upper generalizing lower with
  | nil =>
    rw [mergeEntries_nil]
    simp [Entries.keys]
  | cons e upper ih =>
    rw [mergeEntries_cons, ih, Entries.mem_keys_insert]
    simp only [Entries.keys, List.map_cons, List.mem_cons]
    tauto

end

/-- Where a source may say something of a setting. -/
inductive Place where
  | top (name : String)
  | inside (shape : SectionShape) (key : String)

/-- What a source says of a place. -/
def Place.find? (es : Entries) : Place → Option Value
  | top name => es.get? name
  | inside shape key => (es.get? shape.name).bind (·.get? key)

/-- Every section that is given is given as a table. -/
def GivesTables (es : Entries) : Prop :=
  ∀ shape ∈ sectionShapes, ∀ v, es.get? shape.name = some v → ∃ inner, v = .map inner

/-- Whether a value is a map, if there is one. -/
def isTable : Option Value → Bool
  | some (.map _) => true
  | some _ => false
  | none => true

theorem isTable_iff {given : Option Value} :
    isTable given ↔ ∀ v, given = some v → ∃ inner, v = .map inner := by
  cases given with
  | none => simp [isTable]
  | some v => cases v <;> simp [isTable]

instance (es : Entries) : Decidable (GivesTables es) :=
  decidable_of_iff (∀ shape ∈ sectionShapes, isTable (es.get? shape.name))
    (forall₂_congr fun _ _ => isTable_iff)

/-- No key is given twice, neither at the top nor in a section. -/
structure GivesOnce (es : Entries) : Prop where
  top : es.keys.Nodup
  inside : ∀ shape ∈ sectionShapes, ∀ inner : Entries,
    es.get? shape.name = some (.map inner) → inner.keys.Nodup

/-- The places of settings: the flags at the top and the fields of the sections. -/
def Place.IsProper : Place → Prop
  | top name => name ∈ flagNames
  | inside shape key => shape ∈ sectionShapes ∧ key ∈ shape.fields

instance : (place : Place) → Decidable place.IsProper
  | .top name => inferInstanceAs (Decidable (name ∈ flagNames))
  | .inside shape key => inferInstanceAs (Decidable (shape ∈ sectionShapes ∧ key ∈ shape.fields))

section

variable {lower upper : Entries}

theorem GivesTables.merge (once : GivesOnce upper) (upperTables : GivesTables upper)
    (lowerTables : GivesTables lower) : GivesTables (mergeEntries lower upper) := by
  intro shape member v found
  rw [get?_mergeEntries once.top] at found
  cases above : upper.get? shape.name with
  | none =>
    rw [above] at found
    exact lowerTables shape member v (by simpa using found)
  | some value =>
    obtain ⟨u, rfl⟩ := upperTables shape member value above
    rw [above] at found
    cases below : lower.get? shape.name with
    | none =>
      rw [below] at found
      exact ⟨u, by simpa [setOver] using found.symm⟩
    | some other =>
      obtain ⟨l, rfl⟩ := lowerTables shape member other below
      rw [below] at found
      exact ⟨mergeEntries l u, by simpa [setOver, mergeValue_map] using found.symm⟩

/-- Merged sources say of a place what the upper one says, or else what the lower one says. -/
theorem alike_find?_mergeEntries (once : GivesOnce upper) (upperTables : GivesTables upper)
    (lowerTables : GivesTables lower) {place : Place} (proper : place.IsProper) :
    Alike (place.find? (mergeEntries lower upper))
      ((place.find? upper).or (place.find? lower)) := by
  cases place with
  | top name => exact alike_get?_mergeEntries once.top name
  | inside shape key =>
    simp only [Place.find?]
    rw [get?_mergeEntries once.top]
    cases above : upper.get? shape.name with
    | none => exact .refl _
    | some value =>
      obtain ⟨u, rfl⟩ := upperTables shape proper.1 value above
      cases below : lower.get? shape.name with
      | none =>
        simp only [setOver, Option.map_some, Option.bind_some, Option.bind_none, Option.or_none]
        exact .refl _
      | some other =>
        obtain ⟨l, rfl⟩ := lowerTables shape proper.1 other below
        simp only [setOver, mergeValue_map, Option.map_some, Option.some_or, Option.bind_some]
        exact alike_get?_mergeEntries (once.inside shape proper.1 u above) key

end

end Scaffold.Config

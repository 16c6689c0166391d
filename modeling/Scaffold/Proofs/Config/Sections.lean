import Scaffold.Proofs.Config.Variables

/-!
# Sections in the environment

A section is given as JSON, by variables for its keys, or both, and the keys in the JSON may be
spelled in any letter case.  What the environment says of a key is read off the JSON with the key's
own variable set in it.
-/

namespace Scaffold.Config

open Json

/-- The entries whose keys spell a key, letter case aside. -/
def spelled (key : String) (es : Entries) : Entries := es.filter (lowerName ·.1 == key)

/-- What entries say under a key, letter case aside: of several spellings the last one counts. -/
def lastSpelled? (key : String) (es : Entries) : Option Value :=
  ((spelled key es).getLast?).map (·.2)

section

variable {key other : String} {value : Value} {entries upper : Entries}

/-- A key in lower case sets itself among its spellings. -/
theorem spelled_insert_self (low : lowerName key = key) (value : Value) (entries : Entries) :
    spelled key (entries.insert key value) = (spelled key entries).insert key value := by
  unfold spelled
  induction entries with
  | nil => simp [Entries.insert, low]
  | cons e entries ih =>
    rw [Entries.insert]
    by_cases here : e.1 = key
    · rw [if_pos here]
      simp [here, low, Entries.insert]
    · rw [if_neg here, List.filter_cons, List.filter_cons, ih]
      by_cases same : lowerName e.1 == key
      · rw [if_pos same, if_pos same, Entries.insert, if_neg here]
      · rw [if_neg same, if_neg same]

theorem spelled_insert_other (different : lowerName other ≠ key) (value : Value)
    (entries : Entries) : spelled key (entries.insert other value) = spelled key entries := by
  unfold spelled
  induction entries with
  | nil => simp [Entries.insert, different]
  | cons e entries ih =>
    rw [Entries.insert]
    by_cases here : e.1 = other
    · rw [if_pos here]
      simp [here, different]
    · rw [if_neg here, List.filter_cons, List.filter_cons, ih]

/-- Alike values, set under a key, leave alike values at the end. -/
theorem alike_getLast?_insert {v w : Value} (alike : Alike (some v) (some w)) (key : String)
    (entries : Entries) :
    Alike ((entries.insert key v).getLast?.map (·.2))
      ((entries.insert key w).getLast?.map (·.2)) := by
  induction entries with
  | nil => exact alike
  | cons e entries ih =>
    rw [Entries.insert, Entries.insert]
    split
    · cases last : entries.getLast? <;> simp [List.getLast?_cons, last, alike, Alike.refl]
    · rw [List.getLast?_cons, List.getLast?_cons]
      cases entries with
      | nil => exact alike
      | cons e' entries =>
        have filled (v : Value) : (Entries.insert key v (e' :: entries)).getLast?.isSome := by
          rw [List.getLast?_isSome, Entries.insert]
          split <;> exact List.cons_ne_nil _ _
        obtain ⟨last, found⟩ := Option.isSome_iff_exists.mp (filled v)
        obtain ⟨other, found'⟩ := Option.isSome_iff_exists.mp (filled w)
        rw [found, found'] at ih ⊢
        exact ih

/-- The entries with a value set under a key, if there is one. -/
def withGiven (key : String) (given : Option Value) (entries : Entries) : Entries :=
  given.elim entries (entries.insert key ·)

theorem spelled_withGiven (low : lowerName key = key) (given : Option Value) (entries : Entries) :
    spelled key (withGiven key given entries) = withGiven key given (spelled key entries) := by
  cases given with
  | none => rfl
  | some v => exact spelled_insert_self low v entries

theorem alike_lastSpelled?_withGiven (low : lowerName key = key) {a b : Option Value}
    (alike : Alike a b) (entries : Entries) :
    Alike (lastSpelled? key (withGiven key a entries))
      (lastSpelled? key (withGiven key b entries)) := by
  rcases alike with rfl | ⟨es, more, rfl, rfl⟩
  · exact .refl _
  · simp only [lastSpelled?, withGiven, Option.elim, spelled_insert_self low]
    exact alike_getLast?_insert (.maps es more) key _

/-- Entries merged into others count under a key as the value they have under this key does, if
    none of them spells the key otherwise. -/
theorem alike_lastSpelled?_mergeEntries (low : lowerName key = key)
    (distinct : upper.keys.Nodup) (plain : ∀ k ∈ upper.keys, lowerName k = key → k = key)
    (lower : Entries) :
    Alike (lastSpelled? key (mergeEntries lower upper))
      (lastSpelled? key (withGiven key (upper.get? key) lower)) := by
  induction upper generalizing lower with
  | nil =>
    rw [mergeEntries_nil]
    exact .refl _
  | cons e upper ih =>
    obtain ⟨first, value⟩ := e
    obtain ⟨fresh, distinct⟩ := List.nodup_cons.mp distinct
    have rest := ih distinct (fun k member => plain k (List.mem_cons_of_mem _ member))
      (lower.insert first (setOver (lower.get? first) value))
    rw [mergeEntries_cons]
    refine rest.trans ?_
    rw [Entries.get?_cons]
    dsimp only
    by_cases here : first = key
    · subst here
      have absent : Entries.get? upper first = none := Entries.get?_eq_none_iff.mpr fresh
      rw [absent, if_pos rfl]
      exact alike_lastSpelled?_withGiven low (a := some _) (alike_setOver _ value) lower
    · have apart : lowerName first ≠ key := fun same =>
        here (plain first List.mem_cons_self same)
      rw [if_neg here, lastSpelled?, spelled_withGiven low, spelled_insert_other apart,
        ← spelled_withGiven low]
      exact .refl _

end

/-- The names of fields are keys and ASCII words in lower case. -/
structure SectionShape.IsPlain (shape : SectionShape) : Prop where
  keys : ∀ field ∈ shape.fields, isKey field.toList
  ascii : ∀ field ∈ shape.fields, field.toList.all (·.toNat < 128)
  low : ∀ field ∈ shape.fields, lowerName field = field
  lists : ∀ field ∈ shape.lists, field ∈ shape.fields

instance (shape : SectionShape) : Decidable shape.IsPlain :=
  decidable_of_iff (_ ∧ _ ∧ _ ∧ _) ⟨fun ⟨keys, ascii, low, lists⟩ => ⟨keys, ascii, low, lists⟩,
    fun plain => ⟨plain.keys, plain.ascii, plain.low, plain.lists⟩⟩

theorem isPlain_of_mem : ∀ shape ∈ sectionShapes, shape.IsPlain := by decide +kernel

section

variable {shape : SectionShape} {key : String} {environment : List (String × String)}

/-- A field of a section has the value that counts under its name, letter case aside. -/
theorem get?_normalizeFields (plain : shape.IsPlain) (member : key ∈ shape.fields)
    (entries : Entries) :
    (normalizeFields shape entries).get? key = lastSpelled? key entries := by
  have renamed (k : String) :
      ((shape.fields.find? (· == lowerName k)).getD k == key) = (lowerName k == key) := by
    cases found : shape.fields.find? (· == lowerName k) with
    | some field =>
      have same : field = lowerName k := by simpa using List.find?_some found
      rw [Option.getD_some, same]
    | none =>
      have unknown : lowerName k ≠ key := by
        rintro rfl
        exact List.find?_eq_none.mp found _ member (beq_self_eq_true _)
      have different : k ≠ key := by
        rintro rfl
        exact unknown (plain.low k member)
      rw [Option.getD_none, beq_false_of_ne different, beq_false_of_ne unknown]
  rw [normalizeFields, Entries.get?_ofPairs, ← List.map_reverse, Entries.get?, List.find?_map,
    lastSpelled?, spelled, List.getLast?_eq_head?_reverse, ← List.filter_reverse,
    List.head?_filter, Option.map_map]
  have same : ((fun x : String × Value => x.1 == key) ∘ fun x : String × Value =>
      ((shape.fields.find? (· == lowerName x.1)).getD x.1, x.2)) =
        fun x => lowerName x.1 == key := funext fun x => renamed x.1
  exact congrArg (fun p => (entries.reverse.find? p).map (·.2)) same

/-- The object that the environment gives for a section as a whole. -/
def objectGiven (environment : List (String × String)) (shape : SectionShape) : Entries :=
  match (variableText? environment (variableStart ++ shape.name)).map (Json.parse ·.toList) with
  | some (.ok (.map entries)) => entries
  | _ => []

/-- What the environment says of a place: a flag has the text of its variable, a key of a section
    the value that counts in the section's object with the key's own variable set in it. -/
def environmentValue? (environment : List (String × String)) : Place → Option Value
  | .top name => (variableText? environment (variableStart ++ name)).map .str
  | .inside shape key =>
    lastSpelled? key (withGiven key (keyValue? environment shape key)
      (objectGiven environment shape))

/-- The environment gives every section as an object, and lists as JSON. -/
structure WellGiven (environment : List (String × String)) : Prop where
  objects : ∀ shape ∈ sectionShapes, ∀ text,
    variableText? environment (variableStart ++ shape.name) = some text →
      ∃ entries, Json.parse text.toList = .ok (.map entries)
  lists : ∀ shape ∈ sectionShapes, ListsReadable environment shape

/-- Whether a text is JSON, as far as there is one, and what the JSON is. -/
def parsesTo (accepted : Value → Bool) : Option String → Bool
  | none => true
  | some text =>
    match Json.parse text.toList with
    | .ok value => accepted value
    | .error _ => false

theorem parsesTo_iff {accepted : Value → Bool} {text? : Option String} :
    parsesTo accepted text? ↔
      ∀ text, text? = some text → ∃ v, Json.parse text.toList = .ok v ∧ accepted v := by
  cases text? with
  | none => simp [parsesTo]
  | some text =>
    cases parsed : Json.parse text.toList <;> simp [parsesTo, parsed]

instance (environment : List (String × String)) : Decidable (WellGiven environment) :=
  decidable_of_iff
    (∀ shape ∈ sectionShapes,
      parsesTo (fun v => isTable (some v))
          (variableText? environment (variableStart ++ shape.name)) ∧
        ∀ key ∈ shape.lists,
          parsesTo (fun _ => true)
            ((variableText? environment (keyVariable shape key)).filter (· ≠ ""))) (by
    simp only [parsesTo_iff]
    constructor
    · intro check
      refine ⟨fun shape member text found => ?_, fun shape member key list text found filled => ?_⟩
      · obtain ⟨v, parsed, table⟩ := (check shape member).1 text found
        obtain ⟨entries, rfl⟩ := isTable_iff.mp table v rfl
        exact ⟨entries, parsed⟩
      · obtain ⟨v, parsed, _⟩ :=
          (check shape member).2 key list text (by simp [found, Option.filter, filled])
        exact ⟨v, parsed⟩
    · intro given shape member
      refine ⟨fun text found => ?_, fun key list text found => ?_⟩
      · obtain ⟨entries, parsed⟩ := given.objects shape member text found
        exact ⟨_, parsed, rfl⟩
      · obtain ⟨found, filled⟩ := Option.filter_eq_some_iff.mp found
        obtain ⟨v, parsed⟩ := given.lists shape member key list text found (by simpa using filled)
        exact ⟨v, parsed, trivial⟩)

/-- What the environment says of a section: a map, if anything, that says of each field what the
    environment says of it. -/
structure Tells (environment : List (String × String)) (shape : SectionShape)
    (given : Option Value) : Prop where
  table : ∀ v, given = some v → ∃ inner, v = .map inner
  once : ∀ inner : Entries, given = some (.map inner) → inner.keys.Nodup
  field : ∀ key ∈ shape.fields,
    Alike (given.bind (·.get? key)) (environmentValue? environment (.inside shape key))

theorem Tells.of_fields (plain : shape.IsPlain) {fields : Entries}
    (gives : Gives (keyValue? environment shape) fields) :
    Tells environment shape
      (some (.map (normalizeFields shape
        (mergeEntries (objectGiven environment shape) fields)))) where
  table v given := ⟨_, (Option.some_inj.mp given).symm⟩
  once inner given := by
    obtain rfl := Value.map.inj (Option.some_inj.mp given)
    exact Entries.nodup_keys_ofPairs _
  field key member := by
    have low := plain.low key member
    have ascii : ∀ c ∈ key.toList, c.toNat < 128 := by simpa using plain.ascii key member
    have alone : ∀ k ∈ fields.keys, lowerName k = key → k = key := by
      intro k given same
      refine String.toList_inj.mp (Text.eq_of_lower_eq (gives.low k given) ascii ?_)
      rw [← same, lowerName, String.toList_ofList]
    rw [Option.bind_some, Value.get?, Value.entries, get?_normalizeFields plain member]
    exact (alike_lastSpelled?_mergeEntries low gives.distinct alone _).trans
      (alike_lastSpelled?_withGiven low (gives.given key (plain.keys key member)) _)

/-- What the environment says of a section, where it gives sections as objects. -/
theorem exists_sectionValue (given : WellGiven environment) (member : shape ∈ sectionShapes) :
    ∃ value, sectionValue (normalizeVariables environment) shape = .ok value ∧
      Tells environment shape value := by
  have plain := isPlain_of_mem shape member
  obtain ⟨fields, found⟩ := exists_fieldsOf?
    (fun key list => plain.keys key (plain.lists key list)) (given.lists shape member)
  have gives := gives_of_fieldsOf? found
  have tells := Tells.of_fields plain gives
  unfold sectionValue
  rw [lookup_normalizeVariables, found]
  cases whole : variableText? environment (variableStart ++ shape.name) with
  | some text =>
    obtain ⟨entries, parsed⟩ := given.objects shape member text whole
    dsimp only
    rw [parsed]
    have object : objectGiven environment shape = entries := by
      rw [objectGiven, whole, Option.map_some, parsed]
    exact ⟨_, rfl, object ▸ tells⟩
  | none =>
    have object : objectGiven environment shape = [] := by
      rw [objectGiven, whole, Option.map_none]
    rw [object, mergeEntries_eq_append (by simpa [Entries.keys] using gives.distinct),
      List.nil_append] at tells
    cases fields with
    | cons e fields => exact ⟨_, rfl, tells⟩
    | nil =>
      refine ⟨none, rfl, ?_, ?_, fun key inside => ?_⟩
      · intro v none
        cases none
      · intro inner none
        cases none
      · exact tells.field key inside

/-- The flags that the variables give. -/
def flagsAmong (named : List (String × String)) (names : List String) : Entries :=
  names.filterMap fun name =>
    (named.lookup (variableStart ++ name)).map fun text => (name, Value.str text)

/-- The sections that the variables give. -/
def sectionsAmong (named : List (String × String)) (shapes : List SectionShape) :
    Except String Entries :=
  shapes.filterMapM fun shape => do
    return (← sectionValue named shape).map (shape.name, ·)

theorem environmentEntries_eq (environment : List (String × String)) :
    environmentEntries environment =
      (sectionsAmong (normalizeVariables environment) sectionShapes).map
        (flagsAmong (normalizeVariables environment) flagNames ++ ·) := rfl

theorem keys_flagsAmong_sublist (named : List (String × String)) (names : List String) :
    (flagsAmong named names).keys.Sublist names := by
  induction names with
  | nil => exact .slnil
  | cons name names ih =>
    rw [flagsAmong, List.filterMap_cons]
    cases named.lookup (variableStart ++ name) with
    | none => exact ih.cons name
    | some text => exact ih.cons_cons name

theorem get?_flagsAmong (named : List (String × String)) (names : List String) (name : String) :
    (flagsAmong named names).get? name =
      if name ∈ names then (named.lookup (variableStart ++ name)).map Value.str else none := by
  induction names with
  | nil => rfl
  | cons first names ih =>
    rw [flagsAmong, List.filterMap_cons]
    by_cases same : first = name
    · subst same
      rw [if_pos List.mem_cons_self]
      cases there : named.lookup (variableStart ++ first) with
      | none =>
        refine ih.trans ?_
        rw [there]
        simp
      | some text => simp [Entries.get?_cons]
    · have member : name ∈ first :: names ↔ name ∈ names := by simp [Ne.symm same]
      simp only [member]
      cases named.lookup (variableStart ++ first) with
      | none => exact ih
      | some text =>
        simp only [Option.map_some, Entries.get?_cons, if_neg same]
        exact ih

theorem exists_sectionsAmong (given : WellGiven environment) {shapes : List SectionShape}
    (proper : ∀ shape ∈ shapes, shape ∈ sectionShapes) (distinct : (shapes.map (·.name)).Nodup) :
    ∃ sections, sectionsAmong (normalizeVariables environment) shapes = .ok sections ∧
      sections.keys.Sublist (shapes.map (·.name)) ∧
      ∀ shape ∈ shapes, Tells environment shape (sections.get? shape.name) := by
  induction shapes with
  | nil => exact ⟨[], rfl, .slnil, fun shape member => by cases member⟩
  | cons shape shapes ih =>
    rw [List.map_cons, List.nodup_cons] at distinct
    obtain ⟨value, valued, tells⟩ := exists_sectionValue given (proper shape List.mem_cons_self)
    obtain ⟨sections, found, keys, all⟩ :=
      ih (fun other member => proper other (List.mem_cons_of_mem _ member)) distinct.2
    have absent : sections.get? shape.name = none :=
      Entries.get?_eq_none_iff.mpr fun member => distinct.1 (keys.subset member)
    have others : ∀ other ∈ shapes, shape.name ≠ other.name := fun other member same =>
      distinct.1 (same ▸ List.mem_map_of_mem member)
    rw [sectionsAmong, List.filterMapM_cons, valued]
    rw [sectionsAmong] at found
    cases value with
    | none =>
      refine ⟨sections, found, keys.cons _, fun other member => ?_⟩
      rcases List.mem_cons.mp member with rfl | member
      · exact absent ▸ tells
      · exact all other member
    | some value =>
      refine ⟨(shape.name, value) :: sections, ?_, keys.cons_cons _, fun other member => ?_⟩
      · simp only [bind, Except.bind, pure, Except.pure, Option.map_some] at found ⊢
        rw [found]
      · rw [Entries.get?_cons]
        rcases List.mem_cons.mp member with rfl | member
        · rw [if_pos rfl]
          exact tells
        · rw [if_neg (others other member)]
          exact all other member

/-- No name of a section is that of a flag, and none is there twice. -/
theorem nodup_names : (flagNames ++ sectionShapes.map (·.name)).Nodup := by decide

/-- What an environment that is well given says, and how it says it. -/
structure Environs (environment : List (String × String)) (named : Entries) : Prop where
  once : GivesOnce named
  tables : GivesTables named
  known : ∀ key ∈ named.keys, key ∈ flagNames ++ sectionShapes.map (·.name)
  value : ∀ place : Place, place.IsProper →
    Alike (place.find? named) (environmentValue? environment place)

theorem exists_environmentEntries (given : WellGiven environment) :
    ∃ named, environmentEntries environment = .ok named ∧ Environs environment named := by
  obtain ⟨sections, found, keys, all⟩ :=
    exists_sectionsAmong given (fun _ member => member) (List.nodup_append.mp nodup_names).2.1
  have flags := keys_flagsAmong_sublist (normalizeVariables environment) flagNames
  refine ⟨flagsAmong (normalizeVariables environment) flagNames ++ sections, ?_, ?_⟩
  · rw [environmentEntries_eq, found]
    rfl
  have apart := (List.nodup_append.mp nodup_names).2.2
  have both : (flagsAmong (normalizeVariables environment) flagNames ++ sections).keys.Sublist
      (flagNames ++ sectionShapes.map (·.name)) := by
    rw [Entries.keys, List.map_append]
    exact flags.append keys
  have under : ∀ shape ∈ sectionShapes,
      Entries.get? (flagsAmong (normalizeVariables environment) flagNames ++ sections)
        shape.name = sections.get? shape.name := by
    intro shape member
    rw [Entries.get?_append, get?_flagsAmong, if_neg, Option.none_or]
    exact fun flag => apart _ flag _ (List.mem_map_of_mem member) rfl
  refine ⟨⟨nodup_names.sublist both, ?_⟩, ?_, fun key member => both.subset member, ?_⟩
  · intro shape member inner told
    exact (all shape member).once inner (under shape member ▸ told)
  · intro shape member v told
    exact (all shape member).table v (under shape member ▸ told)
  · intro place proper
    cases place with
    | inside shape key =>
      rw [Place.find?, under shape proper.1]
      exact (all shape proper.1).field key proper.2
    | top name =>
      have flag : name ∈ flagNames := proper
      have absent : sections.get? name = none :=
        Entries.get?_eq_none_iff.mpr fun member =>
          apart name flag name (keys.subset member) rfl
      rw [Place.find?, Entries.get?_append, get?_flagsAmong, if_pos flag, absent, Option.or_none,
        lookup_normalizeVariables]
      exact .refl _

end

end Scaffold.Config

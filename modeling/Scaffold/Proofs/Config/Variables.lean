import Mathlib.Data.List.Induction
import Mathlib.Data.List.Nodup
import Scaffold.Proofs.Config.Merging
import Scaffold.Proofs.Text.LowerCase

/-!
# Variables and the keys they name

What the environment says under a name is told by its variables, letter case aside.  The fields of
a section that have variables of their own are told key by key: a key has the value of its own
variable, or else holds a map where only variables for parts of it are there.
-/

namespace Scaffold.Config

open Json

/-- A name in lower case. -/
def lowerName (name : String) : String := String.ofList (Text.lower name.toList)

/-- The text of a variable, letter case aside: of several spellings the last one counts. -/
def variableText? (environment : List (String × String)) (name : String) : Option String :=
  (environment.reverse.find? (lowerName ·.1 == name)).map (·.2)

theorem lookup_eq_none_of_not_mem {named : List (String × String)} {name : String}
    (absent : name ∉ named.map (·.1)) : named.lookup name = none := by
  refine List.lookup_eq_none_iff.mpr fun old member => ?_
  rw [bne_iff_ne]
  rintro rfl
  exact absent (List.mem_map_of_mem member)

/-- The variables with a text set under a name. -/
def setVariable (name text : String) (found : List (String × String)) : List (String × String) :=
  if found.any (·.1 == name) then
    found.map fun old => if old.1 = name then (name, text) else old
  else found ++ [(name, text)]

theorem lookup_setVariable_self (name text : String) (found : List (String × String)) :
    (setVariable name text found).lookup name = some text := by
  unfold setVariable
  split
  · rename_i there
    induction found with
    | nil => cases there
    | cons old found ih =>
      rw [List.map_cons, List.lookup_cons]
      by_cases here : old.1 = name
      · simp [here]
      · have behind : found.any (·.1 == name) := by simpa [here] using there
        rw [if_neg here, beq_false_of_ne (Ne.symm here)]
        exact ih behind
  · rename_i absent
    rw [List.lookup_append, lookup_eq_none_of_not_mem (by simpa [List.any_eq_true] using absent)]
    simp

theorem lookup_setVariable_other {name other : String} (different : other ≠ name) (text : String)
    (found : List (String × String)) :
    (setVariable name text found).lookup other = found.lookup other := by
  unfold setVariable
  split
  · rename_i there
    clear there
    induction found with
    | nil => rfl
    | cons old found ih =>
      rw [List.map_cons, List.lookup_cons, List.lookup_cons, ih]
      by_cases here : old.1 = name
      · rw [if_pos here, here, beq_false_of_ne different]
      · rw [if_neg here]
  · rw [List.lookup_append, List.lookup_cons, beq_false_of_ne different, List.lookup_nil,
      Option.or_none]

/-- A name keeps its place, and a new one goes to the end. -/
theorem names_setVariable (name text : String) (found : List (String × String)) :
    (setVariable name text found).map (·.1) =
      if name ∈ found.map (·.1) then found.map (·.1) else found.map (·.1) ++ [name] := by
  have there : found.any (·.1 == name) = true ↔ name ∈ found.map (·.1) := by
    simp [List.any_eq_true]
  have kept : (found.map fun old => if old.1 = name then (name, text) else old).map (·.1) =
      found.map (·.1) := by
    rw [List.map_map]
    refine List.map_congr_left fun old _ => ?_
    by_cases here : old.1 = name <;> simp [here]
  unfold setVariable
  simp only [there]
  split
  · exact kept
  · exact List.map_append

theorem normalizeVariables_concat (environment : List (String × String))
    (pair : String × String) :
    normalizeVariables (environment ++ [pair]) =
      setVariable (lowerName pair.1) pair.2 (normalizeVariables environment) := by
  rw [normalizeVariables, List.foldl_append]
  rfl

/-- What the variables say under a name does not depend on how they are ordered. -/
theorem lookup_normalizeVariables (environment : List (String × String)) (name : String) :
    (normalizeVariables environment).lookup name = variableText? environment name := by
  induction environment using List.reverseRecOn with
  | nil => rfl
  | append_singleton environment pair ih =>
    rw [normalizeVariables_concat, variableText?, List.reverse_append, List.reverse_singleton,
      List.singleton_append, List.find?_cons]
    by_cases same : lowerName pair.1 = name
    · rw [← same, lookup_setVariable_self, beq_self_eq_true]
      rfl
    · rw [lookup_setVariable_other (Ne.symm same), ih, beq_false_of_ne same]
      rfl

theorem nodup_normalizeVariables (environment : List (String × String)) :
    ((normalizeVariables environment).map (·.1)).Nodup := by
  induction environment using List.reverseRecOn with
  | nil => exact List.nodup_nil
  | append_singleton environment pair ih =>
    rw [normalizeVariables_concat, names_setVariable]
    split
    · exact ih
    · rename_i fresh
      exact List.concat_eq_append ▸ ih.concat fresh

theorem mem_names_normalizeVariables {environment : List (String × String)} {name : String} :
    name ∈ (normalizeVariables environment).map (·.1) ↔
      name ∈ environment.map (lowerName ·.1) := by
  induction environment using List.reverseRecOn with
  | nil => rfl
  | append_singleton environment pair ih =>
    rw [normalizeVariables_concat, names_setVariable, List.map_append, List.mem_append, ← ih]
    split
    · rename_i there
      simp only [List.map_cons, List.map_nil, List.mem_singleton]
      exact ⟨.inl, fun named => named.elim id fun new => new ▸ there⟩
    · exact List.mem_append

theorem isLow_of_mem_lowerName {name : String} :
    ∀ c ∈ (lowerName name).toList, Text.IsLow c := by
  intro c member
  rw [lowerName, String.toList_ofList] at member
  exact Text.isLow_of_mem_lower member

/-- The text between two keys. -/
theorem fieldSeparator_toList : fieldSeparator.toList = ['_', '_'] := rfl

/-- A key that ends neither in an underscore nor has two of them in a row. -/
def isKey : List Char → Bool
  | [] => true
  | ['_'] => false
  | '_' :: '_' :: _ => false
  | _ :: cs => isKey cs

theorem keysIn_ne_nil (cs : List Char) : keysIn cs ≠ [] := by
  fun_cases keysIn cs <;> simp

theorem keysIn_cons {c : Char} {cs key : List Char} {keys : List (List Char)}
    (single : ∀ rest, c = '_' → cs = '_' :: rest → False) (found : keysIn cs = key :: keys) :
    keysIn (c :: cs) = (c :: key) :: keys := by
  rw [keysIn.eq_2 c cs single, found]

theorem intercalate_cons_cons {α : Type} (separator : List α) (a : α) (as : List α)
    (parts : List (List α)) :
    separator.intercalate ((a :: as) :: parts) = a :: separator.intercalate (as :: parts) := by
  cases parts with
  | nil => simp [List.intercalate]
  | cons part parts => simp [List.intercalate]

/-- The keys in a text, joined again, are the text. -/
theorem intercalate_keysIn (cs : List Char) : ['_', '_'].intercalate (keysIn cs) = cs := by
  fun_induction keysIn cs with
  | case1 cs ih =>
    cases found : keysIn cs with
    | nil => exact absurd found (keysIn_ne_nil cs)
    | cons key keys =>
      rw [found] at ih
      simp [← ih, List.intercalate]
  | case2 c cs single key keys found ih =>
    rw [intercalate_cons_cons, ← found, ih]
  | case3 c cs single found => exact absurd found (keysIn_ne_nil cs)
  | case4 => rfl

variable {key : List Char}

theorem keysIn_of_isKey (plain : isKey key) : keysIn key = [key] := by
  fun_induction isKey key with
  | case1 => rfl
  | case2 => cases plain
  | case3 => cases plain
  | case4 c cs notEnd notTwice ih =>
    exact keysIn_cons (fun rest same twice => notTwice rest same twice) (ih plain)

theorem keysIn_append_separator (plain : isKey key) (behind : List Char) :
    keysIn (key ++ '_' :: '_' :: behind) = key :: keysIn behind := by
  fun_induction isKey key with
  | case1 => rw [List.nil_append, keysIn]
  | case2 => cases plain
  | case3 => cases plain
  | case4 c cs notEnd notTwice ih =>
    refine keysIn_cons (fun rest same twice => ?_) (ih plain)
    cases cs with
    | nil => exact notEnd same rfl
    | cons d cs =>
      injection twice with next tail
      exact notTwice cs same (next ▸ rfl)

/-- The variable for a key of a section. -/
def keyVariable (shape : SectionShape) (key : String) : String :=
  variableStart ++ shape.name ++ fieldSeparator ++ key

section

variable {shape : SectionShape} {key name : String}

theorem pathIn?_of_toList_eq (rest : List Char)
    (same : name.toList = (variableStart ++ shape.name ++ fieldSeparator).toList ++ rest) :
    pathIn? shape name = some ((keysIn rest).map String.ofList) := by
  have found := List.isPrefixOf?_eq_some_iff_append_eq.mpr same.symm
  rw [pathIn?, found]
  rfl

theorem pathIn?_ne_nil : pathIn? shape name ≠ some [] := by
  intro found
  obtain ⟨rest, _, none⟩ := Option.map_eq_some_iff.mp found
  exact keysIn_ne_nil rest (List.map_eq_nil_iff.mp none)

/-- A path, joined again, is what follows the name of the section. -/
theorem toList_of_pathIn? {path : List String} (found : pathIn? shape name = some path) :
    name.toList = (variableStart ++ shape.name ++ fieldSeparator).toList ++
      fieldSeparator.toList.intercalate (path.map String.toList) := by
  rw [pathIn?, Option.map_eq_some_iff] at found
  obtain ⟨rest, split, rfl⟩ := found
  rw [List.map_map, List.map_congr_left (g := id) (by simp), List.map_id, fieldSeparator_toList,
    intercalate_keysIn]
  exact (List.isPrefixOf?_eq_some_iff_append_eq.mp split).symm

/-- A variable is that of a key where it names this key and nothing in it. -/
theorem pathIn?_eq_singleton (plain : isKey key.toList) :
    pathIn? shape name = some [key] ↔ name = keyVariable shape key := by
  constructor
  · intro found
    rw [← String.toList_inj, toList_of_pathIn? found]
    simp [keyVariable, List.intercalate]
  · rintro rfl
    rw [pathIn?_of_toList_eq key.toList (by simp [keyVariable]), keysIn_of_isKey plain]
    simp

/-- A variable is for a part of what is under a key where its name goes on behind the key's. -/
theorem exists_pathIn?_eq_cons_cons (plain : isKey key.toList) :
    (∃ next more, pathIn? shape name = some (key :: next :: more)) ↔
      (keyVariable shape key ++ fieldSeparator).toList <+: name.toList := by
  constructor
  · rintro ⟨next, more, found⟩
    rw [toList_of_pathIn? found]
    exact ⟨fieldSeparator.toList.intercalate ((next :: more).map String.toList),
      by simp [keyVariable, List.intercalate]⟩
  · rintro ⟨behind, same⟩
    obtain ⟨next, more, found⟩ := List.exists_cons_of_ne_nil (keysIn_ne_nil behind)
    refine ⟨.ofList next, more.map .ofList, ?_⟩
    rw [pathIn?_of_toList_eq (key.toList ++ '_' :: '_' :: behind)
      (by rw [← same]; simp [keyVariable, fieldSeparator_toList]),
      keysIn_append_separator plain, found]
    simp

/-- Whether some of the names belong to a variable for a part of what is under a key. -/
def hasParts (shape : SectionShape) (key : String) (names : List String) : Bool :=
  names.any fun name => (keyVariable shape key ++ fieldSeparator).toList.isPrefixOf name.toList

/-- What the variables give for a key of a section: the value of its own variable, or else a map
    for its parts. -/
def keyGiven? (shape : SectionShape) (key : String) (own : Option String) (names : List String) :
    Option Value :=
  (own.bind (fieldValue? shape [key])).or
    (if hasParts shape key names then some (.map []) else none)

/-- The fields with those that a variable names. -/
def enterField (shape : SectionShape) (entries : Entries) (pair : String × String) :
    Option Entries :=
  match pathIn? shape pair.1 with
  | none => some entries
  | some path =>
    (fieldValue? shape path pair.2).map fun value =>
      enterPath value path.dropLast (path.getLastD "") entries

variable {value : Value} {entries fields : Entries} {named : List (String × String)}

/-- A path leads to its first key. -/
theorem enterPath_eq_insert (value : Value) (first : String) (more : List String)
    (entries : Entries) :
    let entered := enterPath value (first :: more).dropLast ((first :: more).getLastD "") entries
    entered = entries ∨ ∃ v, entered = entries.insert first v := by
  cases more with
  | nil => exact .inr ⟨value, rfl⟩
  | cons next more =>
    rw [List.dropLast_cons_cons, enterPath]
    dsimp only
    split
    · exact .inr ⟨_, rfl⟩
    · exact .inr ⟨_, rfl⟩
    · exact .inl rfl

/-- What is under the first key of a longer path stays, or else a map is put there. -/
theorem alike_get?_enterPath (value : Value) (first next : String) (more : List String)
    (entries : Entries) :
    Alike
      (Entries.get? (enterPath value (first :: next :: more).dropLast
        ((first :: next :: more).getLastD "") entries) first)
      ((entries.get? first).or (some (.map []))) := by
  rw [List.dropLast_cons_cons, enterPath]
  cases there : entries.get? first with
  | none =>
    rw [Entries.get?_insert_self]
    exact .maps _ _
  | some old =>
    cases old with
    | map inner =>
      dsimp only
      rw [Entries.get?_insert_self]
      exact .maps _ _
    | _ =>
      dsimp only
      rw [there]
      exact .refl _

/-- What variables with their names in lower case give for a key. -/
def keyAmong? (shape : SectionShape) (named : List (String × String)) (key : String) :
    Option Value :=
  keyGiven? shape key (named.lookup (keyVariable shape key)) (named.map (·.1))

/-- The fields that are given, key by key. -/
structure Gives (given? : String → Option Value) (fields : Entries) : Prop where
  distinct : fields.keys.Nodup
  low : ∀ key ∈ fields.keys, ∀ c ∈ key.toList, Text.IsLow c
  given : ∀ key : String, isKey key.toList → Alike (fields.get? key) (given? key)

theorem Gives.nil (shape : SectionShape) : Gives (keyAmong? shape []) [] where
  distinct := List.nodup_nil
  low key member := by cases member
  given key plain := .refl _

theorem enterField_eq_some {pair : String × String} {more : Entries}
    (entered : enterField shape fields pair = some more) :
    (pathIn? shape pair.1 = none ∧ more = fields) ∨
      ∃ first others value, pathIn? shape pair.1 = some (first :: others) ∧
        fieldValue? shape (first :: others) pair.2 = some value ∧
        more =
          enterPath value (first :: others).dropLast ((first :: others).getLastD "") fields := by
  unfold enterField at entered
  cases found : pathIn? shape pair.1 with
  | none =>
    rw [found] at entered
    exact .inl ⟨rfl, (Option.some_inj.mp entered).symm⟩
  | some path =>
    rw [found] at entered
    obtain ⟨value, valued, rfl⟩ := Option.map_eq_some_iff.mp entered
    cases path with
    | nil => exact absurd found pathIn?_ne_nil
    | cons first others => exact .inr ⟨first, others, value, rfl, valued, rfl⟩

/-- What a variable does to the fields changes at most what is under the first key it names. -/
theorem enterField_other {pair : String × String} {more : Entries}
    (entered : enterField shape fields pair = some more)
    (different : ∀ others, pathIn? shape pair.1 ≠ some (key :: others)) :
    more.get? key = fields.get? key := by
  rcases enterField_eq_some entered with ⟨_, rfl⟩ | ⟨first, others, value, path, _, rfl⟩
  · rfl
  · rcases enterPath_eq_insert value first others fields with same | ⟨v, set⟩
    · rw [same]
    · have apart : first ≠ key := by
        rintro rfl
        exact different others path
      rw [set, Entries.get?_insert, if_neg apart]

theorem lookup_append_singleton (named : List (String × String)) (pair : String × String)
    (name : String) :
    (named ++ [pair]).lookup name =
      (named.lookup name).or (if pair.1 = name then some pair.2 else none) := by
  rw [List.lookup_append, List.lookup_cons, List.lookup_nil]
  by_cases same : pair.1 = name
  · rw [if_pos same, same, beq_self_eq_true]
  · rw [if_neg same, beq_false_of_ne (Ne.symm same)]

theorem hasParts_append (names more : List String) :
    hasParts shape key (names ++ more) = (hasParts shape key names || hasParts shape key more) :=
  List.any_append

theorem hasParts_singleton :
    hasParts shape key [name] ↔
      (keyVariable shape key ++ fieldSeparator).toList <+: name.toList := by
  simp [hasParts]

/-- One more variable, whose name is new, is told along with the others. -/
theorem Gives.given_concat {pair : String × String} (gives : Gives (keyAmong? shape named) fields)
    (fresh : pair.1 ∉ named.map (·.1)) {more : Entries}
    (entered : enterField shape fields pair = some more) (plain : isKey key.toList) :
    Alike (more.get? key) (keyAmong? shape (named ++ [pair]) key) := by
  have old := gives.given key plain
  rw [keyAmong?, List.map_append, List.map_singleton, lookup_append_singleton]
  by_cases own : pair.1 = keyVariable shape key
  · have path := (pathIn?_eq_singleton plain).mpr own
    rw [enterField, path, Option.map_eq_some_iff] at entered
    obtain ⟨value, valued, rfl⟩ := entered
    have new := lookup_eq_none_of_not_mem (own ▸ fresh)
    rw [if_pos own, new, Option.none_or, keyGiven?, Option.bind_some, valued, Option.some_or]
    exact (Entries.get?_insert_self key value fields).symm ▸ .refl _
  · rw [if_neg own, Option.or_none, keyGiven?, hasParts_append]
    by_cases part : hasParts shape key [pair.1]
    · obtain ⟨next, others, path⟩ :=
        (exists_pathIn?_eq_cons_cons plain).mpr (hasParts_singleton.mp part)
      rw [enterField, path, Option.map_eq_some_iff] at entered
      obtain ⟨value, _, rfl⟩ := entered
      rw [part, Bool.or_true, if_pos rfl]
      have put := (alike_get?_enterPath value key next others fields).trans (old.or_ (.refl _))
      rw [keyAmong?, keyGiven?, Option.or_assoc] at put
      refine put.trans (.or_ (.refl _) ?_)
      split <;> exact .maps _ _
    · rw [eq_false_of_ne_true part, Bool.or_false]
      rw [enterField_other entered fun others path => ?_]
      · exact old
      · cases others with
        | nil => exact own ((pathIn?_eq_singleton plain).mp path)
        | cons next others =>
          exact part (hasParts_singleton.mpr
            ((exists_pathIn?_eq_cons_cons plain).mp ⟨next, others, path⟩))

theorem Gives.concat {pair : String × String} (gives : Gives (keyAmong? shape named) fields)
    (fresh : pair.1 ∉ named.map (·.1)) (low : ∀ c ∈ pair.1.toList, Text.IsLow c)
    {more : Entries} (entered : enterField shape fields pair = some more) :
    Gives (keyAmong? shape (named ++ [pair])) more where
  distinct := by
    rcases enterField_eq_some entered with ⟨_, rfl⟩ | ⟨first, others, value, path, _, rfl⟩
    · exact gives.distinct
    · rcases enterPath_eq_insert value first others fields with same | ⟨v, set⟩
      · rw [same]
        exact gives.distinct
      · rw [set]
        exact Entries.nodup_keys_insert gives.distinct
  low := by
    rcases enterField_eq_some entered with ⟨_, rfl⟩ | ⟨first, others, value, path, _, rfl⟩
    · exact gives.low
    · rcases enterPath_eq_insert value first others fields with same | ⟨v, set⟩
      · rw [same]
        exact gives.low
      · rw [set]
        intro k member
        rcases Entries.mem_keys_insert.mp member with rfl | member
        · intro c inside
          refine low c ?_
          rw [toList_of_pathIn? path]
          refine List.mem_append_right _ ?_
          cases others with
          | nil => simpa [List.intercalate] using inside
          | cons next others => simp [List.intercalate, inside]
        · exact gives.low k member
  given key plain := gives.given_concat fresh entered plain

theorem Gives.of_foldlM (distinct : (named.map (·.1)).Nodup)
    (low : ∀ name ∈ named.map (·.1), ∀ c ∈ name.toList, Text.IsLow c)
    (found : named.foldlM (enterField shape) [] = some fields) :
    Gives (keyAmong? shape named) fields := by
  induction named using List.reverseRecOn generalizing fields with
  | nil =>
    cases found
    exact .nil shape
  | append_singleton named pair ih =>
    rw [List.foldlM_append, Option.bind_eq_bind, Option.bind_eq_some_iff] at found
    obtain ⟨before, first, last⟩ := found
    rw [List.map_append, List.map_singleton] at distinct low
    have gives := ih (List.nodup_append.mp distinct).1
      (fun name member => low name (List.mem_append_left _ member)) first
    refine gives.concat (fun member => ?_) (low _ (by simp)) (by simpa using last)
    exact (List.nodup_append.mp distinct).2.2 _ member _ (by simp) rfl

theorem exists_foldlM_enterField
    (readable : ∀ pair ∈ named, ∀ path, pathIn? shape pair.1 = some path →
      ∃ value, fieldValue? shape path pair.2 = some value) (entries : Entries) :
    ∃ fields, named.foldlM (enterField shape) entries = some fields := by
  induction named generalizing entries with
  | nil => exact ⟨entries, rfl⟩
  | cons pair named ih =>
    have step : ∃ more, enterField shape entries pair = some more := by
      unfold enterField
      cases found : pathIn? shape pair.1 with
      | none => exact ⟨entries, rfl⟩
      | some path =>
        obtain ⟨value, valued⟩ := readable pair List.mem_cons_self path found
        dsimp only
        exact ⟨_, by rw [valued, Option.map_some]⟩
    obtain ⟨more, entered⟩ := step
    rw [List.foldlM_cons, entered]
    exact ih (fun pair member => readable pair (List.mem_cons_of_mem _ member)) more

end

section

variable {shape : SectionShape} {environment : List (String × String)} {fields : Entries}

/-- What the environment gives for a key of a section through variables of the key. -/
def keyValue? (environment : List (String × String)) (shape : SectionShape) (key : String) :
    Option Value :=
  keyGiven? shape key (variableText? environment (keyVariable shape key))
    (environment.map (lowerName ·.1))

/-- The lists of a section that have variables of their own are JSON, where they say anything. -/
def ListsReadable (environment : List (String × String)) (shape : SectionShape) : Prop :=
  ∀ key ∈ shape.lists, ∀ text, variableText? environment (keyVariable shape key) = some text →
    text ≠ "" → ∃ value, Json.parse text.toList = .ok value

theorem lookup_eq_some_of_mem {named : List (String × String)} {pair : String × String}
    (distinct : (named.map (·.1)).Nodup) (member : pair ∈ named) :
    named.lookup pair.1 = some pair.2 := by
  induction named with
  | nil => cases member
  | cons first named ih =>
    rw [List.map_cons, List.nodup_cons] at distinct
    rw [List.lookup_cons]
    rcases List.mem_cons.mp member with rfl | member
    · rw [beq_self_eq_true]
    · have different : pair.1 ≠ first.1 := by
        intro same
        exact distinct.1 (same ▸ List.mem_map_of_mem member)
      rw [beq_false_of_ne different]
      exact ih distinct.2 member

theorem exists_fieldsOf? (plain : ∀ key ∈ shape.lists, isKey key.toList)
    (readable : ListsReadable environment shape) :
    ∃ fields, fieldsOf? shape (normalizeVariables environment) = some fields := by
  refine exists_foldlM_enterField (fun pair member path found => ?_) []
  unfold fieldValue?
  split
  · rename_i field
    split
    · rename_i list
      rw [Bool.and_eq_true, List.contains_iff_mem, decide_eq_true_eq] at list
      have own := (pathIn?_eq_singleton (plain field list.1)).mp found
      have text := lookup_eq_some_of_mem (nodup_normalizeVariables environment) member
      rw [own, lookup_normalizeVariables] at text
      obtain ⟨value, parsed⟩ := readable field list.1 pair.2 text list.2
      exact ⟨value, by rw [parsed]; rfl⟩
    · exact ⟨_, rfl⟩
  · exact ⟨_, rfl⟩

theorem hasParts_normalizeVariables (environment : List (String × String)) (key : String) :
    hasParts shape key ((normalizeVariables environment).map (·.1)) =
      hasParts shape key (environment.map (lowerName ·.1)) := by
  rw [Bool.eq_iff_iff, hasParts, hasParts, List.any_eq_true, List.any_eq_true]
  simp only [mem_names_normalizeVariables]

/-- The fields that have variables of their own are told by these, letter case aside. -/
theorem gives_of_fieldsOf?
    (found : fieldsOf? shape (normalizeVariables environment) = some fields) :
    Gives (keyValue? environment shape) fields := by
  have low : ∀ name ∈ (normalizeVariables environment).map (·.1), ∀ c ∈ name.toList,
      Text.IsLow c := by
    intro name member
    obtain ⟨pair, _, rfl⟩ := List.mem_map.mp (mem_names_normalizeVariables.mp member)
    exact isLow_of_mem_lowerName
  have gives := Gives.of_foldlM (nodup_normalizeVariables environment) low found
  refine ⟨gives.distinct, gives.low, fun key plain => ?_⟩
  have given := gives.given key plain
  rw [keyAmong?, lookup_normalizeVariables, keyGiven?, hasParts_normalizeVariables] at given
  exact given

end

end Scaffold.Config

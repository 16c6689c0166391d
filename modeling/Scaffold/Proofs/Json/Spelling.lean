import Scaffold.Json.Parser
import Scaffold.Json.Printer

/-!
# Spellings of JSON values

A value has many spellings: white space may stand around every item, key and colon, and most
characters of a string may be written as they are or as an escape.  `Spells` is the part of that
grammar that the program writes; the compact and the indented form of a value without fractional
numbers both spell it.
-/

namespace Scaffold.Json

/-- The characters that may stand between the parts of a value. -/
def paddingChars : List Char := [' ', '\t', '\n', '\r']

/-- The text may stand between the parts of a value. -/
def Padding (cs : List Char) : Prop := ∀ c ∈ cs, c ∈ paddingChars

/-- The letters of the short escapes, each with the character that it stands for. -/
def shortEscapes : List (Char × Char) :=
  [('"', '"'), ('\\', '\\'), ('/', '/'), ('b', '\x08'), ('f', '\x0c'), ('n', '\n'), ('r', '\r'),
    ('t', '\t')]

/-- The text stands for a character inside a string. -/
inductive SpellsChar : Char → List Char → Prop
  | plain {c : Char} : c ≠ '"' → c ≠ '\\' → 0x20 ≤ c.toNat → SpellsChar c [c]
  | short {letter c : Char} : (letter, c) ∈ shortEscapes → SpellsChar c ['\\', letter]
  | unit {c : Char} : c.toNat < 0xd800 →
      SpellsChar c ('\\' :: 'u' :: Text.hexDigits 4 c.toNat)

/-- The text stands for characters inside a string. -/
inductive SpellsChars : List Char → List Char → Prop
  | nil : SpellsChars [] []
  | cons {c : Char} {cs text more : List Char} : SpellsChar c text → SpellsChars cs more →
      SpellsChars (c :: cs) (text ++ more)

mutual

/-- The text spells a value. -/
inductive Spells : Value → List Char → Prop
  | null : Spells .null ['n', 'u', 'l', 'l']
  | true : Spells (.bool Bool.true) ['t', 'r', 'u', 'e']
  | false : Spells (.bool Bool.false) ['f', 'a', 'l', 's', 'e']
  | int (n : Int) : Spells (.int n) (toString n).toList
  | str {s : String} {text : List Char} : SpellsChars s.toList text →
      Spells (.str s) ('"' :: (text ++ ['"']))
  | emptyList : Spells (.list []) ['[', ']']
  | list {v : Value} {items : List Value} {body : List Char} : SpellsItems (v :: items) body →
      Spells (.list (v :: items)) ('[' :: (body ++ [']']))
  | emptyMap : Spells (.map []) ['\x7b', '\x7d']
  | map {e : String × Value} {entries : Entries} {body : List Char} :
      SpellsEntries (e :: entries) body →
      Spells (.map (e :: entries)) ('\x7b' :: (body ++ ['\x7d']))

/-- The text spells the items of a list, with commas between them. -/
inductive SpellsItems : List Value → List Char → Prop
  | last {v : Value} {before text after : List Char} : Padding before → Spells v text →
      Padding after → SpellsItems [v] (before ++ (text ++ after))
  | more {v : Value} {items : List Value} {before text after tail : List Char} :
      Padding before → Spells v text → Padding after → SpellsItems items tail →
      SpellsItems (v :: items) (before ++ (text ++ (after ++ ',' :: tail)))

/-- The text spells the entries of a map, with commas between them. -/
inductive SpellsEntries : Entries → List Char → Prop
  | last {k : String} {v : Value} {before key gap text after : List Char} : Padding before →
      SpellsChars k.toList key → Padding gap → Spells v text → Padding after →
      SpellsEntries [(k, v)] (before ++ ('"' :: (key ++ '"' :: ':' :: (gap ++ (text ++ after)))))
  | more {k : String} {v : Value} {entries : Entries} {before key gap text after tail : List Char} :
      Padding before → SpellsChars k.toList key → Padding gap → Spells v text → Padding after →
      SpellsEntries entries tail →
      SpellsEntries ((k, v) :: entries)
        (before ++ ('"' :: (key ++ '"' :: ':' :: (gap ++ (text ++ (after ++ ',' :: tail))))))

end

theorem Padding.nil : Padding [] := List.forall_mem_nil _

theorem Padding.append {before after : List Char} (first : Padding before)
    (next : Padding after) : Padding (before ++ after) :=
  List.forall_mem_append.mpr ⟨first, next⟩

section Padded

variable {items : List Value} {entries : Entries} {gap body : List Char}

theorem SpellsItems.padBefore (padding : Padding gap) (spells : SpellsItems items body) :
    SpellsItems items (gap ++ body) := by
  cases spells with
  | last before text after =>
    rw [← List.append_assoc]
    exact .last (padding.append before) text after
  | more before text after tail =>
    rw [← List.append_assoc]
    exact .more (padding.append before) text after tail

theorem SpellsEntries.padBefore (padding : Padding gap) (spells : SpellsEntries entries body) :
    SpellsEntries entries (gap ++ body) := by
  cases spells with
  | last before key inner text after =>
    rw [← List.append_assoc]
    exact .last (padding.append before) key inner text after
  | more before key inner text after tail =>
    rw [← List.append_assoc]
    exact .more (padding.append before) key inner text after tail

theorem SpellsItems.padBehind (padding : Padding gap) :
    ∀ {items : List Value} {body : List Char}, SpellsItems items body →
      SpellsItems items (body ++ gap)
  | _, _, .last before text after => by
    simpa using SpellsItems.last before text (after.append padding)
  | _, _, .more before text after tail => by
    simpa using SpellsItems.more before text after (tail.padBehind padding)

theorem SpellsEntries.padBehind (padding : Padding gap) :
    ∀ {entries : Entries} {body : List Char}, SpellsEntries entries body →
      SpellsEntries entries (body ++ gap)
  | _, _, .last before key inner text after => by
    simpa using SpellsEntries.last before key inner text (after.append padding)
  | _, _, .more before key inner text after tail => by
    simpa using SpellsEntries.more before key inner text after (tail.padBehind padding)

end Padded

mutual

/-- Whether a value is one that its texts can be read back to: it holds no fractional number, no
    integer with more characters than a reader takes, and no key twice in a map. -/
def Value.isPlain : Value → Bool
  | .float _ => false
  | .int n => (toString n).length ≤ Parser.wholeLimit
  | .list items => arePlain items
  | .map entries => decide (entries.map (·.1)).Nodup && arePlainEntries entries
  | _ => true

/-- Whether all items are plain. -/
def arePlain : List Value → Bool
  | [] => true
  | v :: items => v.isPlain && arePlain items

/-- Whether all values of a map are plain. -/
def arePlainEntries : List (String × Value) → Bool
  | [] => true
  | (_, v) :: entries => v.isPlain && arePlainEntries entries

end

mutual

/-- How deep lists and maps with something inside are nested in a value. -/
def Value.depth : Value → Nat
  | .list items => depthOfItems items
  | .map entries => depthOfEntries entries
  | _ => 0

/-- The depth of a list of the items. -/
def depthOfItems : List Value → Nat
  | [] => 0
  | v :: items => max (v.depth + 1) (depthOfItems items)

/-- The depth of a map of the entries. -/
def depthOfEntries : List (String × Value) → Nat
  | [] => 0
  | (_, v) :: entries => max (v.depth + 1) (depthOfEntries entries)

end

namespace Layout

variable {layout : Layout}

/-- Characters beyond ASCII are written as they are, and behind a comma or a colon there is at most
    white space. -/
structure Readable (layout : Layout) : Prop where
  unescaped : layout.asciiOnly = false
  comma : ∃ gap, layout.comma.toList = ',' :: gap ∧ Padding gap
  colon : ∃ gap, layout.colon.toList = ':' :: gap ∧ Padding gap

theorem spellsChar_encodeChar (readable : layout.Readable) (c : Char) :
    SpellsChar c (layout.encodeChar c) := by
  have named : ∀ n, c.toNat = n → c = Char.ofNat n := by
    rintro _ rfl
    exact (Char.ofNat_toNat c).symm
  simp only [encodeChar, unitEscape, readable.unescaped, Bool.false_and, Bool.false_eq_true,
    if_false]
  split
  · rename_i quote
    exact .short (by rw [quote]; decide)
  split
  · rename_i backslash
    exact .short (by rw [backslash]; decide)
  split
  · rename_i lineFeed
    exact .short (by rw [lineFeed]; decide)
  split
  · rename_i return_
    exact .short (by rw [return_]; decide)
  split
  · rename_i tab
    exact .short (by rw [tab]; decide)
  split
  · rename_i backspace
    exact .short (by rw [named _ backspace]; decide)
  split
  · rename_i formFeed
    exact .short (by rw [named _ formFeed]; decide)
  split
  · rename_i control
    exact .unit (by omega)
  · rename_i noQuote noBackslash _ _ _ _ _ visible
    exact .plain noQuote noBackslash (Nat.le_of_not_lt visible)

theorem spellsChars_encode (readable : layout.Readable) (cs : List Char) :
    SpellsChars cs (cs.flatMap layout.encodeChar) := by
  induction cs with
  | nil => exact .nil
  | cons c cs ih => exact .cons (spellsChar_encodeChar readable c) ih

theorem toList_quoted (layout : Layout) (s : String) :
    (layout.quoted s).toList = '"' :: (s.toList.flatMap layout.encodeChar ++ ['"']) := by
  simp [quoted]

/-- A value with nothing inside is written the same in every form. -/
theorem spells_scalar (readable : layout.Readable) (v : Value) (flat : v.depth = 0)
    (plain : v.isPlain = true) : Spells v (layout.scalar v).toList := by
  match v with
  | .null => simpa [scalar] using Spells.null
  | .bool true => simpa [scalar] using Spells.true
  | .bool false => simpa [scalar] using Spells.false
  | .int n => exact .int n
  | .float x => cases plain
  | .str s =>
    rw [scalar, toList_quoted]
    exact .str (spellsChars_encode readable s.toList)
  | .list [] => simpa [scalar] using Spells.emptyList
  | .list (_ :: _) => simp [Value.depth, depthOfItems] at flat
  | .map [] => simpa [scalar] using Spells.emptyMap
  | .map (_ :: _) => simp [Value.depth, depthOfEntries] at flat

mutual

theorem spells_compact (readable : layout.Readable) :
    ∀ v : Value, v.isPlain = true → Spells v (layout.compact v).toList
  | .null, plain => spells_scalar readable .null rfl plain
  | .bool b, plain => spells_scalar readable (.bool b) rfl plain
  | .int n, plain => spells_scalar readable (.int n) rfl plain
  | .float x, plain => spells_scalar readable (.float x) rfl plain
  | .str s, plain => spells_scalar readable (.str s) rfl plain
  | .list [], _ => by simpa [compact, compactItems] using Spells.emptyList
  | .list (v :: items), plain => by
    have body := spellsItems_compact readable (v :: items) (List.cons_ne_nil _ _) plain
    simpa [compact] using Spells.list body
  | .map [], _ => by simpa [compact, compactEntries] using Spells.emptyMap
  | .map (e :: entries), plain => by
    rw [Value.isPlain, Bool.and_eq_true] at plain
    have body := spellsEntries_compact readable (e :: entries) (List.cons_ne_nil _ _) plain.2
    simpa [compact] using Spells.map body

theorem spellsItems_compact (readable : layout.Readable) :
    ∀ items : List Value, items ≠ [] → arePlain items = true →
      SpellsItems items (layout.compactItems items).toList
  | [], nonempty, _ => absurd rfl nonempty
  | [v], _, plain => by
    rw [arePlain, Bool.and_eq_true] at plain
    simpa [compactItems] using
      SpellsItems.last .nil (spells_compact readable v plain.1) .nil
  | v :: w :: items, _, plain => by
    rw [arePlain, Bool.and_eq_true] at plain
    obtain ⟨gap, comma, padding⟩ := readable.comma
    have tail := spellsItems_compact readable (w :: items) (List.cons_ne_nil _ _) plain.2
    simpa [compactItems, comma] using
      SpellsItems.more .nil (spells_compact readable v plain.1) .nil (tail.padBefore padding)

theorem spellsEntries_compact (readable : layout.Readable) :
    ∀ entries : Entries, entries ≠ [] → arePlainEntries entries = true →
      SpellsEntries entries (layout.compactEntries entries).toList
  | [], nonempty, _ => absurd rfl nonempty
  | [(k, v)], _, plain => by
    rw [arePlainEntries, Bool.and_eq_true] at plain
    obtain ⟨gap, colon, padding⟩ := readable.colon
    simpa [compactEntries, toList_quoted, colon] using
      SpellsEntries.last .nil (spellsChars_encode readable k.toList) padding
        (spells_compact readable v plain.1) .nil
  | (k, v) :: e :: entries, _, plain => by
    rw [arePlainEntries, Bool.and_eq_true] at plain
    obtain ⟨commaGap, comma, commaPadding⟩ := readable.comma
    obtain ⟨gap, colon, padding⟩ := readable.colon
    have tail := spellsEntries_compact readable (e :: entries) (List.cons_ne_nil _ _) plain.2
    simpa [compactEntries, toList_quoted, colon, comma] using
      SpellsEntries.more .nil (spellsChars_encode readable k.toList) padding
        (spells_compact readable v plain.1) .nil (tail.padBefore commaPadding)

end

theorem padding_newline (depth : Nat) : Padding (newline depth).toList := by
  intro c member
  simp only [newline, String.toList_ofList, List.mem_cons, List.mem_replicate] at member
  rcases member with rfl | ⟨-, rfl⟩
  · decide
  · decide

mutual

theorem spells_indented (readable : layout.Readable) :
    ∀ (v : Value) (depth : Nat), v.isPlain = true → Spells v (layout.indented depth v).toList
  | .null, _, plain => spells_scalar readable .null rfl plain
  | .bool b, _, plain => spells_scalar readable (.bool b) rfl plain
  | .int n, _, plain => spells_scalar readable (.int n) rfl plain
  | .float x, _, plain => spells_scalar readable (.float x) rfl plain
  | .str s, _, plain => spells_scalar readable (.str s) rfl plain
  | .list [], _, plain => spells_scalar readable (.list []) rfl plain
  | .list (v :: items), depth, plain => by
    have body := spellsItems_indented readable (v :: items) (depth + 1) (List.cons_ne_nil _ _) plain
    simpa [indented] using Spells.list (body.padBehind (padding_newline depth))
  | .map [], _, plain => spells_scalar readable (.map []) rfl plain
  | .map (e :: entries), depth, plain => by
    rw [Value.isPlain, Bool.and_eq_true] at plain
    have body :=
      spellsEntries_indented readable (e :: entries) (depth + 1) (List.cons_ne_nil _ _) plain.2
    simpa [indented] using Spells.map (body.padBehind (padding_newline depth))

theorem spellsItems_indented (readable : layout.Readable) :
    ∀ (items : List Value) (depth : Nat), items ≠ [] → arePlain items = true →
      SpellsItems items (layout.indentedItems depth items).toList
  | [], _, nonempty, _ => absurd rfl nonempty
  | [v], depth, _, plain => by
    rw [arePlain, Bool.and_eq_true] at plain
    simpa [indentedItems] using
      SpellsItems.last (padding_newline depth) (spells_indented readable v depth plain.1) .nil
  | v :: w :: items, depth, _, plain => by
    rw [arePlain, Bool.and_eq_true] at plain
    have tail := spellsItems_indented readable (w :: items) depth (List.cons_ne_nil _ _) plain.2
    simpa [indentedItems] using
      SpellsItems.more (padding_newline depth) (spells_indented readable v depth plain.1) .nil tail

theorem spellsEntries_indented (readable : layout.Readable) :
    ∀ (entries : Entries) (depth : Nat), entries ≠ [] → arePlainEntries entries = true →
      SpellsEntries entries (layout.indentedEntries depth entries).toList
  | [], _, nonempty, _ => absurd rfl nonempty
  | [(k, v)], depth, _, plain => by
    rw [arePlainEntries, Bool.and_eq_true] at plain
    obtain ⟨gap, colon, padding⟩ := readable.colon
    simpa [indentedEntries, toList_quoted, colon] using
      SpellsEntries.last (padding_newline depth) (spellsChars_encode readable k.toList) padding
        (spells_indented readable v depth plain.1) .nil
  | (k, v) :: e :: entries, depth, _, plain => by
    rw [arePlainEntries, Bool.and_eq_true] at plain
    obtain ⟨gap, colon, padding⟩ := readable.colon
    have tail := spellsEntries_indented readable (e :: entries) depth (List.cons_ne_nil _ _) plain.2
    simpa [indentedEntries, toList_quoted, colon] using
      SpellsEntries.more (padding_newline depth) (spellsChars_encode readable k.toList) padding
        (spells_indented readable v depth plain.1) .nil tail

end

/-- Records are readable on one line and on many. -/
theorem readable_record : record.Readable :=
  ⟨rfl, ⟨[], rfl, .nil⟩, ⟨[], rfl, .nil⟩⟩

theorem readable_indentedRecord : indentedRecord.Readable :=
  ⟨rfl, ⟨[], rfl, .nil⟩, ⟨[' '], rfl, by simp [Padding, paddingChars]⟩⟩

end Layout

end Scaffold.Json

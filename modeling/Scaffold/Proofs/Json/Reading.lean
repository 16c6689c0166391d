import Mathlib.Data.List.Induction
import Mathlib.Data.List.TakeDrop
import Mathlib.Data.List.TakeWhile
import Mathlib.Tactic.Ring
import Scaffold.Proofs.Json.Spelling

/-!
# Reading spellings back

The reader takes every spelling of a value for that value and leaves the text behind it, as long as
the value is nested no deeper than the reader goes.  What is behind a number must not go on with it;
everything else ends by itself.
-/

namespace Scaffold.Json

open Json.Parser

section Padding

variable {gap cs : List Char} {c : Char}

theorem skipBlanks_of_not_mem (solid : c ∉ paddingChars) (cs : List Char) :
    skipBlanks (c :: cs) = c :: cs := by
  have stop : (c == ' ' || c == '\t' || c == '\n' || c == '\r') = false := by
    simpa [paddingChars, and_assoc] using solid
  rw [skipBlanks, List.dropWhile_cons, stop]
  rfl

theorem skipBlanks_append (padding : Padding gap) (cs : List Char) :
    skipBlanks (gap ++ cs) = skipBlanks cs := by
  apply List.dropWhile_append_of_pos
  intro c member
  simpa [paddingChars, or_assoc] using padding c member

theorem skipBlanks_solid (padding : Padding gap) (solid : c ∉ paddingChars) :
    skipBlanks (gap ++ c :: cs) = c :: cs := by
  rw [skipBlanks_append padding, skipBlanks_of_not_mem solid]

end Padding

section Strings

theorem hexValue?_hexDigit : ∀ d < 16, hexValue? (Text.hexDigit d) = some d := by decide

/-- Digits are read by their value, the first ones counting most. -/
theorem takeHex_hexDigits (width count acc n : Nat) (more : List Char) :
    takeHex (width + count) acc (Text.hexDigits width n ++ more) =
      takeHex count (acc * 16 ^ width + n % 16 ^ width) more := by
  induction width generalizing count acc n more with
  | zero => simp [Text.hexDigits, Nat.mod_one]
  | succ width ih =>
    have digit := hexValue?_hexDigit (n % 16) (Nat.mod_lt _ (by decide))
    have value : (acc * 16 ^ width + n / 16 % 16 ^ width) * 16 + n % 16 =
        acc * 16 ^ (width + 1) + n % 16 ^ (width + 1) := by
      rw [Nat.pow_succ', Nat.mod_mul]
      ring
    rw [Text.hexDigits, List.append_assoc, Nat.add_assoc, Nat.add_comm 1 count, ih]
    simp only [List.singleton_append, takeHex, digit, value]

theorem length_le_utf8ByteSize (cs : List Char) :
    cs.length ≤ (String.ofList cs).utf8ByteSize := by
  induction cs with
  | nil => exact Nat.zero_le _
  | cons c cs ih =>
    have size := c.utf8Size_pos
    have split : String.ofList (c :: cs) = String.singleton c ++ String.ofList cs := by
      rw [← String.toList_inj]
      simp
    rw [split, String.utf8ByteSize_append, String.utf8ByteSize_singleton, List.length_cons]
    omega

theorem takeUnit_hexDigits (n : Nat) (more : List Char) :
    takeUnit (Text.hexDigits 4 n ++ more) = .ok (n % 16 ^ 4, more) := by
  have four : (Text.hexDigits 4 n ++ more).take 4 = Text.hexDigits 4 n := by
    rw [List.take_append_of_le_length (by rw [Text.length_hexDigits]),
      List.take_of_length_le (by rw [Text.length_hexDigits])]
  have long : ¬ (String.ofList (Text.hexDigits 4 n)).utf8ByteSize < 4 := by
    have bytes := length_le_utf8ByteSize (Text.hexDigits 4 n)
    rw [Text.length_hexDigits] at bytes
    exact Nat.not_lt_of_le bytes
  rw [takeUnit, four, if_neg long, takeHex_hexDigits 4 0, Nat.zero_mul, Nat.zero_add]
  rfl

theorem takeEscapedPoint_hexDigits {c : Char} (basic : c.toNat < 0xd800) (more : List Char) :
    takeEscapedPoint (Text.hexDigits 4 c.toNat ++ more) = .ok (c, more) := by
  have small : c.toNat % 16 ^ 4 = c.toNat := Nat.mod_eq_of_lt (by omega)
  unfold takeEscapedPoint
  rw [takeUnit_hexDigits, small]
  change (if 0xd800 ≤ c.toNat ∧ c.toNat ≤ 0xdbff then _ else _) = _
  rw [if_neg (by omega), if_neg (by omega), Char.ofNat_toNat]
  rfl

theorem takeString_plain {c : Char} (noQuote : c ≠ '"') (noBackslash : c ≠ '\\')
    (visible : 0x20 ≤ c.toNat) (fuel : Nat) (acc more : List Char) :
    takeString (fuel + 1) acc (c :: more) = takeString fuel (c :: acc) more := by
  have visible : ¬ c.toNat < 0x20 := Nat.not_lt_of_le visible
  cases more with
  | nil => rw [takeString.eq_3, if_neg noQuote, if_neg noBackslash, if_neg visible]
  | cons next more => rw [takeString.eq_4, if_neg noQuote, if_neg noBackslash, if_neg visible]

/-- What stands for a character is taken for it. -/
theorem takeString_char {c : Char} {text : List Char} (spells : SpellsChar c text) (fuel : Nat)
    (acc more : List Char) :
    takeString (fuel + 1) acc (text ++ more) = takeString fuel (c :: acc) more := by
  cases spells with
  | plain noQuote noBackslash visible => exact takeString_plain noQuote noBackslash visible _ _ _
  | short member =>
    simp only [shortEscapes, List.mem_cons, Prod.mk.injEq, List.mem_nil_iff, or_false] at member
    rcases member with ⟨rfl, rfl⟩ | ⟨rfl, rfl⟩ | ⟨rfl, rfl⟩ | ⟨rfl, rfl⟩ | ⟨rfl, rfl⟩ | ⟨rfl, rfl⟩ |
      ⟨rfl, rfl⟩ | ⟨rfl, rfl⟩ <;> rfl
  | unit basic =>
    rw [List.cons_append, List.cons_append, takeString.eq_4, if_neg (by decide), if_pos rfl,
      if_pos rfl, takeEscapedPoint_hexDigits basic more]

/-- A string is taken up to its closing quote. -/
theorem takeString_spelled {cs text : List Char} (spells : SpellsChars cs text) {fuel : Nat}
    (enough : cs.length < fuel) (acc rest : List Char) :
    takeString fuel acc (text ++ '"' :: rest) = .ok (String.ofList (acc.reverse ++ cs), rest) := by
  induction spells generalizing fuel acc with
  | nil =>
    obtain ⟨fuel, rfl⟩ := Nat.exists_eq_succ_of_ne_zero (Nat.ne_of_gt enough)
    rw [List.append_nil, List.nil_append]
    cases rest <;> rfl
  | @cons c cs text more char _ ih =>
    obtain ⟨fuel, rfl⟩ := Nat.exists_eq_succ_of_ne_zero (Nat.ne_of_gt (Nat.zero_lt_of_lt enough))
    rw [List.append_assoc, takeString_char char, ih (Nat.lt_of_succ_lt_succ enough)]
    simp

theorem SpellsChar.length_pos {c : Char} {text : List Char} (spells : SpellsChar c text) :
    0 < text.length := by
  cases spells with
  | plain => exact Nat.one_pos
  | short => exact Nat.two_pos
  | unit => exact Nat.succ_pos _

theorem SpellsChars.length_le {cs text : List Char} (spells : SpellsChars cs text) :
    cs.length ≤ text.length := by
  induction spells with
  | nil => exact Nat.le_refl _
  | cons char _ ih =>
    have first := char.length_pos
    rw [List.length_append, List.length_cons]
    omega

/-- A string behind its opening quote is taken whole. -/
theorem takeString_string {s : String} {text : List Char} (spells : SpellsChars s.toList text)
    (rest : List Char) :
    takeString ((text ++ '"' :: rest).length + 1) [] (text ++ '"' :: rest) = .ok (s, rest) := by
  have enough : s.toList.length < (text ++ '"' :: rest).length + 1 := by
    have := spells.length_le
    rw [List.length_append]
    omega
  rw [takeString_spelled spells enough, List.reverse_nil, List.nil_append, String.ofList_toList]

/-- A key is taken with its colon. -/
theorem takeKey_spelled {k : String} {key : List Char} (spells : SpellsChars k.toList key)
    (rest : List Char) : takeKey (key ++ '"' :: ':' :: rest) = .ok (k, rest) := by
  unfold takeKey
  rw [takeString_string spells]
  rfl

end Strings

/-- What may stand behind a value: nothing, white space, a comma or a closing bracket. -/
def FollowsValue (rest : List Char) : Prop :=
  ∀ c ∈ rest.head?, c ∈ paddingChars ++ [',', ']', '\x7d']

section Follows

variable {gap rest : List Char}

theorem followsValue_nil : FollowsValue [] := by
  intro c head
  cases head

theorem followsValue_mark {c : Char} (mark : c ∈ [',', ']', '\x7d']) (rest : List Char) :
    FollowsValue (c :: rest) := by
  rintro _ ⟨⟩
  exact List.mem_append_right _ mark

theorem FollowsValue.pad (padding : Padding gap) (follows : FollowsValue rest) :
    FollowsValue (gap ++ rest) := by
  cases gap with
  | nil => exact follows
  | cons c gap =>
    rintro _ ⟨⟩
    exact List.mem_append_left _ (padding c List.mem_cons_self)

/-- Nothing that may stand behind a value goes on with a number. -/
theorem FollowsValue.not_numeric {c : Char} (follows : FollowsValue (c :: rest)) :
    Decimal.isDigit c = false ∧ c ≠ '.' ∧ c ≠ 'e' ∧ c ≠ 'E' := by
  have checked : ((paddingChars ++ [',', ']', '\x7d']).all fun c =>
      !Decimal.isDigit c && c != '.' && c != 'e' && c != 'E') = true := by decide
  simpa [and_assoc] using List.all_eq_true.mp checked c (follows c rfl)

end Follows

section Numbers

variable {n : Nat} {rest : List Char}

theorem isDigit_of_mem_toDigits {d : Char} (member : d ∈ Nat.toDigits 10 n) :
    Decimal.isDigit d = true := by
  have digit := Nat.isDigit_of_mem_toDigits (by decide) (by decide) member
  simpa [Decimal.isDigit, Char.isDigit, Char.le_def] using digit

/-- A number other than zero does not begin with the digit zero. -/
theorem toDigits_head (positive : n ≠ 0) :
    ∃ d ds, Nat.toDigits 10 n = d :: ds ∧ d ≠ '0' := by
  induction n using Nat.strongRecOn with
  | ind n ih =>
    rw [Nat.toDigits_eq_if (by decide)]
    split
    · rename_i small
      have digits : ∀ n < 10, n ≠ 0 → n.digitChar ≠ '0' := by decide
      exact ⟨n.digitChar, [], rfl, digits n small positive⟩
    · obtain ⟨d, ds, digits, nonzero⟩ := ih (n / 10) (by omega) (by omega)
      exact ⟨d, ds ++ [(n % 10).digitChar], by rw [digits, List.cons_append], nonzero⟩

theorem value_toDigits (n : Nat) : Decimal.value (Nat.toDigits 10 n) = n := by
  have read : Nat.ofDigitChars 10 (Nat.toDigits 10 n) 0 = n :=
    Nat.ofDigitChars_toDigits (by decide) (by decide)
  rw [Nat.ofDigitChars_eq_foldl] at read
  simpa only [Decimal.value, Decimal.valueFrom, Nat.mul_comm] using read

theorem takeDigits_toDigits (follows : FollowsValue rest) :
    Decimal.takeDigits (Nat.toDigits 10 n ++ rest) = (Nat.toDigits 10 n, rest) := by
  have digits : ∀ d ∈ Nat.toDigits 10 n, Decimal.isDigit d = true :=
    fun d member => isDigit_of_mem_toDigits member
  have stop : rest.takeWhile Decimal.isDigit = [] ∧ rest.dropWhile Decimal.isDigit = rest := by
    cases rest with
    | nil => exact ⟨rfl, rfl⟩
    | cons c rest =>
      rw [List.takeWhile_cons, List.dropWhile_cons, follows.not_numeric.1]
      exact ⟨rfl, rfl⟩
  rw [Decimal.takeDigits, List.span_eq_takeWhile_dropWhile, List.takeWhile_append_of_pos digits,
    List.dropWhile_append_of_pos digits, stop.1, stop.2, List.append_nil]

theorem takeWhole_toDigits (follows : FollowsValue rest) :
    takeWhole (Nat.toDigits 10 n ++ rest) = .ok (Nat.toDigits 10 n, rest) := by
  by_cases zero : n = 0
  · subst zero
    cases rest with
    | nil => rfl
    | cons c rest =>
      have stop : ¬ Decimal.isDigit c = true := by
        rw [follows.not_numeric.1]
        exact Bool.false_ne_true
      change (if Decimal.isDigit c = true then _ else _) = _
      rw [if_neg stop]
      rfl
  · have all := takeDigits_toDigits (n := n) follows
    obtain ⟨d, ds, digits, nonzero⟩ := toDigits_head zero
    rw [digits, List.cons_append] at all ⊢
    have ordinary : takeWhole (d :: (ds ++ rest)) = takeDigits1 (d :: (ds ++ rest)) := by
      unfold takeWhole
      split
      · rename_i head
        exact absurd (List.cons.inj head).1 nonzero
      · rename_i head
        exact absurd (List.cons.inj head).1 nonzero
      · rfl
    rw [ordinary, takeDigits1, all]

theorem takeExponent_follows (follows : FollowsValue rest) :
    takeExponent rest = .ok (none, rest) := by
  cases rest with
  | nil => rfl
  | cons c rest =>
    obtain ⟨-, -, noLower, noUpper⟩ := follows.not_numeric
    rw [takeExponent, if_neg (not_or.mpr ⟨noLower, noUpper⟩)]

/-- A number is taken as its digits tell. -/
theorem takeNumber_toDigits (negative : Bool) (follows : FollowsValue rest)
    (short : (if negative then 1 else 0) + (Nat.toDigits 10 n).length ≤ wholeLimit) :
    takeNumber negative (Nat.toDigits 10 n ++ rest) =
      .ok (.int (if negative then -n else n), rest) := by
  have short := Nat.not_lt_of_le short
  have exponent := takeExponent_follows follows
  unfold takeNumber
  rw [takeWhole_toDigits follows]
  dsimp only [bind, Except.bind]
  rw [if_neg short]
  dsimp only [pure, Except.pure]
  split
  · exact absurd rfl follows.not_numeric.2.1
  · rw [exponent, value_toDigits]
    rfl

theorem takeScalar_digit {d : Char} (digit : Decimal.isDigit d = true) (more : List Char) :
    takeScalar (d :: more) = takeNumber false (d :: more) := by
  unfold takeScalar
  split
  case h_10 head =>
    obtain ⟨rfl, rfl⟩ := List.cons.inj head
    rw [if_pos digit]
  all_goals
    rename_i head
    cases head
  all_goals exact absurd digit (by decide)

theorem takeScalar_minus {d : Char} (digit : Decimal.isDigit d = true) (more : List Char) :
    takeScalar ('-' :: d :: more) = takeNumber true (d :: more) := by
  unfold takeScalar
  split
  case h_9 head =>
    obtain ⟨-, rfl⟩ := List.cons.inj head
    rfl
  case h_10 _ minus head =>
    exact absurd (List.cons.inj head).1.symm minus
  all_goals
    rename_i head
    cases head
  all_goals exact absurd digit (by decide)

/-- The text of an integer: its digits, behind a minus sign if it is negative. -/
theorem toList_toString (n : Int) :
    (n < 0 ∧ (toString n).toList = '-' :: Nat.toDigits 10 n.natAbs) ∨
      (0 ≤ n ∧ (toString n).toList = Nat.toDigits 10 n.natAbs) := by
  rw [Int.toString_eq_repr, Int.repr_eq_if]
  by_cases natural : 0 ≤ n
  · right
    rw [if_pos natural, Nat.repr_eq_ofList_toDigits, String.toList_ofList,
      show n.toNat = n.natAbs by omega]
    exact ⟨natural, rfl⟩
  · left
    rw [if_neg natural, Nat.repr_eq_ofList_toDigits, show (-n).toNat = n.natAbs by omega]
    exact ⟨Int.not_le.mp natural, by simp⟩

/-- The text of an integer begins with a minus sign or a digit. -/
theorem toString_head (n : Int) :
    ∃ c more, (toString n).toList = c :: more ∧ c ∉ '[' :: ']' :: '\x7b' :: paddingChars := by
  obtain ⟨d, ds, digits⟩ := List.exists_cons_of_ne_nil (@Nat.toDigits_ne_nil n.natAbs 10)
  rcases toList_toString n with ⟨-, text⟩ | ⟨-, text⟩
  · exact ⟨'-', _, text, by decide⟩
  · have digit : Decimal.isDigit d := isDigit_of_mem_toDigits (digits ▸ List.mem_cons_self)
    have checked :
        (('[' :: ']' :: '\x7b' :: paddingChars).all fun c => !Decimal.isDigit c) = true := by decide
    refine ⟨d, ds, text.trans digits, fun member => ?_⟩
    have other := List.all_eq_true.mp checked d member
    rw [digit] at other
    cases other

/-- An integer that is not too long is taken for itself. -/
theorem takeScalar_int {n : Int} (short : (toString n).length ≤ wholeLimit)
    (follows : FollowsValue rest) :
    takeScalar ((toString n).toList ++ rest) = .ok (.int n, rest) := by
  rw [← String.length_toList] at short
  obtain ⟨d, ds, digits⟩ := List.exists_cons_of_ne_nil (@Nat.toDigits_ne_nil n.natAbs 10)
  have digit : Decimal.isDigit d := isDigit_of_mem_toDigits (digits ▸ List.mem_cons_self)
  rcases toList_toString n with ⟨negative, text⟩ | ⟨natural, text⟩
  · rw [text, List.length_cons] at short
    have number := takeNumber_toDigits true follows (by simpa [Nat.add_comm] using short)
    rw [digits, List.cons_append] at number
    rw [text, digits, List.cons_append, List.cons_append, takeScalar_minus digit, number]
    have value : -(n.natAbs : Int) = n := by omega
    rw [if_pos rfl, value]
  · rw [text] at short
    have number := takeNumber_toDigits false follows (by simpa using short)
    rw [digits, List.cons_append] at number
    rw [text, digits, List.cons_append, takeScalar_digit digit, number]
    have value : (n.natAbs : Int) = n := by omega
    rw [if_neg Bool.false_ne_true, value]

end Numbers

section Values

variable {v : Value} {items : List Value} {entries : Entries} {cs body : List Char}

/-- The text of a value begins with its first character, which is not white space. -/
theorem Spells.head (spells : Spells v cs) :
    ∃ c more, cs = c :: more ∧ c ∉ paddingChars ∧ c ≠ ']' := by
  cases spells with
  | int n =>
    obtain ⟨c, more, text, solid⟩ := toString_head n
    simp only [List.mem_cons, not_or] at solid
    exact ⟨c, more, text, by simpa only [paddingChars, List.mem_cons, not_or] using solid.2.2.2,
      solid.2.1⟩
  | null | true | false | str | emptyList | list | emptyMap | map =>
    exact ⟨_, _, rfl, by decide, by decide⟩

theorem Spells.skipBlanks_append (spells : Spells v cs) {gap : List Char} (padding : Padding gap)
    (more : List Char) : skipBlanks (gap ++ (cs ++ more)) = cs ++ more := by
  obtain ⟨c, tail, rfl, solid, -⟩ := spells.head
  rw [List.cons_append, skipBlanks_solid padding solid]

/-- A value that is neither a list nor a map is taken alike at every depth. -/
theorem takeValue_scalar {c : Char} (noList : c ≠ '[') (noMap : c ≠ '\x7b') (depth : Nat)
    (more : List Char) : takeValue depth (c :: more) = takeScalar (c :: more) := by
  have outer : ∀ takeInner, takeOuter takeInner (c :: more) = takeScalar (c :: more) := by
    intro takeInner
    unfold takeOuter
    split
    · rename_i head
      exact absurd (List.cons.inj head).1 noList
    · rename_i head
      exact absurd (List.cons.inj head).1 noMap
    · rfl
  cases depth with
  | zero => exact outer takeTooDeep
  | succ depth => exact outer (takeValue depth)

/-- The items of a list begin behind white space, and every item takes room there. -/
theorem SpellsItems.head : ∀ {items : List Value} {body : List Char}, SpellsItems items body →
    ∀ rest, ∃ c next, skipBlanks (body ++ rest) = c :: next ∧ c ≠ ']' ∧
      items.length ≤ next.length + 1
  | _, _, .last before text after, rest => by
    obtain ⟨c, more, first, -, noEnd⟩ := text.head
    rw [List.append_assoc, List.append_assoc, text.skipBlanks_append before, first,
      List.cons_append]
    exact ⟨c, _, rfl, noEnd, Nat.succ_le_succ (Nat.zero_le _)⟩
  | _, _, @SpellsItems.more _ _ _ _ _ tail before text after others, rest => by
    obtain ⟨c, more, first, -, noEnd⟩ := text.head
    obtain ⟨d, next, second, -, room⟩ := others.head rest
    have shorter : (skipBlanks (tail ++ rest)).length ≤ (tail ++ rest).length :=
      List.length_dropWhile_le _ _
    rw [List.append_assoc, List.append_assoc, text.skipBlanks_append before, first,
      List.cons_append]
    refine ⟨c, _, rfl, noEnd, ?_⟩
    rw [second] at shorter
    simp only [List.length_append, List.length_cons] at shorter ⊢
    omega

/-- The entries of a map begin with the quote of the first key, and take room behind it. -/
theorem SpellsEntries.head : ∀ {entries : Entries} {body : List Char}, SpellsEntries entries body →
    ∀ rest, ∃ next, skipBlanks (body ++ rest) = '"' :: next ∧ entries.length ≤ next.length
  | _, _, .last before key gap text after, rest => by
    rw [List.append_assoc, List.cons_append, skipBlanks_solid before (by decide)]
    refine ⟨_, rfl, ?_⟩
    simp only [List.length_append, List.length_cons, List.length_nil]
    omega
  | _, _, @SpellsEntries.more _ _ _ _ _ _ _ _ tail before key gap text after others, rest => by
    obtain ⟨next, second, room⟩ := others.head rest
    have shorter : (skipBlanks (tail ++ rest)).length ≤ (tail ++ rest).length :=
      List.length_dropWhile_le _ _
    rw [List.append_assoc, List.cons_append, skipBlanks_solid before (by decide)]
    refine ⟨_, rfl, ?_⟩
    rw [second] at shorter
    simp only [List.length_append, List.length_cons] at shorter ⊢
    omega

/-- Entries with different keys are set in their order. -/
theorem ofPairs_of_nodup (entries : Entries) (distinct : (entries.map (·.1)).Nodup) :
    Entries.ofPairs entries = entries := by
  induction entries using List.reverseRecOn with
  | nil => rfl
  | append_singleton entries e ih =>
    rw [List.map_append, List.nodup_append] at distinct
    obtain ⟨before, -, apart⟩ := distinct
    have fresh : e.1 ∉ Entries.keys entries := fun member =>
      apart e.1 member e.1 List.mem_cons_self rfl
    unfold Entries.ofPairs at ih ⊢
    rw [List.foldl_append, ih before]
    exact Entries.insert_of_not_mem fresh

section Steps

variable {takeInner : List Char → Except ParseFault (Reading Value)} {c : Char} {k : String}
  {after rest tail next : List Char} (fuel : Nat)

theorem takeOuter_list (first : skipBlanks tail = c :: next) (noEnd : c ≠ ']') :
    takeOuter takeInner ('[' :: tail) =
      (takeItems takeInner (next.length + 2) [] (c :: next)).map
        fun (items, rest) => (.list items, rest) := by
  rw [takeOuter.eq_1, first]
  split
  · rename_i empty
    cases empty
  · rename_i ended
    exact absurd (List.cons.inj ended).1 noEnd
  · rfl

theorem takeOuter_map (first : skipBlanks tail = '"' :: next) :
    takeOuter takeInner ('\x7b' :: tail) =
      (takeEntries takeInner (next.length + 1) [] next).map
        fun (entries, rest) => (.map entries, rest) := by
  rw [takeOuter.eq_2]
  simp only [first]

theorem takeItems_last {acc : List Value} (item : takeInner cs = .ok (v, after))
    (ended : skipBlanks after = ']' :: rest) :
    takeItems takeInner (fuel + 1) acc cs = .ok (acc.reverse ++ [v], rest) := by
  rw [takeItems, item]
  dsimp only [bind, Except.bind]
  rw [ended, ← List.reverse_cons]
  rfl

theorem takeItems_more {acc : List Value} (item : takeInner cs = .ok (v, after))
    (comma : skipBlanks after = ',' :: tail) (first : skipBlanks tail = c :: next)
    (noEnd : c ≠ ']') :
    takeItems takeInner (fuel + 1) acc cs = takeItems takeInner fuel (v :: acc) (c :: next) := by
  rw [takeItems, item]
  dsimp only [bind, Except.bind]
  simp only [comma]
  rw [first]
  split
  · rename_i empty
    cases empty
  · rename_i ended
    exact absurd (List.cons.inj ended).1 noEnd
  · rfl

theorem takeEntries_last {acc : Entries} (key : takeKey cs = .ok (k, body))
    (item : takeInner (skipBlanks body) = .ok (v, after))
    (ended : skipBlanks after = '\x7d' :: rest) :
    takeEntries takeInner (fuel + 1) acc cs =
      .ok (Entries.ofPairs (acc.reverse ++ [(k, v)]), rest) := by
  rw [takeEntries, key]
  dsimp only [bind, Except.bind]
  simp only [item]
  rw [ended, ← List.reverse_cons]
  rfl

theorem takeEntries_more {acc : Entries} (key : takeKey cs = .ok (k, body))
    (item : takeInner (skipBlanks body) = .ok (v, after)) (comma : skipBlanks after = ',' :: tail)
    (first : skipBlanks tail = '"' :: next) :
    takeEntries takeInner (fuel + 1) acc cs = takeEntries takeInner fuel ((k, v) :: acc) next := by
  rw [takeEntries, key]
  dsimp only [bind, Except.bind]
  simp only [item, comma, first]

end Steps

mutual

/-- Every spelling of a plain value that is not nested too deep is taken for it. -/
theorem takeValue_spelled : ∀ {v : Value} {cs : List Char}, Spells v cs → v.isPlain →
    ∀ {depth : Nat}, v.depth ≤ depth → ∀ {rest : List Char}, FollowsValue rest →
      takeValue depth (cs ++ rest) = .ok (v, rest)
  | _, _, .null, _, depth, _, rest, _ => takeValue_scalar (by decide) (by decide) depth _
  | _, _, .true, _, depth, _, rest, _ => takeValue_scalar (by decide) (by decide) depth _
  | _, _, .false, _, depth, _, rest, _ => takeValue_scalar (by decide) (by decide) depth _
  | _, _, .int n, plain, depth, _, rest, follows => by
    have short : (toString n).length ≤ wholeLimit := of_decide_eq_true plain
    have scalar := takeScalar_int short follows
    obtain ⟨c, more, text, solid⟩ := toString_head n
    simp only [List.mem_cons, not_or] at solid
    rw [text, List.cons_append] at scalar ⊢
    rw [takeValue_scalar solid.1 solid.2.2.1, scalar]
  | _, _, .str spells, _, depth, _, rest, _ => by
    rw [List.cons_append, List.append_assoc, takeValue_scalar (by decide) (by decide), takeScalar,
      List.singleton_append, takeString_string spells]
    rfl
  | _, _, .emptyList, _, depth, _, rest, _ => by cases depth <;> rfl
  | _, _, .emptyMap, _, depth, _, rest, _ => by cases depth <;> rfl
  | _, _, .list spells, plain, 0, shallow, rest, _ => by
    simp [Value.depth, depthOfItems] at shallow
  | _, _, .list spells, plain, depth + 1, shallow, rest, _ => by
    obtain ⟨c, next, first, noEnd, room⟩ := spells.head (']' :: rest)
    have items := takeItems_spelled spells plain shallow (Nat.le_succ_of_le room) [] rest
    rw [first] at items
    rw [List.cons_append, List.append_assoc, List.singleton_append, takeValue,
      takeOuter_list first noEnd, items]
    rfl
  | _, _, .map spells, plain, 0, shallow, rest, _ => by
    simp [Value.depth, depthOfEntries] at shallow
  | _, _, .map spells, plain, depth + 1, shallow, rest, _ => by
    rw [Value.isPlain, Bool.and_eq_true, decide_eq_true_iff] at plain
    obtain ⟨next, first, room⟩ := spells.head ('\x7d' :: rest)
    have entries := takeEntries_spelled spells plain.2 shallow (Nat.le_succ_of_le room) [] first
    rw [List.cons_append, List.append_assoc, List.singleton_append, takeValue,
      takeOuter_map first, entries, List.reverse_nil, List.nil_append, ofPairs_of_nodup _ plain.1]
    rfl

theorem takeItems_spelled : ∀ {items : List Value} {body : List Char}, SpellsItems items body →
    arePlain items → ∀ {depth : Nat}, depthOfItems items ≤ depth + 1 →
      ∀ {fuel : Nat}, items.length ≤ fuel → ∀ acc rest,
        takeItems (takeValue depth) fuel acc (skipBlanks (body ++ ']' :: rest)) =
          .ok (acc.reverse ++ items, rest)
  | _, _, .last before text after, plain, depth, shallow, fuel + 1, enough, acc, rest => by
    rw [arePlain, Bool.and_eq_true] at plain
    rw [depthOfItems, Nat.max_le] at shallow
    have follows := (followsValue_mark (c := ']') (by decide) rest).pad after
    have item := takeValue_spelled text plain.1 (Nat.le_of_succ_le_succ shallow.1) follows
    rw [List.append_assoc, List.append_assoc, text.skipBlanks_append before]
    exact takeItems_last fuel item (skipBlanks_solid after (by decide))
  | _, _, @SpellsItems.more v _ _ _ _ tail before text after others, plain, depth, shallow,
      fuel + 1, enough, acc, rest => by
    rw [arePlain, Bool.and_eq_true] at plain
    rw [depthOfItems, Nat.max_le] at shallow
    have follows := (followsValue_mark (c := ',') (by decide) (tail ++ ']' :: rest)).pad after
    have item := takeValue_spelled text plain.1 (Nat.le_of_succ_le_succ shallow.1) follows
    obtain ⟨c, next, first, noEnd, -⟩ := others.head (']' :: rest)
    have items :=
      takeItems_spelled others plain.2 shallow.2 (Nat.le_of_succ_le_succ enough) (v :: acc) rest
    rw [first] at items
    rw [List.append_assoc, List.append_assoc, List.append_assoc, text.skipBlanks_append before,
      List.cons_append, takeItems_more fuel item (skipBlanks_solid after (by decide)) first noEnd,
      items]
    simp

theorem takeEntries_spelled : ∀ {entries : Entries} {body : List Char},
    SpellsEntries entries body → arePlainEntries entries → ∀ {depth : Nat},
      depthOfEntries entries ≤ depth + 1 → ∀ {fuel : Nat}, entries.length ≤ fuel →
        ∀ acc {next rest}, skipBlanks (body ++ '\x7d' :: rest) = '"' :: next →
          takeEntries (takeValue depth) fuel acc next =
            .ok (Entries.ofPairs (acc.reverse ++ entries), rest)
  | _, _, .last before key gap text after, plain, depth, shallow, fuel + 1, enough, acc, next, rest,
      head => by
    rw [arePlainEntries, Bool.and_eq_true] at plain
    rw [depthOfEntries, Nat.max_le] at shallow
    rw [List.append_assoc, List.cons_append, skipBlanks_solid before (by decide)] at head
    obtain ⟨-, rfl⟩ := List.cons.inj head
    have follows := (followsValue_mark (c := '\x7d') (by decide) rest).pad after
    have item := takeValue_spelled text plain.1 (Nat.le_of_succ_le_succ shallow.1) follows
    have key := takeKey_spelled key
    rw [← text.skipBlanks_append gap] at item
    simp only [List.append_assoc, List.cons_append]
    exact takeEntries_last fuel (key _) item (skipBlanks_solid after (by decide))
  | _, _, @SpellsEntries.more k v _ _ _ _ _ _ tail before key gap text after others, plain, depth,
      shallow, fuel + 1, enough, acc, next, rest, head => by
    rw [arePlainEntries, Bool.and_eq_true] at plain
    rw [depthOfEntries, Nat.max_le] at shallow
    rw [List.append_assoc, List.cons_append, skipBlanks_solid before (by decide)] at head
    obtain ⟨-, rfl⟩ := List.cons.inj head
    have follows := (followsValue_mark (c := ',') (by decide) (tail ++ '\x7d' :: rest)).pad after
    have item := takeValue_spelled text plain.1 (Nat.le_of_succ_le_succ shallow.1) follows
    have key := takeKey_spelled key
    obtain ⟨next, first, -⟩ := others.head ('\x7d' :: rest)
    have entries := takeEntries_spelled others plain.2 shallow.2 (Nat.le_of_succ_le_succ enough)
      ((k, v) :: acc) first
    rw [← text.skipBlanks_append gap] at item
    simp only [List.append_assoc, List.cons_append]
    rw [takeEntries_more fuel (key _) item (skipBlanks_solid after (by decide)) first, entries]
    simp

end

/-- Every spelling of a plain value that is not nested too deep is a text of that value. -/
theorem parse_spelled (spells : Spells v cs) (plain : v.isPlain)
    (shallow : v.depth ≤ nestingLimit) : parse cs = .ok v := by
  have taken := takeValue_spelled spells plain shallow followsValue_nil
  have front := spells.skipBlanks_append .nil []
  rw [List.append_nil] at taken front
  rw [List.nil_append] at front
  unfold parse
  rw [front, taken]
  rfl

end Values

end Scaffold.Json

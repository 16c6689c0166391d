import Mathlib.Data.List.Infix
import Mathlib.Data.List.TakeWhile
import Mathlib.Tactic.MkIffOfInductiveProp
import Scaffold.Console.Screen
import Scaffold.Outcome

/-!
# Texts that markup leaves alone

Reading a text as markup gives the text itself back where nothing in it opens a tag, no backslash
stands before a bracket and no name of an emoji stands between two colons.  A tag or such a
backslash never shows in full, so that of the texts without two colons no others are left alone.
-/

namespace Scaffold.Console

variable {cs front rest : List Char} {c : Char}

/-- Nothing in the text opens a tag. -/
def Untagged (cs : List Char) : Prop := ∀ behind, behind <:+ cs → cutTag? behind = none

instance : Decidable (Untagged cs) :=
  decidable_of_iff (∀ behind ∈ cs.tails, cutTag? behind = none) <| by
    simp only [Untagged, List.mem_tails]

/-- Reading the text as markup changes nothing. -/
@[mk_iff]
structure IsLiteral (cs : List Char) : Prop where
  untagged : Untagged cs
  /-- No bracket is escaped. -/
  unescaped : ¬ ['\\', '['] <:+: cs
  /-- No emoji is named. -/
  unnamed : Emoji.replace cs = cs

section Tags

theorem cutTag?_of_ne (other : c ≠ '[') : cutTag? (c :: cs) = none := by
  unfold cutTag?
  split
  · rename_i same
    cases same
    exact absurd rfl other
  · rfl

/-- A tag is a bracket, its inside and another bracket. -/
theorem eq_of_cutTag? {inside : List Char} (cut : cutTag? cs = some (inside, rest)) :
    cs = '[' :: inside ++ [']'] ++ rest := by
  unfold cutTag? at cut
  split at cut
  · rename_i c cs
    split at cut
    · dsimp only at cut
      split at cut
      · rename_i behind
        cases cut
        have joined := List.take_append_drop
          (cs.takeWhile fun c => c != '[' && c != ']').length cs
        rw [behind, ← List.prefix_iff_eq_take.mp (List.takeWhile_prefix _)] at joined
        rw [← List.append_cons, List.cons_append, List.cons_append, joined]
      · cases cut
    · cases cut
  · cases cut

theorem untagged_cons : Untagged (c :: cs) ↔ cutTag? (c :: cs) = none ∧ Untagged cs := by
  simp only [Untagged, List.suffix_cons_iff, forall_eq_or_imp]

theorem untagged_append (unopened : '[' ∉ front) : Untagged (front ++ cs) ↔ Untagged cs := by
  induction front with
  | nil => rfl
  | cons c front ih =>
    rw [List.mem_cons, not_or] at unopened
    rw [List.cons_append, untagged_cons, ih unopened.2, cutTag?_of_ne (Ne.symm unopened.1)]
    exact and_iff_right rfl

end Tags

section Backslashes

/-- The backslashes before a text, and the text behind them. -/
theorem slashes_append (cs : List Char) :
    List.replicate (cs.takeWhile (· == '\\')).length '\\' ++
      cs.drop (cs.takeWhile (· == '\\')).length = cs := by
  have slashes : cs.takeWhile (· == '\\') =
      List.replicate (cs.takeWhile (· == '\\')).length '\\' :=
    List.eq_replicate_of_mem fun c member =>
      eq_of_beq (List.mem_takeWhile_imp (p := (· == '\\')) member)
  rw [← slashes, List.prefix_iff_eq_append.mp (List.takeWhile_prefix _)]

theorem escaped_append (unslashed : '\\' ∉ front) :
    ['\\', '['] <:+: front ++ cs ↔ ['\\', '['] <:+: cs := by
  induction front with
  | nil => rfl
  | cons c front ih =>
    rw [List.mem_cons, not_or] at unslashed
    have other : ¬ ['\\', '['] <+: c :: (front ++ cs) := fun starts =>
      unslashed.1 (List.cons_prefix_cons.mp starts).1
    rw [List.cons_append, List.infix_cons_iff, ih unslashed.2]
    exact or_iff_right other

theorem unescape_of_unescaped (unescaped : ¬ ['\\', '['] <:+: cs) : unescape cs = cs := by
  fun_induction unescape cs with
  | case1 cs ih => exact absurd (List.IsPrefix.isInfix ⟨cs, rfl⟩) unescaped
  | case2 c cs _ ih =>
    rw [ih fun inside => unescaped (inside.trans (List.suffix_cons c cs).isInfix)]
  | case3 => rfl

theorem unescape_sublist (cs : List Char) : (unescape cs).Sublist cs := by
  fun_induction unescape cs with
  | case1 cs ih => exact (ih.cons_cons _).cons _
  | case2 c cs _ ih => exact ih.cons_cons _
  | case3 => exact .slnil

end Backslashes

namespace Emoji

theorem cutBody?_of_no_colon (absent : ':' ∉ cs) : cutBody? cs = none := by
  have all : cs.takeWhile (· != ':') = cs :=
    List.takeWhile_eq_self_iff.mpr fun c member => bne_iff_ne.mpr fun same => absent (same ▸ member)
  rw [cutBody?, all, List.drop_length]

theorem cutBody?_of_space : cutBody? (' ' :: cs) = none := by
  rw [cutBody?, List.takeWhile_cons_of_pos (by decide)]
  split
  · exact if_pos rfl
  · rfl

theorem replace_cons_of_ne (other : c ≠ ':') : replace (c :: cs) = c :: replace cs := by
  rw [replace, if_neg other]

theorem replace_colon (uncut : cutBody? cs = none) : replace (':' :: cs) = ':' :: replace cs := by
  rw [replace, if_pos rfl]
  split
  · rename_i cut
    rw [uncut] at cut
    cases cut
  · rfl

theorem replace_append (absent : ':' ∉ front) : replace (front ++ cs) = front ++ replace cs := by
  induction front with
  | nil => rfl
  | cons c front ih =>
    rw [List.mem_cons, not_or] at absent
    rw [List.cons_append, replace_cons_of_ne (Ne.symm absent.1), ih absent.2]
    rfl

/-- The colon of a label is followed by a space and therefore names nothing. -/
theorem replace_label (absent : ':' ∉ front) :
    replace (front ++ [':', ' '] ++ cs) = front ++ [':', ' '] ++ replace cs := by
  rw [List.append_assoc, replace_append absent, List.append_assoc]
  change front ++ replace (':' :: ' ' :: cs) = _
  rw [replace_colon cutBody?_of_space, replace_cons_of_ne (by decide)]
  rfl

/-- The name of an emoji stands between two colons. -/
theorem replace_of_few_colons (few : cs.count ':' ≤ 1) : replace cs = cs := by
  induction cs with
  | nil => rw [replace]
  | cons c cs ih =>
    by_cases colon : c = ':'
    · subst colon
      rw [List.count_cons_self] at few
      have absent : ':' ∉ cs := List.count_eq_zero.mp (by omega)
      rw [replace_colon (cutBody?_of_no_colon absent), ih (by omega)]
    · rw [List.count_cons_of_ne colon] at few
      rw [replace_cons_of_ne colon, ih few]

end Emoji

/-- A value behind a label is left alone exactly if it is where it stands on its own. -/
theorem isLiteral_label (unopened : '[' ∉ front) (unslashed : '\\' ∉ front) (absent : ':' ∉ front) :
    IsLiteral (front ++ [':', ' '] ++ cs) ↔ IsLiteral cs := by
  have named : Emoji.replace (front ++ [':', ' '] ++ cs) = front ++ [':', ' '] ++ cs ↔
      Emoji.replace cs = cs := by
    rw [Emoji.replace_label absent]
    exact List.append_right_inj _
  rw [isLiteral_iff, isLiteral_iff, named, untagged_append (by simp [unopened]),
    escaped_append (by simp [unslashed])]

/-- Without tags a text is one part. -/
theorem partsFrom_of_untagged {fuel position : Nat} {literal : List Char}
    (untagged : Untagged cs) (enough : cs.length < fuel) :
    partsFrom fuel position literal cs = [.text (unescape (literal.reverse ++ cs))] := by
  induction fuel generalizing position literal cs with
  | zero => exact absurd enough (Nat.not_lt_zero _)
  | succ fuel ih =>
    cases cs with
    | nil => rw [partsFrom, List.append_nil]
    | cons c cs =>
      have joined := slashes_append (c :: cs)
      rw [partsFrom]
      dsimp only
      generalize ((c :: cs).takeWhile (· == '\\')).length = slashes at joined ⊢
      have onward : Untagged ((c :: cs).drop slashes) :=
        fun behind ends => untagged behind (ends.trans (List.drop_suffix _ _))
      rw [onward _ List.suffix_rfl]
      dsimp only
      split
      · rw [ih (untagged_cons.mp untagged).2 (Nat.lt_of_succ_lt_succ enough), List.reverse_cons,
          List.append_assoc]
        rfl
      · have shorter : ((c :: cs).drop slashes).length < fuel := by
          rw [List.length_drop]
          rw [List.length_cons] at enough ⊢
          omega
        rw [ih onward shorter, List.reverse_append, List.reverse_replicate, List.append_assoc,
          joined]

theorem readMarkup_of_isLiteral (literal : IsLiteral cs) :
    readMarkup cs = .ok (glyphs false (dropControls cs)) := by
  rw [readMarkup, partsFrom_of_untagged literal.untagged (Nat.lt_succ_self _), List.reverse_nil,
    List.nil_append, unescape_of_unescaped literal.unescaped, styledText, literal.unnamed,
    styledText]
  simp [Except.map]

section Shown

/-- What is shown of a part. -/
def Part.shown : Part → List Char
  | .text cs => dropControls (Emoji.replace cs)
  | .tag _ _ => []

theorem charsOf_glyphs (isStyled : Bool) (cs : List Char) : charsOf (glyphs isStyled cs) = cs := by
  rw [charsOf, glyphs, List.map_map]
  exact List.map_id cs

theorem charsOf_openRun (gs : List Glyph) : charsOf (openRun gs) = charsOf gs := by
  cases gs <;> rfl

/-- The characters of a text that can be read are those of its parts, whatever their styles. -/
theorem charsOf_styledText {isOpen : List OpenTag} {parts : List Part} {gs : List Glyph}
    (read : styledText isOpen parts = .ok gs) : charsOf gs = parts.flatMap Part.shown := by
  fun_induction styledText isOpen parts generalizing gs with
  | case1 =>
    cases read
    rfl
  | case2 isOpen cs parts ih =>
    obtain ⟨shown, rest, rfl⟩ := map_eq_ok.mp read
    rw [charsOf, List.map_append, List.flatMap_cons, ← ih rest]
    exact congrArg (· ++ charsOf shown) (charsOf_glyphs _ _)
  | case3 isOpen position t parts closes ih =>
    obtain ⟨name, -, read⟩ := bind_eq_ok.mp read
    obtain ⟨shown, rest, rfl⟩ := map_eq_ok.mp read
    exact (charsOf_openRun shown).trans (ih name rest)
  | case4 => cases read
  | case5 position t parts closes innermost outer ih =>
    obtain ⟨-, -, read⟩ := bind_eq_ok.mp read
    obtain ⟨shown, rest, rfl⟩ := map_eq_ok.mp read
    exact (charsOf_openRun shown).trans (ih rest)
  | case6 isOpen position t parts name _ closes ih =>
    obtain ⟨name, -, read⟩ := bind_eq_ok.mp read
    split at read
    · cases read
    · obtain ⟨-, -, read⟩ := bind_eq_ok.mp read
      obtain ⟨shown, rest, rfl⟩ := map_eq_ok.mp read
      exact (charsOf_openRun shown).trans (ih _ rest)

/-- The number of characters that a text shows where it stands for itself. -/
def shownLength (cs : List Char) : Nat := (dropControls cs).length

theorem shownLength_append (cs cs' : List Char) :
    shownLength (cs ++ cs') = shownLength cs + shownLength cs' := by
  rw [shownLength, dropControls, List.filter_append, List.length_append]
  rfl

theorem shownLength_cons (c : Char) (cs : List Char) :
    shownLength (c :: cs) = shownLength [c] + shownLength cs := shownLength_append [c] cs

theorem shownLength_replicate (count : Nat) :
    shownLength (List.replicate count '\\') = count := by
  rw [shownLength, dropControls, List.filter_replicate_of_pos (by decide), List.length_replicate]

theorem shownLength_bracketed (inside : List Char) :
    shownLength ('[' :: inside ++ [']']) = shownLength inside + 2 := by
  rw [List.cons_append, shownLength_cons, shownLength_append, Nat.add_comm]
  rfl

theorem shownLength_unescape_le (cs : List Char) : shownLength (unescape cs) ≤ shownLength cs :=
  ((unescape_sublist cs).filter _).length_le

/-- A backslash that makes a bracket plain does not show. -/
theorem unescaped_of_shownLength (same : shownLength (unescape cs) = shownLength cs) :
    ¬ ['\\', '['] <:+: cs := by
  fun_induction unescape cs with
  | case1 cs ih =>
    have le := shownLength_unescape_le cs
    have own : shownLength ('[' :: unescape cs) = shownLength (unescape cs) + 1 := rfl
    have all : shownLength ('\\' :: '[' :: cs) = shownLength cs + 2 := rfl
    omega
  | case2 c cs other ih =>
    rw [shownLength_cons, shownLength_cons c cs] at same
    intro inside
    rcases List.infix_cons_iff.mp inside with ⟨rest, front⟩ | inside
    · cases front
      exact other rest rfl rfl
    · exact ih (by omega) inside
  | case3 => simp

theorem length_shown_text (few : cs.count ':' ≤ 1) :
    (Part.text cs).shown.length = shownLength cs := by
  rw [Part.shown, Emoji.replace_of_few_colons few]
  rfl

theorem length_shown_unescape_le (few : cs.count ':' ≤ 1) :
    (Part.text (unescape cs)).shown.length ≤ shownLength cs := by
  rw [length_shown_text (((unescape_sublist cs).count_le ':').trans few)]
  exact shownLength_unescape_le cs

theorem length_shown_slashes (count : Nat) :
    (Part.text (List.replicate count '\\')).shown.length = count := by
  rw [length_shown_text, shownLength_replicate]
  rw [List.count_replicate]
  exact Nat.zero_le 1

/-- A tag that is read does not show, nor does the backslash that makes it text. -/
theorem length_shown_tag_lt (position : Nat) {slashes : Nat} {literal inside : List Char}
    {parts : List Part}
    (few : (literal ++
      (List.replicate slashes '\\' ++ ('[' :: inside ++ [']'] ++ rest))).count ':' ≤ 1)
    (behind : (parts.flatMap Part.shown).length ≤ shownLength rest) :
    ((if slashes % 2 = 1 then
        [Part.text (unescape literal), Part.text (List.replicate (slashes / 2) '\\')] ++
          Part.text ('[' :: inside ++ [']']) :: parts
      else
        [Part.text (unescape literal), Part.text (List.replicate (slashes / 2) '\\')] ++
          Part.tag position (Tag.ofText inside) :: parts).flatMap Part.shown).length <
      shownLength (literal ++
        (List.replicate slashes '\\' ++ ('[' :: inside ++ [']'] ++ rest))) := by
  simp only [List.count_append] at few
  have front : (Part.text (unescape literal)).shown.length ≤ shownLength literal :=
    length_shown_unescape_le (by omega)
  have pairs := length_shown_slashes (slashes / 2)
  rw [shownLength_append, shownLength_append, shownLength_append, shownLength_replicate,
    shownLength_bracketed]
  split
  · have text : (Part.text ('[' :: inside ++ [']'])).shown.length = shownLength inside + 2 := by
      rw [length_shown_text, shownLength_bracketed]
      rw [List.count_append]
      omega
    simp only [List.cons_append, List.nil_append, List.flatMap_cons, List.length_append] at text ⊢
    omega
  · have tag : (Part.tag position (Tag.ofText inside)).shown.length = 0 := rfl
    simp only [List.cons_append, List.nil_append, List.flatMap_cons, List.length_append]
    omega

/-- No more is shown of the parts of a text than stands there, and less if there is a tag. -/
theorem length_shown_partsFrom {fuel : Nat} (position : Nat) (literal : List Char)
    (few : (literal.reverse ++ cs).count ':' ≤ 1) (enough : cs.length < fuel) :
    ((partsFrom fuel position literal cs).flatMap Part.shown).length ≤
        shownLength (literal.reverse ++ cs) ∧
      (¬ Untagged cs → ((partsFrom fuel position literal cs).flatMap Part.shown).length <
        shownLength (literal.reverse ++ cs)) := by
  -- The fuel is what `partsFrom` recurses on; the text shrinks by a character, by the backslashes
  -- in front or by a whole tag.
  induction fuel generalizing position literal cs with
  | zero => exact absurd enough (Nat.not_lt_zero _)
  | succ fuel ih =>
    cases cs with
    | nil =>
      rw [List.append_nil] at few ⊢
      rw [partsFrom, List.flatMap_singleton]
      exact ⟨length_shown_unescape_le few, fun tagged => absurd (by decide) tagged⟩
    | cons c cs =>
      have joined := slashes_append (c :: cs)
      rw [partsFrom]
      dsimp only
      generalize ((c :: cs).takeWhile (· == '\\')).length = slashes at joined ⊢
      cases cut : cutTag? ((c :: cs).drop slashes) with
      | none =>
        dsimp only
        split
        · rename_i zero
          subst zero
          have whole : (c :: literal).reverse ++ cs = literal.reverse ++ c :: cs := by
            rw [List.reverse_cons, List.append_assoc]
            rfl
          rw [← whole] at few ⊢
          obtain ⟨le, lt⟩ := ih (position + 1) (c :: literal) few (Nat.lt_of_succ_lt_succ enough)
          exact ⟨le, fun tagged => lt fun fine => tagged (untagged_cons.mpr ⟨cut, fine⟩)⟩
        · have shorter : ((c :: cs).drop slashes).length < fuel := by
            rw [List.length_drop]
            rw [List.length_cons] at enough ⊢
            omega
          have whole : (List.replicate slashes '\\' ++ literal).reverse ++ (c :: cs).drop slashes =
              literal.reverse ++ c :: cs := by
            rw [List.reverse_append, List.reverse_replicate, List.append_assoc, joined]
          rw [← whole] at few ⊢
          obtain ⟨le, lt⟩ := ih (position + slashes) _ few shorter
          refine ⟨le, fun tagged => lt fun fine => tagged ?_⟩
          rw [← joined, untagged_append (by simp)]
          exact fine
      | some found =>
        obtain ⟨inside, rest⟩ := found
        rw [eq_of_cutTag? cut] at joined
        rw [← joined] at few enough ⊢
        have shorter : rest.length < fuel := by
          simp only [List.length_append, List.length_cons] at enough
          omega
        have fewer : rest.count ':' ≤ 1 := by
          simp only [List.count_append] at few
          omega
        have behind := (ih (position + slashes + inside.length + 2) [] fewer shorter).1
        have less := length_shown_tag_lt (position + 2 * (slashes / 2)) few behind
        exact ⟨Nat.le_of_lt less, fun _ => less⟩

/-- Of the texts without two colons, reading them as markup changes exactly those in which a tag
    opens or a bracket is escaped. -/
theorem readMarkup_eq_glyphs_iff (few : cs.count ':' ≤ 1) :
    readMarkup cs = .ok (glyphs false (dropControls cs)) ↔ IsLiteral cs := by
  refine ⟨fun read => ?_, readMarkup_of_isLiteral⟩
  have chars := congrArg List.length (charsOf_styledText read)
  rw [charsOf_glyphs] at chars
  have untagged : Untagged cs := by
    by_contra tagged
    have less := (length_shown_partsFrom 0 [] few (Nat.lt_succ_self _)).2 tagged
    exact absurd chars (Nat.ne_of_gt less)
  rw [partsFrom_of_untagged untagged (Nat.lt_succ_self _), List.flatMap_singleton,
    length_shown_text] at chars
  · exact ⟨untagged, unescaped_of_shownLength chars.symm, Emoji.replace_of_few_colons few⟩
  · exact ((unescape_sublist cs).count_le ':').trans few

end Shown

end Scaffold.Console

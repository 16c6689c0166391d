import Scaffold.Proofs.Scala.FirstWord
import Scaffold.Proofs.Scala.LineScan
import Scaffold.Proofs.Scala.TypeGrammar

/-!
# Heads of declarations

Where a scan of a source finds a type: at the beginning of a line, behind modifiers and a keyword,
and up to what cannot stand in the name of a type.
-/

namespace Scaffold.Scala.Declaration

open Text

section Scan

variable {find? : List Char → Option (List Char × Bool × List Char)} {fuel : Nat}
  {atLineStart : Bool} {cs name : List Char}

theorem endsLine_of_false {front : List Char} (ends : endsLine false front = true) :
    endsLine atLineStart front = true := by
  cases front with
  | nil => cases ends
  | cons => exact ends

/-- Every find is made at the beginning of a line, if no line begins behind a find. -/
theorem place_of_mem_findAll
    (each : ∀ cs name next rest, find? cs = some (name, next, rest) →
      next = false ∧ ∃ taken, cs = taken ++ rest)
    (member : name ∈ findAll find? fuel atLineStart cs) :
    ∃ front behind next rest, cs = front ++ behind ∧ endsLine atLineStart front = true ∧
      find? behind = some (name, next, rest) := by
  fun_induction findAll find? fuel atLineStart cs with
  | case1 => cases member
  | case2 => cases member
  | case3 fuel atLineStart c cs first next rest found ih =>
    cases atLineStart with
    | false => cases found
    | true =>
      rw [if_pos rfl] at found
      rcases List.mem_cons.mp member with rfl | member
      · exact ⟨[], _, next, rest, rfl, rfl, found⟩
      · obtain ⟨rfl, taken, whole⟩ := each _ _ _ _ found
        obtain ⟨front, behind, next, rest, rfl, ends, found⟩ := ih member
        refine ⟨taken ++ front, behind, next, rest, by rw [whole, List.append_assoc], ?_, found⟩
        rw [endsLine_append]
        exact endsLine_of_false ends
  | case4 fuel atLineStart c cs _ ih =>
    obtain ⟨front, behind, next, rest, rfl, ends, found⟩ := ih member
    exact ⟨c :: front, behind, next, rest, rfl, ends, found⟩

end Scan

section Heads

variable {cs rest name : List Char} {words : List String} {limit : Nat} {next : Bool}

theorem dropBlanks1?_sound (dropped : dropBlanks1? cs = some rest) :
    ∃ gap, cs = gap ++ rest ∧ IsGap gap := by
  cases cs with
  | nil => cases dropped
  | cons c cs =>
    rw [dropBlanks1?] at dropped
    split at dropped
    · rename_i blank
      cases dropped
      refine ⟨c :: cs.takeWhile isBlank, ?_, List.cons_ne_nil _ _, ?_⟩
      · rw [List.cons_append, List.takeWhile_append_dropWhile]
      · exact List.forall_mem_cons.mpr ⟨blank, List.all_eq_true.mp List.all_takeWhile⟩
    · cases dropped

theorem dropOneOf?_sound (dropped : dropOneOf? words cs = some rest) :
    ∃ word ∈ words, ∃ gap, cs = word.toList ++ (gap ++ rest) ∧ IsGap gap := by
  obtain ⟨word, among, dropped⟩ := List.exists_of_findSome?_eq_some dropped
  obtain ⟨behind, begins, dropped⟩ := Option.bind_eq_some_iff.mp dropped
  obtain ⟨gap, rfl, isGap⟩ := dropBlanks1?_sound dropped
  exact ⟨word, among, gap, dropWord?_eq_some.mp begins, isGap⟩

theorem dropModifiers_sound (limit : Nat) (cs : List Char) :
    ∃ front, cs = front ++ dropModifiers limit cs ∧ Modified front := by
  fun_induction dropModifiers limit cs with
  | case1 cs => exact ⟨[], rfl, .nil⟩
  | case2 limit cs rest dropped ih =>
    obtain ⟨word, among, gap, rfl, isGap⟩ := dropOneOf?_sound dropped
    obtain ⟨front, whole, modified⟩ := ih
    refine ⟨word.toList ++ (gap ++ front), ?_, .cons among isGap modified⟩
    rw [List.append_assoc, List.append_assoc, ← whole]
  | case3 limit cs => exact ⟨[], rfl, .nil⟩

/-- The head of a declaration: modifiers and a keyword, and white space behind each of them. -/
inductive Head : List Char → Prop
  | mk {front gap : List Char} {keyword : String} : Modified front → keyword ∈ typeKeywords →
      IsGap gap → Head (front ++ (keyword.toList ++ gap))

/-- A type is found behind the head of a declaration, up to what cannot stand in its name. -/
theorem typeDeclaration?_sound (found : typeDeclaration? cs = some (name, next, rest)) :
    next = false ∧ ∃ head, cs = head ++ (name ++ rest) ∧ Head head ∧ name ≠ [] ∧
      (∀ c ∈ name, isTypeChar c = true) ∧ ∀ c, rest.head? = some c → isTypeChar c = false := by
  have known := isTypeChar_of_typeDeclaration? found
  obtain ⟨behind, dropped, found⟩ := Option.bind_eq_some_iff.mp found
  obtain ⟨front, whole, modified⟩ := dropModifiers_sound cs.length cs
  obtain ⟨keyword, among, gap, begins, isGap⟩ := dropOneOf?_sound dropped
  dsimp only at found
  split at found
  · cases found
  · rename_i named
    cases found
    refine ⟨rfl, front ++ (keyword.toList ++ gap), ?_, .mk modified among isGap, ?_, known, ?_⟩
    · rw [whole, begins]
      simp only [List.append_assoc, List.takeWhile_append_dropWhile]
    · simpa using named
    · exact cutWhile_stop isTypeChar behind

end Heads

end Scaffold.Scala.Declaration

import Scaffold.Scala.Declaration

/-!
# Scanning sources by lines

What a scan finds at beginnings of lines: a stretch in which it finds nothing is passed over, and
behind a find it goes on.  `Quiet` says of a stretch that nothing is found in it, and `Finds` what
is found in a whole text, one search after the other.
-/

namespace Scaffold.Scala.Declaration

section Scan

variable {find? : List Char → Option (List Char × Bool × List Char)} {atLineStart : Bool}
  {front more text : List Char}

/-- Nothing is found at any beginning of a line in `front`, if `text` is behind it. -/
def Quiet (find? : List Char → Option (List Char × Bool × List Char)) :
    (atLineStart : Bool) → (front text : List Char) → Prop
  | _, [], _ => True
  | atLineStart, c :: front, text =>
    (atLineStart = true → find? (c :: (front ++ text)) = none) ∧ Quiet find? (c == '\n') front text

instance decidableQuiet (find? : List Char → Option (List Char × Bool × List Char)) :
    (atLineStart : Bool) → (front text : List Char) → Decidable (Quiet find? atLineStart front text)
  | _, [], _ => isTrue trivial
  | atLineStart, c :: front, text =>
    have := decidableQuiet find? (c == '\n') front text
    inferInstanceAs (Decidable
      ((atLineStart = true → find? (c :: (front ++ text)) = none) ∧ Quiet _ _ front text))

/-- Whether a line begins behind a text. -/
def endsLine (atLineStart : Bool) : List Char → Bool
  | [] => atLineStart
  | c :: cs => endsLine (c == '\n') cs

/-- A stretch without finds is passed over. -/
theorem findAll_append (fuel : Nat) (quiet : Quiet find? atLineStart front text) :
    findAll find? (front.length + fuel) atLineStart (front ++ text) =
      findAll find? fuel (endsLine atLineStart front) text := by
  induction front generalizing atLineStart with
  | nil => rw [List.length_nil, Nat.zero_add, List.nil_append, endsLine]
  | cons c front ih =>
    obtain ⟨first, rest⟩ := quiet
    have nothing : (if atLineStart then find? (c :: (front ++ text)) else none) = none := by
      cases atLineStart with
      | true => exact first rfl
      | false => rfl
    rw [List.length_cons, Nat.add_right_comm, List.cons_append, findAll, nothing]
    exact ih rest

/-- A text without finds has none. -/
theorem findAll_eq_nil (quiet : Quiet find? atLineStart text []) (fuel : Nat) :
    findAll find? fuel atLineStart text = [] := by
  induction text generalizing fuel atLineStart with
  | nil => cases fuel <;> rfl
  | cons c text ih =>
    cases fuel with
    | zero => rfl
    | succ fuel =>
      obtain ⟨first, rest⟩ := quiet
      rw [List.append_nil] at first
      have nothing : (if atLineStart then find? (c :: text) else none) = none := by
        cases atLineStart with
        | true => exact first rfl
        | false => rfl
      rw [findAll, nothing]
      exact ih rest fuel

/-- Behind a find the scan goes on. -/
theorem findAll_find {c : Char} {cs name rest : List Char} {next : Bool} (fuel : Nat)
    (found : find? (c :: cs) = some (name, next, rest)) :
    findAll find? (fuel + 1) true (c :: cs) = name :: findAll find? fuel next rest := by
  rw [findAll, if_pos rfl, found]

theorem quiet_append : Quiet find? atLineStart (front ++ more) text ↔
    Quiet find? atLineStart front (more ++ text) ∧
      Quiet find? (endsLine atLineStart front) more text := by
  induction front generalizing atLineStart with
  | nil => simp [Quiet, endsLine]
  | cons c front ih =>
    simp only [List.cons_append, Quiet, endsLine, ih, and_assoc, List.append_assoc]

/-- Inside a line nothing is found. -/
theorem quiet_of_line (line : '\n' ∉ front) : Quiet find? false front text := by
  induction front with
  | nil => trivial
  | cons c front ih =>
    obtain ⟨different, line⟩ := List.ne_and_not_mem_of_not_mem_cons line
    have goesOn : (c == '\n') = false := by simpa using Ne.symm different
    refine ⟨nofun, ?_⟩
    rw [goesOn]
    exact ih line

theorem endsLine_append (atLineStart : Bool) (front more : List Char) :
    endsLine atLineStart (front ++ more) = endsLine (endsLine atLineStart front) more := by
  induction front generalizing atLineStart with
  | nil => rfl
  | cons c front ih => exact ih _

theorem endsLine_of_line (line : '\n' ∉ front) : endsLine false front = false := by
  induction front with
  | nil => rfl
  | cons c front ih =>
    obtain ⟨different, line⟩ := List.ne_and_not_mem_of_not_mem_cons line
    have goesOn : (c == '\n') = false := by simpa using Ne.symm different
    rw [endsLine, goesOn]
    exact ih line

/-- On a line that begins with no find, nothing is found. -/
theorem quiet_cons_of_line {c : Char} (nothing : find? (c :: (front ++ text)) = none)
    (line : '\n' ∉ c :: front) : Quiet find? atLineStart (c :: front) text := by
  obtain ⟨different, line⟩ := List.ne_and_not_mem_of_not_mem_cons line
  have goesOn : (c == '\n') = false := by simpa using Ne.symm different
  refine ⟨fun _ => nothing, ?_⟩
  rw [goesOn]
  exact quiet_of_line line

/-- Every find is what `find?` returns for some text. -/
theorem findAll_forall {p : List Char → Prop}
    (each : ∀ cs name next rest, find? cs = some (name, next, rest) → p name) (fuel : Nat)
    (atLineStart : Bool) (cs : List Char) : ∀ name ∈ findAll find? fuel atLineStart cs, p name := by
  fun_induction findAll find? fuel atLineStart cs with
  | case1 => simp
  | case2 => simp
  | case3 fuel atLineStart c cs name next rest found ih =>
    refine List.forall_mem_cons.mpr ⟨?_, ih⟩
    split at found
    · exact each _ _ _ _ found
    · cases found
  | case4 fuel atLineStart c cs _ ih => exact ih

end Scan

section Finds

variable {find? : List Char → Option (List Char × Bool × List Char)} {atLineStart : Bool}
  {c : Char} {front text cs : List Char} {names : List (List Char)}

/-- The names that a scan finds in a text, one search after the other. -/
inductive Finds (find? : List Char → Option (List Char × Bool × List Char)) :
    (atLineStart : Bool) → (text : List Char) → (names : List (List Char)) → Prop
  | done {atLineStart : Bool} : Finds find? atLineStart [] []
  | pass {atLineStart : Bool} {c : Char} {cs : List Char} {names : List (List Char)} :
      (atLineStart = true → find? (c :: cs) = none) → Finds find? (c == '\n') cs names →
      Finds find? atLineStart (c :: cs) names
  | found {c : Char} {cs name rest : List Char} {next : Bool} {names : List (List Char)} :
      find? (c :: cs) = some (name, next, rest) → rest.length ≤ cs.length →
      Finds find? next rest names → Finds find? true (c :: cs) (name :: names)

/-- A scan of the whole text finds them all. -/
theorem findAll_of_finds (finds : Finds find? atLineStart text names) {fuel : Nat}
    (enough : text.length ≤ fuel) : findAll find? fuel atLineStart text = names := by
  induction finds generalizing fuel with
  | done => cases fuel <;> rfl
  | @pass atLineStart c cs names nothing _ ih =>
    obtain ⟨fuel, rfl⟩ : ∃ less, fuel = less + 1 := by
      exact Nat.exists_eq_add_one.mpr (Nat.lt_of_lt_of_le (Nat.succ_pos _) enough)
    have none : (if atLineStart then find? (c :: cs) else none) = none := by
      cases atLineStart with
      | true => exact nothing rfl
      | false => rfl
    rw [findAll, none]
    exact ih (Nat.le_of_succ_le_succ enough)
  | found one shorter _ ih =>
    obtain ⟨fuel, rfl⟩ : ∃ less, fuel = less + 1 := by
      exact Nat.exists_eq_add_one.mpr (Nat.lt_of_lt_of_le (Nat.succ_pos _) enough)
    rw [findAll_find _ one]
    rw [List.length_cons] at enough
    rw [ih (by omega)]

namespace Finds

/-- Inside a line nothing is looked for. -/
theorem inside (line : '\n' ∉ front) (finds : Finds find? false text names) :
    Finds find? false (front ++ text) names := by
  induction front with
  | nil => exact finds
  | cons c front ih =>
    obtain ⟨different, line⟩ := List.ne_and_not_mem_of_not_mem_cons line
    have goesOn : (c == '\n') = false := by simpa using Ne.symm different
    apply pass
    · nofun
    · rw [goesOn]
      exact ih line

/-- A line at whose beginning nothing is found is passed over. -/
theorem line (nothing : find? (front ++ text) = none) (line : '\n' ∉ front)
    (finds : Finds find? false text names) : Finds find? true (front ++ text) names := by
  cases front with
  | nil =>
    rw [List.nil_append] at nothing ⊢
    cases finds with
    | done => exact .done
    | pass _ finds => exact .pass (fun _ => nothing) finds
  | cons c front =>
    obtain ⟨different, line⟩ := List.ne_and_not_mem_of_not_mem_cons line
    have goesOn : (c == '\n') = false := by simpa using Ne.symm different
    apply pass
    · exact fun _ => nothing
    · rw [goesOn]
      exact inside line finds

/-- A search that may begin earlier on a line finds no more there. -/
theorem earlier (same : find? (front ++ text) = find? text) (line : '\n' ∉ front)
    (nothing : find? [] = none) (finds : Finds find? true text names)
    (findsOn : Finds find? false text names) : Finds find? true (front ++ text) names := by
  cases front with
  | nil => exact finds
  | cons c front =>
    cases finds with
    | done =>
      apply Finds.line _ line .done
      rw [same, nothing]
    | pass none _ => exact Finds.line (same.trans (none rfl)) line findsOn
    | @found d cs name rest _ _ one shorter finds =>
      have onward : rest.length ≤ (front ++ d :: cs).length := by
        rw [List.length_append, List.length_cons]
        omega
      exact .found (same.trans one) onward finds

/-- A line end is passed over, whether or not a search may begin before it. -/
theorem lineFeed (same : find? ('\n' :: text) = find? text) (nothing : find? [] = none)
    (finds : Finds find? true text names) : Finds find? atLineStart ('\n' :: text) names := by
  cases atLineStart with
  | false => exact .pass nofun finds
  | true =>
    cases finds with
    | done => exact .pass (fun _ => same.trans nothing) .done
    | pass none finds => exact .pass (fun _ => same.trans (none rfl)) (.pass none finds)
    | found one shorter finds =>
      refine .found (same.trans one) ?_ finds
      exact Nat.le_succ_of_le shorter

end Finds

end Finds

end Scaffold.Scala.Declaration

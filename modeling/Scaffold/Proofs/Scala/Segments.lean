import Scaffold.Scala.QualifiedName

/-!
# Segments of qualified names

`qualify` spells a name from the segments of a package and a type.  Splitting undoes it wherever
no segment of the package holds a dot or a back-quote and the type holds no dot, and it undoes
splitting for every text.  Where no dot follows the first back-quote, every segment is free of
dots.
-/

namespace Scaffold.Scala.QualifiedName

/-- The name of a type in a package: every segment of the package and a dot behind it, then the
    type. -/
def qualify (package : List (List Char)) (type : List Char) : List Char :=
  package.flatMap (· ++ ['.']) ++ type

theorem qualify_nil (type : List Char) : qualify [] type = type := rfl

theorem qualify_cons (segment : List Char) (package : List (List Char)) (type : List Char) :
    qualify (segment :: package) type = segment ++ '.' :: qualify package type := by
  simp [qualify]

/-- A package with dots between its segments, another dot and the type. -/
theorem intercalate_append {package : List (List Char)} (packaged : package ≠ [])
    (type : List Char) : ['.'].intercalate package ++ '.' :: type = qualify package type := by
  induction package with
  | nil => exact absurd rfl packaged
  | cons segment package ih =>
    cases package with
    | nil => simp [qualify]
    | cons next package =>
      have rest := ih (List.cons_ne_nil _ _)
      rw [List.intercalate_cons_cons, qualify_cons, ← rest]
      simp

/-- A text without a separator is one part. -/
theorem splitFrom_of_not_mem {separator : Char} {cs : List Char} (quoted : Bool)
    (absent : separator ∉ cs) : splitFrom (some separator) quoted cs = [cs] := by
  induction cs generalizing quoted with
  | nil => rfl
  | cons c cs ih =>
    obtain ⟨different, absent⟩ := List.ne_and_not_mem_of_not_mem_cons absent
    have kept : ¬ (some c = some separator ∧ (quoted != (c == '\x60')) = false) := by
      rintro ⟨equal, -⟩
      exact different (Option.some.inj equal).symm
    simp only [splitFrom, if_neg kept, ih _ absent]

/-- A part without separators and back-quotes ends at the separator behind it. -/
theorem splitFrom_part {separator : Char} {part : List Char} (rest : List Char)
    (plain : separator ≠ '\x60') (absent : separator ∉ part) (unquoted : '\x60' ∉ part) :
    splitFrom (some separator) false (part ++ separator :: rest) =
      part :: splitFrom (some separator) false rest := by
  induction part with
  | nil =>
    have outside : (false != (separator == '\x60')) = false := by simpa using plain
    simp only [List.nil_append, splitFrom, outside, and_self, if_true]
  | cons c part ih =>
    obtain ⟨different, absent⟩ := List.ne_and_not_mem_of_not_mem_cons absent
    obtain ⟨quote, unquoted⟩ := List.ne_and_not_mem_of_not_mem_cons unquoted
    have outside : (false != (c == '\x60')) = false := by simpa using Ne.symm quote
    have kept : ¬ some c = some separator := fun equal => different (Option.some.inj equal).symm
    simp only [List.cons_append, splitFrom, outside, and_true, if_neg kept, ih absent unquoted]

/-- Splitting finds the segments that a name was spelled from. -/
theorem segments_qualify {package : List (List Char)} {type : List Char}
    (plain : ∀ segment ∈ package, '.' ∉ segment ∧ '\x60' ∉ segment) (undotted : '.' ∉ type) :
    segments (qualify package type) = package ++ [type] := by
  unfold segments splitOn
  induction package with
  | nil => exact splitFrom_of_not_mem false undotted
  | cons segment package ih =>
    obtain ⟨absent, unquoted⟩ := plain segment List.mem_cons_self
    rw [qualify_cons, splitFrom_part _ (by decide) absent unquoted, List.cons_append,
      ih fun other member => plain other (List.mem_cons_of_mem _ member)]

theorem packageSegments_qualify {package : List (List Char)} {type : List Char}
    (plain : ∀ segment ∈ package, '.' ∉ segment ∧ '\x60' ∉ segment) (undotted : '.' ∉ type) :
    packageSegments (qualify package type) = package := by
  rw [packageSegments, segments_qualify plain undotted, List.dropLast_concat]

theorem typeSegment_qualify {package : List (List Char)} {type : List Char}
    (plain : ∀ segment ∈ package, '.' ∉ segment ∧ '\x60' ∉ segment) (undotted : '.' ∉ type) :
    typeSegment (qualify package type) = type := by
  rw [typeSegment, segments_qualify plain undotted, List.getLastD_concat]

/-- The parts at dots, put together again, are the text that was split. -/
theorem qualify_splitFrom (quoted : Bool) (cs : List Char) :
    qualify (splitFrom (some '.') quoted cs).dropLast
      ((splitFrom (some '.') quoted cs).getLastD []) = cs := by
  induction cs generalizing quoted with
  | nil => rfl
  | cons c cs ih =>
    have whole := ih (quoted != (c == '\x60'))
    have parts := splitFrom_ne_nil (some '.') (quoted != (c == '\x60')) cs
    simp only [splitFrom]
    generalize splitFrom (some '.') (quoted != (c == '\x60')) cs = split at whole parts ⊢
    obtain ⟨part, more, rfl⟩ := List.exists_cons_of_ne_nil parts
    by_cases separates : some c = some '.' ∧ (quoted != (c == '\x60')) = false
    · rw [if_pos separates, List.dropLast_cons_cons, qualify_cons, List.getLastD_cons,
        Option.some.inj separates.1]
      simpa using whole
    · rw [if_neg separates]
      -- The character joins the first part, which is the type where it is the only one.
      cases more with
      | nil => simpa [qualify_nil] using whole
      | cons next more =>
        rw [List.dropLast_cons_cons, qualify_cons] at whole ⊢
        simpa using whole

/-- The segments of a name spell it. -/
theorem qualify_segments (name : List Char) :
    qualify (packageSegments name) (typeSegment name) = name := qualify_splitFrom false name

/-- What stands in the type segment of a name stands in the name. -/
theorem mem_of_mem_typeSegment {name : List Char} {c : Char} (inside : c ∈ typeSegment name) :
    c ∈ name := by
  have qualified : ∀ package : List (List Char), c ∈ qualify package (typeSegment name) := by
    intro package
    induction package with
    | nil => exact inside
    | cons segment package ih =>
      rw [qualify_cons]
      exact List.mem_append_right _ (List.mem_cons_of_mem _ ih)
  rw [← qualify_segments name]
  exact qualified _

theorem hasDotAfterQuote_cons_of_ne {c : Char} (different : c ≠ '\x60') (cs : List Char) :
    hasDotAfterQuote (c :: cs) = hasDotAfterQuote cs := by
  simp [hasDotAfterQuote, different]

/-- Parts hold no dot if none follows a back-quote. -/
theorem not_mem_of_mem_splitFrom {cs part : List Char} (undotted : hasDotAfterQuote cs = false)
    (member : part ∈ splitFrom (some '.') false cs) : '.' ∉ part := by
  induction cs generalizing part with
  | nil =>
    simp only [splitFrom, List.mem_singleton] at member
    simp [member]
  | cons c cs ih =>
    by_cases quote : c = '\x60'
    · -- From the first back-quote on there is no dot at all, so nothing is split any more.
      have absent : '.' ∉ c :: cs := by simpa [hasDotAfterQuote, quote] using undotted
      rw [splitFrom_of_not_mem false absent, List.mem_singleton] at member
      rwa [member]
    · rw [hasDotAfterQuote_cons_of_ne quote] at undotted
      have parts := splitFrom_ne_nil (some '.') false cs
      by_cases dot : c = '.'
      · subst dot
        simp only [splitFrom] at member
        rcases List.mem_cons.mp (by simpa using member) with equal | member
        · simp [equal]
        · exact ih undotted member
      · have unquoted : (false != (c == '\x60')) = false := by simp [quote]
        simp only [splitFrom, unquoted, Option.some.injEq, dot, false_and, if_false] at member
        cases split : splitFrom (some '.') false cs with
        | nil => exact absurd split parts
        | cons first more =>
          simp only [split] at member ih
          rcases List.mem_cons.mp member with equal | member
          · have absent := ih undotted List.mem_cons_self
            simp [equal, Ne.symm dot, absent]
          · exact ih undotted (List.mem_cons_of_mem _ member)

theorem not_mem_typeSegment {name : List Char} (undotted : hasDotAfterQuote name = false) :
    '.' ∉ typeSegment name := by
  apply not_mem_of_mem_splitFrom undotted
  rw [typeSegment, List.getLastD_eq_getLast?, segments, splitOn,
    List.getLast?_eq_some_getLast (splitFrom_ne_nil _ _ _)]
  exact List.getLast_mem _

/-- No dot follows a back-quote in a name that is spelled from plain segments. -/
theorem hasDotAfterQuote_qualify {package : List (List Char)} {type : List Char}
    (plain : ∀ segment ∈ package, '\x60' ∉ segment) (undotted : '.' ∉ type) :
    hasDotAfterQuote (qualify package type) = false := by
  induction package with
  | nil =>
    rw [qualify_nil, hasDotAfterQuote, List.contains_eq_mem, decide_eq_false_iff_not]
    exact fun member => undotted ((List.dropWhile_sublist _).mem member)
  | cons segment package ih =>
    have unquoted := plain segment List.mem_cons_self
    have outside : ∀ c ∈ segment, (c != '\x60') = true := by
      intro c member
      simpa using ne_of_mem_of_not_mem member unquoted
    rw [qualify_cons, hasDotAfterQuote, List.dropWhile_append_of_pos outside]
    exact ih fun other member => plain other (List.mem_cons_of_mem _ member)

end Scaffold.Scala.QualifiedName

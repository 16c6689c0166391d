import Mathlib.Data.List.TakeWhile
import Scaffold.Proofs.Scala.FirstWord

/-!
# Sources by lines

What a scan finds in a source is told line by line, if every line is of one of a few kinds: blank, a
package clause, a type declaration at the margin, or a line whose first word is none that the scan
looks for.  White space in a clause or a declaration may run over line ends, but on such lines that
never hides a clause or a declaration, nor finds one that is not there.
-/

namespace Scaffold.Scala.Declaration

open Text

section Lines

/-- How a line reads: whether it names a package, and whether it declares a type. -/
inductive Reads : (line : List Char) → (package type : Option (List Char)) → Prop
  | blank {line : List Char} : (∀ c ∈ line, isBlank c = true) → Reads line none none
  /-- A clause may be indented, and a semicolon may close it. -/
  | clause {indent gap package trail closing : List Char} : (∀ c ∈ indent, isBlank c = true) →
      IsGap gap → package ≠ [] → (∀ c ∈ package, isClauseChar c = true) →
      (∀ c ∈ trail, isBlank c = true) → closing = [] ∨ closing = [';'] →
      Reads (indent ++ ("package".toList ++ (gap ++ (package ++ (trail ++ closing)))))
        (some package) none
  /-- A declaration begins at the margin, and its name goes on as far as it can. -/
  | declaration {front gap type rest : List Char} {keyword : String} : Modified front →
      keyword ∈ typeKeywords → IsGap gap → type ≠ [] → (∀ c ∈ type, isTypeChar c = true) →
      (∀ c, rest.head? = some c → isTypeChar c = false) →
      Reads (front ++ (keyword.toList ++ (gap ++ (type ++ rest)))) none (some type)
  | indented {c : Char} {line : List Char} : isBlank c = true →
      firstWord (c :: line) ≠ "package".toList → Reads (c :: line) none none
  | other {c : Char} {line : List Char} : isBlank c = false →
      (∀ word ∈ "package" :: (modifiers ++ typeKeywords), firstWord (c :: line) ≠ word.toList) →
      Reads (c :: line) none none

/-- A line of a source. -/
structure SourceLine where
  text : List Char
  /-- The package that the line names. -/
  package? : Option (List Char)
  /-- The type that the line declares. -/
  type? : Option (List Char)
  unbroken : '\n' ∉ text
  reads : Reads text package? type?

/-- The lines with a line end before each. -/
def behind (lines : List SourceLine) : List Char := lines.flatMap fun line => '\n' :: line.text

/-- The source that lines make up. -/
def sourceOf (lines : List SourceLine) : List Char := ['\n'].intercalate (lines.map (·.text))

@[simp] theorem behind_nil : behind [] = [] := rfl

@[simp] theorem behind_cons (line : SourceLine) (lines : List SourceLine) :
    behind (line :: lines) = '\n' :: (line.text ++ behind lines) := by
  rw [behind, List.flatMap_cons, List.cons_append]
  rfl

theorem behind_append (lines more : List SourceLine) :
    behind (lines ++ more) = behind lines ++ behind more := by
  simp [behind]

theorem sourceOf_cons (line : SourceLine) (lines : List SourceLine) :
    sourceOf (line :: lines) = line.text ++ behind lines := by
  induction lines generalizing line with
  | nil => simp [sourceOf]
  | cons next lines ih =>
    have rest := ih next
    simp only [sourceOf, List.map_cons] at rest ⊢
    rw [List.intercalate_cons_cons, rest, behind_cons]
    simp

end Lines

section Types

variable {line rest : List Char} {package? type? : Option (List Char)} {lines : List SourceLine}

/-- Behind a line comes a line end, or nothing. -/
theorem head_behind (lines : List SourceLine) : ∀ c, (behind lines).head? = some c → c = '\n' := by
  cases lines with
  | nil => nofun
  | cons line lines =>
    rintro c ⟨⟩
    rfl

/-- What is behind a line does not change its first word. -/
theorem headWord_behind (line : List Char) (lines : List SourceLine) :
    headWord (line ++ behind lines) = headWord line := by
  apply headWord_append_blank
  intro c head
  rw [head_behind lines c head]
  decide

/-- A line on which no type is declared begins with no word of a declaration. -/
theorem Reads.headWord_of_none (reads : Reads line package? none) :
    ∀ word ∈ modifiers ++ typeKeywords, headWord line ≠ word.toList := by
  have named : ∀ word ∈ modifiers ++ typeKeywords, [] ≠ word.toList := by decide
  have bare : ∀ {c : Char} {cs : List Char}, isBlank c = true → headWord (c :: cs) = [] := by
    intro c cs blank
    rw [headWord, List.takeWhile_cons_of_neg (by simp [blank])]
  intro word among
  cases reads with
  | blank blank =>
    cases line with
    | nil => exact named word among
    | cons c line =>
      rw [bare (blank c List.mem_cons_self)]
      exact named word among
  | @clause indent gap package trail closing blank isGap =>
    cases indent with
    | nil =>
      have different : ∀ word ∈ modifiers ++ typeKeywords, "package".toList ≠ word.toList := by
        decide
      rw [List.nil_append, headWord_append isBlank_of_mem_package isGap.head]
      exact different word among
    | cons c indent =>
      rw [List.cons_append, bare (blank c List.mem_cons_self)]
      exact named word among
  | indented blank =>
    rw [bare blank]
    exact named word among
  | other solid other =>
    rw [firstWord, dropBlanks_of_solid solid] at other
    exact other word (List.mem_cons_of_mem _ among)

/-- The types are found line by line. -/
theorem SourceLine.finds_types (line : SourceLine)
    (finds : Finds typeDeclaration? false (behind lines) (lines.filterMap (·.type?))) :
    Finds typeDeclaration? true (line.text ++ behind lines)
      ((line :: lines).filterMap (·.type?)) := by
  obtain ⟨text, package?, type?, unbroken, reads⟩ := line
  cases type? with
  | none =>
    apply Finds.line _ unbroken finds
    apply typeDeclaration?_of_other
    rw [headWord_behind]
    exact reads.headWord_of_none
  | some type =>
    cases reads with
    | @declaration front gap type rest keyword modified among isGap named known stop =>
      have ends : ∀ c, (rest ++ behind lines).head? = some c → isTypeChar c = false := by
        cases rest with
        | nil =>
          intro c head
          rw [head_behind lines c head]
          decide
        | cons d rest => exact stop
      have found := typeDeclaration?_of_modified modified among isGap named known ends
      have inside : '\n' ∉ rest := by
        simp only [List.mem_append, not_or] at unbroken
        exact unbroken.2.2.2.2
      obtain ⟨first, others, spelled⟩ := List.exists_cons_of_ne_nil named
      simp only [List.append_assoc]
      cases whole : front ++ (keyword.toList ++ (gap ++ (type ++ (rest ++ behind lines)))) with
      | nil => simp [spelled] at whole
      | cons c cs =>
        rw [whole] at found
        refine .found found ?_ (finds.inside inside)
        have long := congrArg List.length whole
        simp only [List.length_append, List.length_cons, spelled] at long ⊢
        omega

theorem finds_types_behind (lines : List SourceLine) (atLineStart : Bool) :
    Finds typeDeclaration? atLineStart (behind lines) (lines.filterMap (·.type?)) := by
  induction lines generalizing atLineStart with
  | nil => exact .done
  | cons line lines ih =>
    rw [behind_cons]
    exact .pass (fun _ => typeDeclaration?_lineFeed _) (line.finds_types (ih false))

end Types

section Clauses

variable {line cs blanks rest : List Char} {package? type? : Option (List Char)}
  {lines : List SourceLine}

theorem dropWhile_ne_nil (solid : ¬ ∀ c ∈ line, isBlank c = true) :
    line.dropWhile isBlank ≠ [] := by
  rw [Ne, List.dropWhile_eq_nil_iff]
  exact solid

/-- White space at the front of a line that is not blank ends on that line. -/
theorem dropWhile_of_solid (solid : ¬ ∀ c ∈ line, isBlank c = true) :
    (line ++ cs).dropWhile isBlank = line.dropWhile isBlank ++ cs := by
  rw [List.dropWhile_append, if_neg]
  rw [List.isEmpty_iff]
  exact dropWhile_ne_nil solid

/-- A line with a first word that is not `package` names no package. -/
theorem packageClause?_of_firstWord (solid : ¬ ∀ c ∈ line, isBlank c = true)
    (other : firstWord line ≠ "package".toList) (lines : List SourceLine) :
    packageClause? (line ++ behind lines) = none := by
  rw [packageClause?, dropWhile_of_solid solid]
  cases dropped : dropWord? "package".toList (line.dropWhile isBlank ++ behind lines) with
  | none => rfl
  | some cs =>
    cases blank : dropBlanks1? cs with
    | none => simp [blank]
    | some rest =>
      have first := headWord_of_dropBlanks1? isBlank_of_mem_package blank
      rw [← dropWord?_eq_some.mp dropped, headWord_behind] at first
      exact absurd first other

/-- White space before a line end belongs to what is cut. -/
theorem cutToLineEnd?_blanks (blank : ∀ c ∈ blanks, isBlank c = true) {taken : List Char}
    (cut : cutToLineEnd? cs = some (taken, rest)) :
    cutToLineEnd? (blanks ++ cs) = some (blanks ++ taken, rest) := by
  induction blanks with
  | nil => exact cut
  | cons c blanks ih =>
    obtain ⟨first, blank⟩ := List.forall_mem_cons.mp blank
    rw [List.cons_append, cutToLineEnd?, if_pos first, ih blank]
    rfl

/-- On a line that is not blank nothing is cut. -/
theorem cutToLineEnd?_of_solid (unbroken : '\n' ∉ line) (solid : ¬ ∀ c ∈ line, isBlank c = true)
    (cs : List Char) : cutToLineEnd? (line ++ cs) = none := by
  induction line with
  | nil => exact absurd (List.forall_mem_nil _) solid
  | cons c line ih =>
    obtain ⟨different, unbroken⟩ := List.ne_and_not_mem_of_not_mem_cons unbroken
    rw [List.cons_append, cutToLineEnd?]
    by_cases blank : isBlank c = true
    · have solid : ¬ ∀ c ∈ line, isBlank c = true :=
        fun rest => solid (List.forall_mem_cons.mpr ⟨blank, rest⟩)
      rw [if_pos blank, ih unbroken solid]
      exact if_neg (Ne.symm different)
    · rw [if_neg blank]

/-- A clause begins with the word `package`. -/
theorem SourceLine.package?_of_firstWord (line : SourceLine)
    (other : firstWord line.text ≠ "package".toList) : line.package? = none := by
  obtain ⟨text, package?, type?, unbroken, reads⟩ := line
  cases reads with
  | @clause indent gap package trail closing blank isGap =>
    have first : firstWord (indent ++ ("package".toList ++ (gap ++ (package ++
        (trail ++ closing))))) = "package".toList := by
      rw [firstWord, dropWhile_blanks blank (by rintro c ⟨⟩; decide)]
      exact headWord_append isBlank_of_mem_package isGap.head
    exact absurd first other
  | _ => rfl

/-- A blank line names no package. -/
theorem SourceLine.package?_of_blank (line : SourceLine)
    (blank : ∀ c ∈ line.text, isBlank c = true) : line.package? = none := by
  apply line.package?_of_firstWord
  rw [firstWord, List.dropWhile_eq_nil_iff.mpr blank]
  decide

/-- A line on which no package is named does not begin with `package`. -/
theorem Reads.firstWord_of_none (reads : Reads line none type?) :
    firstWord line ≠ "package".toList := by
  cases reads with
  | blank blank =>
    rw [firstWord, List.dropWhile_eq_nil_iff.mpr blank]
    decide
  | @declaration front gap type rest keyword modified among isGap =>
    have apart : ∀ word ∈ modifiers ++ typeKeywords, word.toList ≠ "package".toList := by decide
    obtain ⟨word, among, first⟩ := firstWord_of_modified modified among isGap (type ++ rest)
    rw [first]
    exact apart word among
  | indented _ other => exact other
  | other _ other => exact other _ List.mem_cons_self

/-- Lines that name no package, and then the others. -/
def Skips (lines others : List SourceLine) : Prop :=
  ∃ skipped, lines = skipped ++ others ∧ ∀ line ∈ skipped, line.package? = none

/-- A line that names no package is skipped with the ones behind it. -/
theorem Skips.cons {line : SourceLine} {others : List SourceLine} (none : line.package? = none)
    (skips : Skips lines others) : Skips (line :: lines) others := by
  obtain ⟨skipped, rfl, nones⟩ := skips
  exact ⟨line :: skipped, rfl, List.forall_mem_cons.mpr ⟨none, nones⟩⟩

/-- Behind a clause the blank lines are cut. -/
theorem exists_cutToLineEnd? (lines : List SourceLine) :
    ∃ blanks others, cutToLineEnd? (behind lines) = some (blanks, behind others) ∧
      Skips lines others := by
  induction lines with
  | nil => exact ⟨[], [], rfl, [], rfl, List.forall_mem_nil _⟩
  | cons line lines ih =>
    have lineFeed : isBlank '\n' = true := by decide
    rw [behind_cons, cutToLineEnd?, if_pos lineFeed]
    by_cases blank : ∀ c ∈ line.text, isBlank c = true
    · obtain ⟨blanks, others, cut, skips⟩ := ih
      rw [cutToLineEnd?_blanks blank cut]
      exact ⟨_, others, rfl, skips.cons (line.package?_of_blank blank)⟩
    · rw [cutToLineEnd?_of_solid line.unbroken blank]
      refine ⟨[], line :: lines, ?_, [], rfl, List.forall_mem_nil _⟩
      rw [behind_cons]
      rfl

/-- A semicolon that begins the first line with text on it is cut with the blank lines behind it,
    and the line names no package. -/
theorem skips_of_semicolon (front : (behind lines).dropWhile isBlank = ';' :: cs)
    (cut : cutToLineEnd? cs = some (blanks, rest)) :
    ∃ others, rest = behind others ∧ Skips lines others := by
  induction lines with
  | nil => cases front
  | cons line lines ih =>
    have lineFeed : isBlank '\n' = true := by decide
    rw [behind_cons, List.dropWhile_cons, if_pos lineFeed] at front
    by_cases blank : ∀ c ∈ line.text, isBlank c = true
    · rw [List.dropWhile_append_of_pos blank] at front
      obtain ⟨others, rfl, skips⟩ := ih front
      exact ⟨others, rfl, skips.cons (line.package?_of_blank blank)⟩
    · rw [dropWhile_of_solid blank] at front
      obtain ⟨c, more, first⟩ := List.exists_cons_of_ne_nil (dropWhile_ne_nil blank)
      rw [first, List.cons_append, List.cons.injEq] at front
      obtain ⟨rfl, rfl⟩ := front
      have unbroken : '\n' ∉ more := by
        intro member
        have inside : '\n' ∈ line.text.dropWhile isBlank := first ▸ List.mem_cons_of_mem _ member
        exact line.unbroken ((List.dropWhile_suffix isBlank).subset inside)
      have other : firstWord line.text ≠ "package".toList := by
        rw [firstWord, first, headWord, List.takeWhile_cons_of_pos (by decide)]
        simp
      have unnamed := line.package?_of_firstWord other
      by_cases solid : ∀ c ∈ more, isBlank c = true
      · obtain ⟨plain, others, ends, skips⟩ := exists_cutToLineEnd? lines
        rw [cutToLineEnd?_blanks solid ends] at cut
        cases cut
        exact ⟨others, rfl, skips.cons unnamed⟩
      · rw [cutToLineEnd?_of_solid unbroken solid] at cut
        cases cut

/-- A clause ends where the blank lines behind it do; with a semicolon that begins a line, that line
    belongs to it. -/
theorem exists_clauseEnd? {trail closing : List Char} (blank : ∀ c ∈ trail, isBlank c = true)
    (closes : closing = [] ∨ closing = [';']) (lines : List SourceLine) :
    ∃ blanks others, clauseEnd? (trail ++ (closing ++ behind lines)) =
      some (blanks, behind others) ∧ Skips lines others := by
  obtain ⟨plain, others, cut, skips⟩ := exists_cutToLineEnd? lines
  rcases closes with rfl | rfl
  · have ends : cutToLineEnd? (trail ++ behind lines) = some (trail ++ plain, behind others) :=
      cutToLineEnd?_blanks blank cut
    rw [List.nil_append, clauseEnd?]
    split
    · rename_i rest front
      cases closed : cutToLineEnd? rest with
      | none => exact ⟨_, others, ends, skips⟩
      | some found =>
        rw [List.dropWhile_append_of_pos blank] at front
        obtain ⟨others, same, skips⟩ := skips_of_semicolon front closed
        exact ⟨found.1, others, by rw [← same], skips⟩
    · exact ⟨_, others, ends, skips⟩
  · have front : (trail ++ ([';'] ++ behind lines)).dropWhile isBlank = ';' :: behind lines :=
      dropWhile_blanks blank (by rintro c ⟨⟩; decide)
    rw [clauseEnd?, front]
    simp only [cut]
    exact ⟨plain, others, rfl, skips⟩

/-- Where a line names a package, it is found, whatever lines are behind. -/
theorem exists_packageClause? {indent gap package trail closing : List Char}
    (indented : ∀ c ∈ indent, isBlank c = true) (isGap : IsGap gap) (named : package ≠ [])
    (known : ∀ c ∈ package, isClauseChar c = true) (trailing : ∀ c ∈ trail, isBlank c = true)
    (closes : closing = [] ∨ closing = [';']) (lines : List SourceLine) :
    ∃ next others, packageClause? (indent ++ ("package".toList ++ (gap ++ (package ++
      (trail ++ (closing ++ behind lines)))))) = some (package, next, behind others) ∧
      Skips lines others := by
  obtain ⟨blanks, others, closed, skips⟩ := exists_clauseEnd? trailing closes lines
  have stop : ∀ c, (trail ++ (closing ++ behind lines)).head? = some c →
      isClauseChar c = false := by
    intro c head
    cases trail with
    | cons d trail =>
      cases head
      exact isClauseChar_of_isBlank (trailing c List.mem_cons_self)
    | nil =>
      rcases closes with rfl | rfl
      · rw [head_behind lines c head]
        decide
      · cases head
        decide
  exact ⟨_, others, packageClause?_of_gap indented isGap named known stop closed, skips⟩

theorem filterMap_of_skips {others : List SourceLine} (skips : Skips lines others) :
    lines.filterMap (·.package?) = others.filterMap (·.package?) := by
  obtain ⟨skipped, rfl, nones⟩ := skips
  rw [List.filterMap_append, List.filterMap_eq_nil_iff.mpr nones, List.nil_append]

theorem length_of_skips {others : List SourceLine} (skips : Skips lines others) :
    others.length ≤ lines.length ∧ (behind others).length ≤ (behind lines).length := by
  obtain ⟨skipped, rfl, -⟩ := skips
  simp [behind_append]

/-- The packages are found line by line. -/
theorem SourceLine.finds_packages (line : SourceLine)
    (finds : ∀ others atLineStart, Skips lines others → Finds packageClause? atLineStart
      (behind others) (others.filterMap (·.package?))) :
    Finds packageClause? true (line.text ++ behind lines)
      ((line :: lines).filterMap (·.package?)) := by
  have all : Skips lines lines := ⟨[], rfl, List.forall_mem_nil _⟩
  obtain ⟨text, package?, type?, unbroken, reads⟩ := line
  cases package? with
  | none =>
    by_cases blank : ∀ c ∈ text, isBlank c = true
    · exact .earlier (packageClause?_blanks blank _) unbroken rfl (finds _ _ all) (finds _ _ all)
    · exact .line (packageClause?_of_firstWord blank reads.firstWord_of_none lines) unbroken
        (finds _ _ all)
  | some package =>
    cases reads with
    | @clause indent gap package trail closing blank isGap named known trailing closes =>
      obtain ⟨next, others, found, skips⟩ :=
        exists_packageClause? blank isGap named known trailing closes lines
      simp only [List.append_assoc]
      cases whole : indent ++ ("package".toList ++ (gap ++ (package ++ (trail ++ (closing ++
          behind lines))))) with
      | nil => simp at whole
      | cons c cs =>
        rw [whole] at found
        change Finds packageClause? true (c :: cs) (package :: lines.filterMap (·.package?))
        rw [filterMap_of_skips skips]
        refine .found found ?_ (finds others next skips)
        have shorter := (length_of_skips skips).2
        have long := congrArg List.length whole
        simp only [List.length_append, List.length_cons, String.reduceToList] at long
        omega

theorem finds_packages_behind (lines : List SourceLine) (atLineStart : Bool) :
    Finds packageClause? atLineStart (behind lines) (lines.filterMap (·.package?)) := by
  -- A clause may take lines behind it away, so the lines are not gone through one by one.
  induction count : lines.length using Nat.strongRecOn generalizing lines atLineStart with
  | _ count ih =>
    cases lines with
    | nil => exact .done
    | cons line lines =>
      rw [behind_cons]
      apply Finds.lineFeed (packageClause?_lineFeed _) rfl
      apply line.finds_packages
      intro others atLineStart skips
      refine ih others.length ?_ others atLineStart rfl
      have shorter := (length_of_skips skips).1
      rw [List.length_cons] at count
      omega

end Clauses

section Source

variable {find? : List Char → Option (List Char × Bool × List Char)} {lines : List SourceLine}

/-- The packages that lines name, joined by dots and closed by one. -/
def packagePrefix (lines : List SourceLine) : List Char :=
  match lines.filterMap (·.package?) with
  | [] => []
  | packages => ['.'].intercalate packages ++ ['.']

theorem finds_of_behind {names : SourceLine → Option (List Char)} (lines : List SourceLine)
    (first : ∀ line lines, Finds find? true (line.text ++ behind lines)
      ((line :: lines).filterMap names)) :
    Finds find? true (sourceOf lines) (lines.filterMap names) := by
  cases lines with
  | nil => exact .done
  | cons line lines =>
    rw [sourceOf_cons]
    exact first line lines

theorem typesOf_sourceOf (lines : List SourceLine) :
    typesOf (sourceOf lines) = lines.filterMap (·.type?) := by
  apply findAll_of_finds _ le_rfl
  exact finds_of_behind lines fun line lines => line.finds_types (finds_types_behind lines false)

theorem packageOf_sourceOf (lines : List SourceLine) :
    packageOf (sourceOf lines) = ['.'].intercalate (lines.filterMap (·.package?)) := by
  rw [packageOf]
  congr 1
  apply findAll_of_finds _ le_rfl
  exact finds_of_behind lines fun line lines =>
    line.finds_packages fun others atLineStart _ => finds_packages_behind others atLineStart

/-- The names of packages are not empty. -/
theorem SourceLine.named (line : SourceLine) {package : List Char}
    (names : line.package? = some package) : package ≠ [] := by
  obtain ⟨text, package?, type?, unbroken, reads⟩ := line
  cases names
  cases reads with
  | clause _ _ named => exact named

/-- A scan of a source finds exactly the types that its lines declare at the margin, each behind the
    packages that its lines name, wherever the clauses stand. -/
theorem qualifiedTypes_sourceOf (lines : List SourceLine) :
    qualifiedTypes (sourceOf lines) =
      (lines.filterMap (·.type?)).map fun type =>
        String.ofList (packagePrefix lines ++ type) := by
  have start : packagePrefix lines = if (packageOf (sourceOf lines)).isEmpty then [] else
      packageOf (sourceOf lines) ++ ['.'] := by
    rw [packageOf_sourceOf, packagePrefix]
    cases packages : lines.filterMap (·.package?) with
    | nil => rfl
    | cons package more =>
      have member : package ∈ lines.filterMap (·.package?) := packages ▸ List.mem_cons_self
      obtain ⟨line, -, names⟩ := List.mem_filterMap.mp member
      obtain ⟨c, cs, rfl⟩ := List.exists_cons_of_ne_nil (line.named names)
      cases more <;> rfl
  rw [qualifiedTypes, typesOf_sourceOf, start]

end Source

end Scaffold.Scala.Declaration

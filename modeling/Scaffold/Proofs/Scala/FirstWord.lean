import Mathlib.Data.List.TakeWhile
import Scaffold.Proofs.Scala.CharClass
import Scaffold.Proofs.Scala.LineScan

/-!
# First words

Whether a package clause or a type declaration stands at the front of a text is told by its first
word.  A clause is found behind `package`, and a declaration behind its modifiers and its keyword,
with any white space between the words, if their names are spelled by the characters that the scan
knows.
-/

namespace Scaffold.Scala.Declaration

open Text

section Words

variable {words : List String} {c : Char} {cs rest gap line : List Char}

/-- White space of at least one character. -/
def IsGap (gap : List Char) : Prop := gap ≠ [] ∧ ∀ c ∈ gap, isBlank c = true

/-- The text up to the first white space. -/
def headWord (cs : List Char) : List Char := cs.takeWhile fun c => !isBlank c

/-- The first word of a line: what stands between white space. -/
def firstWord (line : List Char) : List Char := headWord (line.dropWhile isBlank)

theorem dropBlanks_of_solid (solid : isBlank c = false) :
    (c :: cs).dropWhile isBlank = c :: cs := by
  rw [List.dropWhile_cons, solid, if_neg Bool.false_ne_true]

theorem takeWhile_append_stop {p : Char → Bool} (all : ∀ c ∈ cs, p c = true)
    (stop : ∀ c, rest.head? = some c → p c = false) :
    (cs ++ rest).takeWhile p = cs ∧ (cs ++ rest).dropWhile p = rest := by
  rw [List.takeWhile_append_of_pos all, List.dropWhile_append_of_pos all]
  cases rest with
  | nil => simp
  | cons c rest => simp [stop c rfl]

theorem dropWord?_append (word cs : List Char) : dropWord? word (word ++ cs) = some cs := by
  induction word with
  | nil => rfl
  | cons w word ih => rw [List.cons_append, dropWord?, if_pos rfl, ih]

theorem dropWord?_eq_some {word : List Char} :
    dropWord? word cs = some rest ↔ cs = word ++ rest := by
  fun_induction dropWord? word cs with
  | case1 cs => simp [eq_comm]
  | case2 => simp
  | case3 word c cs ih => simpa using ih
  | case4 w word c cs different =>
    simp only [List.cons_append, List.cons.injEq]
    constructor
    · nofun
    · exact fun same => absurd same.1.symm different

theorem headWord_append (solid : ∀ c ∈ cs, isBlank c = false)
    (ends : ∀ c, rest.head? = some c → isBlank c = true) : headWord (cs ++ rest) = cs := by
  have stop : ∀ c, rest.head? = some c → (!isBlank c) = false := by
    intro c head
    rw [ends c head]
    rfl
  refine (takeWhile_append_stop ?_ stop).1
  intro c member
  rw [solid c member]
  rfl

/-- Behind white space a text does not change its first word. -/
theorem headWord_append_blank (ends : ∀ c, rest.head? = some c → isBlank c = true)
    (line : List Char) : headWord (line ++ rest) = headWord line := by
  have none : headWord rest = [] := headWord_append (List.forall_mem_nil _) ends
  unfold headWord at none ⊢
  rw [List.takeWhile_append, none, List.append_nil]
  split
  · rename_i whole
    exact (List.takeWhile_prefix _).eq_of_length whole |>.symm
  · rfl

theorem isGap_space : IsGap [' '] := ⟨by decide, List.forall_mem_singleton.mpr (by decide)⟩

theorem IsGap.head (isGap : IsGap gap) : ∀ c, (gap ++ rest).head? = some c → isBlank c = true := by
  obtain ⟨nonempty, blank⟩ := isGap
  obtain ⟨first, others, rfl⟩ := List.exists_cons_of_ne_nil nonempty
  rintro c ⟨⟩
  exact blank first List.mem_cons_self

theorem dropWhile_blanks (blank : ∀ c ∈ gap, isBlank c = true)
    (solid : ∀ c, rest.head? = some c → isBlank c = false) :
    (gap ++ rest).dropWhile isBlank = rest :=
  (takeWhile_append_stop blank solid).2

theorem dropBlanks1?_gap (isGap : IsGap gap)
    (solid : ∀ c, rest.head? = some c → isBlank c = false) :
    dropBlanks1? (gap ++ rest) = some rest := by
  obtain ⟨nonempty, blank⟩ := isGap
  obtain ⟨first, others, rfl⟩ := List.exists_cons_of_ne_nil nonempty
  obtain ⟨firstBlank, blank⟩ := List.forall_mem_cons.mp blank
  rw [List.cons_append, dropBlanks1?, if_pos firstBlank, dropWhile_blanks blank solid]

/-- White space behind a word makes it the first one. -/
theorem headWord_of_dropBlanks1? {word : List Char} (solid : ∀ c ∈ word, isBlank c = false)
    (dropped : dropBlanks1? cs = some rest) : headWord (word ++ cs) = word := by
  apply headWord_append solid
  intro c head
  cases cs with
  | nil => cases head
  | cons d cs =>
    cases head
    cases blank : isBlank c with
    | true => rfl
    | false =>
      rw [dropBlanks1?, blank] at dropped
      cases dropped

/-- Words that no white space is in. -/
def Solid (words : List String) : Prop :=
  ∀ word ∈ words, word.toList ≠ [] ∧ ∀ c ∈ word.toList, isBlank c = false

/-- Such a word begins with no white space. -/
theorem Solid.head (solid : Solid words) {word : String} (among : word ∈ words) :
    ∀ c, (word.toList ++ cs).head? = some c → isBlank c = false := by
  obtain ⟨named, solid⟩ := solid word among
  obtain ⟨first, others, spelled⟩ := List.exists_cons_of_ne_nil named
  rw [spelled] at solid ⊢
  rintro c ⟨⟩
  exact solid first List.mem_cons_self

/-- A text in which white space is looked for in vain. -/
theorem isBlank_of_any_eq_false (none : cs.any isBlank = false) : ∀ c ∈ cs, isBlank c = false := by
  intro c member
  exact Bool.not_eq_true _ |>.mp (List.any_eq_false.mp none c member)

theorem solid_of_any
    (checked : ∀ word ∈ words, word.toList ≠ [] ∧ word.toList.any isBlank = false) : Solid words :=
  fun word among => ⟨(checked word among).1, isBlank_of_any_eq_false (checked word among).2⟩

theorem solid_modifiers : Solid modifiers := solid_of_any (by decide)

theorem solid_typeKeywords : Solid typeKeywords := solid_of_any (by decide)

theorem isBlank_of_mem_package : ∀ c ∈ "package".toList, isBlank c = false :=
  isBlank_of_any_eq_false (by decide)

/-- A word is dropped only where it is the first one. -/
theorem headWord_of_dropOneOf? (solid : Solid words) (dropped : dropOneOf? words cs = some rest) :
    ∃ word ∈ words, headWord cs = word.toList ∧
      (dropWord? word.toList cs).bind dropBlanks1? = some rest := by
  obtain ⟨word, among, dropped⟩ := List.exists_of_findSome?_eq_some dropped
  refine ⟨word, among, ?_, dropped⟩
  obtain ⟨onward, first, blanks⟩ := Option.bind_eq_some_iff.mp dropped
  rw [dropWord?_eq_some.mp first]
  exact headWord_of_dropBlanks1? (solid word among).2 blanks

/-- A word with white space behind it is dropped. -/
theorem dropOneOf?_of_gap {word : String} (solid : Solid words) (among : word ∈ words)
    (isGap : IsGap gap) (stop : ∀ c, rest.head? = some c → isBlank c = false) :
    dropOneOf? words (word.toList ++ (gap ++ rest)) = some rest := by
  have found : (dropWord? word.toList (word.toList ++ (gap ++ rest))).bind dropBlanks1? =
      some rest := by
    rw [dropWord?_append]
    exact dropBlanks1?_gap isGap stop
  cases dropped : dropOneOf? words (word.toList ++ (gap ++ rest)) with
  | none =>
    rw [dropOneOf?, List.findSome?_eq_none_iff] at dropped
    rw [dropped word among] at found
    cases found
  | some other =>
    -- Whichever word was dropped, it is the first one of the text.
    obtain ⟨same, -, first, dropped⟩ := headWord_of_dropOneOf? solid dropped
    rw [headWord_append (solid word among).2 isGap.head] at first
    rw [← first, found] at dropped
    exact dropped.symm

theorem dropOneOf?_eq_none (solid : Solid words)
    (other : ∀ word ∈ words, headWord cs ≠ word.toList) : dropOneOf? words cs = none := by
  cases dropped : dropOneOf? words cs with
  | none => rfl
  | some rest =>
    obtain ⟨word, among, first, -⟩ := headWord_of_dropOneOf? solid dropped
    exact absurd first (other word among)

/-- A word with white space behind it is the first one. -/
theorem firstWord_of_gap {word : String} (solid : Solid words) (among : word ∈ words)
    (isGap : IsGap gap) (rest : List Char) :
    firstWord (word.toList ++ (gap ++ rest)) = word.toList := by
  have front : (word.toList ++ (gap ++ rest)).dropWhile isBlank =
      word.toList ++ (gap ++ rest) :=
    dropWhile_blanks (List.forall_mem_nil _) (solid.head among)
  rw [firstWord, front]
  exact headWord_append (solid word among).2 isGap.head

end Words

section Packages

variable {c : Char} {package text : List Char}

/-- Whether a character may stand in the name of a package clause, as the scan knows it. -/
def isClauseChar (c : Char) : Bool := isWordChar c || c == '.'

theorem isBlank_of_isClauseChar (known : isClauseChar c = true) : isBlank c = false := by
  rw [isClauseChar, Bool.or_eq_true, beq_iff_eq] at known
  rcases known with word | rfl
  · exact isBlank_of_isWordChar word
  · decide

theorem isClauseChar_of_isBlank (blank : isBlank c = true) : isClauseChar c = false := by
  by_contra known
  rw [Bool.not_eq_false] at known
  rw [isBlank_of_isClauseChar known] at blank
  cases blank

/-- A package clause is closed by an empty line. -/
theorem clauseEnd?_of_emptyLine {c : Char} {cs : List Char} (solid : isBlank c = false)
    (different : c ≠ ';') :
    clauseEnd? ('\n' :: '\n' :: c :: cs) = some (['\n'], '\n' :: c :: cs) := by
  have lineEnd : isBlank '\n' = true := by decide
  have behind : cutToLineEnd? ('\n' :: '\n' :: c :: cs) = some (['\n'], '\n' :: c :: cs) := by
    simp [cutToLineEnd?, solid, lineEnd]
  rw [clauseEnd?, List.dropWhile_cons, if_pos lineEnd, List.dropWhile_cons, if_pos lineEnd,
    dropBlanks_of_solid solid]
  split
  · rename_i same
    cases same
    exact absurd rfl different
  · exact behind

/-- A clause is found with any white space in it, if it is closed. -/
theorem packageClause?_of_gap {indent gap text blanks rest : List Char}
    (indented : ∀ c ∈ indent, isBlank c = true) (isGap : IsGap gap) (named : package ≠ [])
    (known : ∀ c ∈ package, isClauseChar c = true)
    (stop : ∀ c, text.head? = some c → isClauseChar c = false)
    (closed : clauseEnd? text = some (blanks, rest)) :
    packageClause? (indent ++ ("package".toList ++ (gap ++ (package ++ text)))) =
      some (package, blanks.getLast? == some '\n', rest) := by
  have front : (indent ++ ("package".toList ++ (gap ++ (package ++ text)))).dropWhile isBlank =
      "package".toList ++ (gap ++ (package ++ text)) :=
    dropWhile_blanks indented (by rintro c ⟨⟩; decide)
  have solid : ∀ c, (package ++ text).head? = some c → isBlank c = false := by
    obtain ⟨first, others, rfl⟩ := List.exists_cons_of_ne_nil named
    rintro c ⟨⟩
    exact isBlank_of_isClauseChar (known first List.mem_cons_self)
  obtain ⟨taken, left⟩ := takeWhile_append_stop known stop
  have nameChar : isClauseChar = fun c => isWordChar c || c == '.' := rfl
  rw [nameChar] at taken left
  rw [packageClause?, front, dropWord?_append]
  simp only [Option.bind_eq_bind, Option.bind_some, dropBlanks1?_gap isGap solid, taken, left,
    closed]
  simp [named]

/-- A clause with a package that the scan knows the characters of is found with an empty line behind
    it. -/
theorem packageClause?_of_clause {c : Char} {cs : List Char} (named : package ≠ [])
    (known : ∀ c ∈ package, isClauseChar c = true) (solid : isBlank c = false)
    (different : c ≠ ';') :
    packageClause? ("package ".toList ++ (package ++ '\n' :: '\n' :: c :: cs)) =
      some (package, true, '\n' :: c :: cs) := by
  have stop : ∀ d, ('\n' :: '\n' :: c :: cs).head? = some d → isClauseChar d = false := by
    rintro _ ⟨⟩
    decide
  exact packageClause?_of_gap (List.forall_mem_nil _) isGap_space named known stop
    (clauseEnd?_of_emptyLine solid different)

/-- A clause is found only where `package` begins, white space aside. -/
theorem packageClause?_of_ne {c : Char} {cs : List Char} (solid : isBlank c = false)
    (different : c ≠ 'p') : packageClause? (c :: cs) = none := by
  have start : "package".toList = 'p' :: "ackage".toList := rfl
  simp [packageClause?, dropBlanks_of_solid solid, start, dropWord?, Ne.symm different]

theorem packageClause?_lineFeed (cs : List Char) :
    packageClause? ('\n' :: cs) = packageClause? cs := by
  rw [packageClause?, packageClause?, List.dropWhile_cons, if_pos (by decide)]

theorem packageClause?_blanks {blanks : List Char} (blank : ∀ c ∈ blanks, isBlank c = true)
    (cs : List Char) : packageClause? (blanks ++ cs) = packageClause? cs := by
  rw [packageClause?, packageClause?, List.dropWhile_append_of_pos blank]

theorem isClauseChar_of_packageClause? {cs name rest : List Char} {next : Bool}
    (found : packageClause? cs = some (name, next, rest)) : ∀ c ∈ name, isClauseChar c = true := by
  obtain ⟨behind, -, found⟩ := Option.bind_eq_some_iff.mp found
  obtain ⟨front, -, found⟩ := Option.bind_eq_some_iff.mp found
  dsimp only at found
  split at found
  · cases found
  · obtain ⟨ending, -, found⟩ := Option.bind_eq_some_iff.mp found
    cases found
    exact List.all_eq_true.mp List.all_takeWhile

/-- Every character of joined parts is one of a part or a dot. -/
theorem of_mem_intercalate {parts : List (List Char)} (member : c ∈ ['.'].intercalate parts) :
    c = '.' ∨ ∃ part ∈ parts, c ∈ part := by
  induction parts with
  | nil => cases member
  | cons part parts ih =>
    cases parts with
    | nil => exact .inr ⟨part, List.mem_cons_self, by simpa using member⟩
    | cons next parts =>
      rw [List.intercalate_cons_cons, List.mem_append, List.mem_append, List.mem_singleton]
        at member
      rcases member with (here | dot) | there
      · exact .inr ⟨part, List.mem_cons_self, here⟩
      · exact .inl dot
      · rcases ih there with dot | ⟨other, among, inside⟩
        · exact .inl dot
        · exact .inr ⟨other, List.mem_cons_of_mem _ among, inside⟩

theorem mem_intercalate {parts : List (List Char)} {part : List Char} (among : part ∈ parts)
    (inside : c ∈ part) : c ∈ ['.'].intercalate parts := by
  induction parts with
  | nil => cases among
  | cons first parts ih =>
    cases parts with
    | nil =>
      rw [List.mem_singleton] at among
      simpa [among] using inside
    | cons next parts =>
      rw [List.intercalate_cons_cons, List.mem_append, List.mem_append]
      rcases List.mem_cons.mp among with rfl | among
      · exact .inl (.inl inside)
      · exact .inr (ih among)

/-- The packages that are found are spelled by characters that the scan knows. -/
theorem isClauseChar_of_mem_packageOf {source : List Char} (member : c ∈ packageOf source) :
    isClauseChar c = true := by
  rcases of_mem_intercalate member with rfl | ⟨name, among, inside⟩
  · decide
  · have each : ∀ name ∈ findAll packageClause? source.length true source,
        ∀ c ∈ name, isClauseChar c = true :=
      findAll_forall (fun _ _ _ _ => isClauseChar_of_packageClause?) _ _ _
    exact each name among c inside

end Packages

section Types

variable {type text cs gap : List Char}

/-- Whether a character may stand in the name of a type, as the scan knows it. -/
def isTypeChar (c : Char) : Bool := isWordChar c || c == '$'

theorem isBlank_of_isTypeChar {c : Char} (known : isTypeChar c = true) : isBlank c = false := by
  rw [isTypeChar, Bool.or_eq_true, beq_iff_eq] at known
  rcases known with word | rfl
  · exact isBlank_of_isWordChar word
  · decide

/-- Any number of modifiers, each with white space behind it. -/
inductive Modified : List Char → Prop
  | nil : Modified []
  | cons {word : String} {gap more : List Char} : word ∈ modifiers → IsGap gap → Modified more →
      Modified (word.toList ++ (gap ++ more))

theorem dropModifiers_of_other (other : ∀ word ∈ modifiers, headWord cs ≠ word.toList)
    (limit : Nat) : dropModifiers limit cs = cs := by
  cases limit with
  | zero => rfl
  | succ limit => rw [dropModifiers, dropOneOf?_eq_none solid_modifiers other]

theorem Modified.head {front : List Char} (modified : Modified front)
    (solid : ∀ c, cs.head? = some c → isBlank c = false) :
    ∀ c, (front ++ cs).head? = some c → isBlank c = false := by
  cases modified with
  | nil => exact solid
  | cons among _ _ =>
    rw [List.append_assoc]
    exact solid_modifiers.head among

/-- The first word of a declaration is a modifier or its keyword. -/
theorem firstWord_of_modified {front : List Char} (modified : Modified front) {keyword : String}
    (among : keyword ∈ typeKeywords) (isGap : IsGap gap) (rest : List Char) :
    ∃ word ∈ modifiers ++ typeKeywords,
      firstWord (front ++ (keyword.toList ++ (gap ++ rest))) = word.toList := by
  cases modified with
  | nil =>
    exact ⟨keyword, List.mem_append_right _ among,
      firstWord_of_gap solid_typeKeywords among isGap rest⟩
  | @cons word gap more modifier isGap =>
    refine ⟨word, List.mem_append_left _ modifier, ?_⟩
    rw [List.append_assoc, List.append_assoc]
    exact firstWord_of_gap solid_modifiers modifier isGap _

/-- All modifiers in front of a declaration are dropped. -/
theorem dropModifiers_of_modified {front : List Char} (modified : Modified front)
    (solid : ∀ c, cs.head? = some c → isBlank c = false)
    (other : ∀ word ∈ modifiers, headWord cs ≠ word.toList) {limit : Nat}
    (enough : front.length ≤ limit) : dropModifiers limit (front ++ cs) = cs := by
  induction modified generalizing limit with
  | nil => exact dropModifiers_of_other other limit
  | @cons word gap more among isGap modified ih =>
    have long : 0 < gap.length := List.length_pos_iff.mpr isGap.1
    simp only [List.length_append] at enough
    obtain ⟨limit, rfl⟩ : ∃ less, limit = less + 1 := by
      exact Nat.exists_eq_add_one.mpr (by omega)
    rw [List.append_assoc, List.append_assoc, dropModifiers,
      dropOneOf?_of_gap solid_modifiers among isGap (modified.head solid)]
    exact ih (by omega)

/-- A declaration begins with a modifier or with its keyword. -/
theorem typeDeclaration?_of_other
    (other : ∀ word ∈ modifiers ++ typeKeywords, headWord cs ≠ word.toList) :
    typeDeclaration? cs = none := by
  obtain ⟨noModifier, noKeyword⟩ := List.forall_mem_append.mp other
  rw [typeDeclaration?, dropModifiers_of_other noModifier,
    dropOneOf?_eq_none solid_typeKeywords noKeyword]
  rfl

theorem typeDeclaration?_lineFeed (cs : List Char) : typeDeclaration? ('\n' :: cs) = none := by
  have other : ∀ word ∈ modifiers ++ typeKeywords, [] ≠ word.toList := by decide
  exact typeDeclaration?_of_other other

/-- A type is found behind its modifiers and its keyword, up to what cannot stand in its name. -/
theorem typeDeclaration?_of_modified {front : List Char} {keyword : String}
    (modified : Modified front) (among : keyword ∈ typeKeywords) (isGap : IsGap gap)
    (named : type ≠ []) (known : ∀ c ∈ type, isTypeChar c = true)
    (stop : ∀ c, text.head? = some c → isTypeChar c = false) :
    typeDeclaration? (front ++ (keyword.toList ++ (gap ++ (type ++ text)))) =
      some (type, false, text) := by
  have solid : ∀ c, (type ++ text).head? = some c → isBlank c = false := by
    obtain ⟨first, others, rfl⟩ := List.exists_cons_of_ne_nil named
    rintro c ⟨⟩
    exact isBlank_of_isTypeChar (known first List.mem_cons_self)
  have noModifier : ∀ word ∈ modifiers,
      headWord (keyword.toList ++ (gap ++ (type ++ text))) ≠ word.toList := by
    have apart : ∀ keyword ∈ typeKeywords, ∀ word ∈ modifiers, keyword.toList ≠ word.toList := by
      decide
    rw [headWord_append (solid_typeKeywords keyword among).2 isGap.head]
    exact apart keyword among
  have dropped : dropModifiers (front ++ (keyword.toList ++ (gap ++ (type ++ text)))).length
      (front ++ (keyword.toList ++ (gap ++ (type ++ text)))) =
        keyword.toList ++ (gap ++ (type ++ text)) := by
    apply dropModifiers_of_modified modified (solid_typeKeywords.head among) noModifier
    rw [List.length_append]
    omega
  obtain ⟨taken, left⟩ := takeWhile_append_stop known stop
  have nameChar : isTypeChar = fun c => isWordChar c || c == '$' := rfl
  rw [nameChar] at taken left
  rw [typeDeclaration?, dropped, dropOneOf?_of_gap solid_typeKeywords among isGap solid]
  simp only [Option.bind_eq_bind, Option.bind_some, taken, left]
  simp [named]

theorem isTypeChar_of_typeDeclaration? {name rest : List Char} {next : Bool}
    (found : typeDeclaration? cs = some (name, next, rest)) : ∀ c ∈ name, isTypeChar c = true := by
  obtain ⟨behind, -, found⟩ := Option.bind_eq_some_iff.mp found
  dsimp only at found
  split at found
  · cases found
  · cases found
    exact List.all_eq_true.mp List.all_takeWhile

/-- The types that are found are spelled by characters that the scan knows. -/
theorem isTypeChar_of_mem_typesOf {source : List Char} (among : type ∈ typesOf source) :
    ∀ c ∈ type, isTypeChar c = true := by
  have each : ∀ name ∈ findAll typeDeclaration? source.length true source,
      ∀ c ∈ name, isTypeChar c = true :=
    findAll_forall (fun _ _ _ _ => isTypeChar_of_typeDeclaration?) _ _ _
  exact each type among

/-- No white space is in the name of a type that is found. -/
theorem isBlank_of_mem_qualifiedTypes {source : List Char} {name : String}
    (among : name ∈ qualifiedTypes source) : ∀ c ∈ name.toList, isBlank c = false := by
  obtain ⟨type, found, rfl⟩ := List.mem_map.mp among
  intro c inside
  rw [String.toList_ofList, List.mem_append] at inside
  rcases inside with package | type
  · split at package
    · cases package
    · rcases List.mem_append.mp package with package | dot
      · exact isBlank_of_isClauseChar (isClauseChar_of_mem_packageOf package)
      · rw [List.mem_singleton.mp dot]
        decide
  · exact isBlank_of_isTypeChar (isTypeChar_of_mem_typesOf found c type)

end Types

end Scaffold.Scala.Declaration

import Scaffold.Proofs.Scala.DeclarationHead
import Scaffold.Proofs.Scala.LinePlace
import Scaffold.Proofs.Scala.NameToken

/-!
# Declarations as tokens

The scan of sources by lines, which knows no tokens, compared with the tokens of the source.  A type
that it finds at the margin is the one that a keyword declares, but for three things: it looks into
comments and strings, it leaves out operator characters behind a final underscore, and it takes
reserved words and numbers for names.
-/

namespace Scaffold.Scala.Declaration

open Text

section Words

variable {gap rest : List Char} {word : String} {start : Nat}

theorem gap_of_blanks (blank : ∀ c ∈ gap, isBlank c = true) : Gap rest gap := by
  induction gap with
  | nil => exact .nil
  | cons c gap ih =>
    obtain ⟨first, others⟩ := List.forall_mem_cons.mp blank
    exact .blank first (ih others)

theorem IsGap.endsName (isGap : IsGap gap) (rest : List Char) : EndsName (gap ++ rest) := by
  intro c head
  have blank := isGap.head c head
  exact ⟨isIdentPart_of_isBlank blank, isOperatorChar_of_isBlank blank⟩

/-- The words at the head of a declaration are reserved ones. -/
theorem wordKind_of_head : ∀ word ∈ modifiers ++ typeKeywords,
    isPlainName word.toList = true ∧ wordKind word.toList = .keyword := by decide +kernel

theorem tokenizeFrom_head (among : word ∈ modifiers ++ typeKeywords) (isGap : IsGap gap) :
    tokenizeFrom start (word.toList ++ (gap ++ rest)) =
      (tokenizeFrom (start + (word.toList ++ gap).length) rest).map
        (⟨.keyword, word.toList, start⟩ :: ·) := by
  obtain ⟨plain, reserved⟩ := wordKind_of_head word among
  obtain ⟨c, cs, spelled, first, part⟩ := exists_of_isPlainName plain
  have cut := cutToken_word first part (isGap.endsName rest)
  rw [← spelled, reserved] at cut
  have begins : start + ((c :: (cs ++ (gap ++ rest))).length - ((cs ++ (gap ++ rest)).length + 1)) =
      start := by simp
  have skipped := skipGap_start first (cs ++ (gap ++ rest))
  have onward : start + word.toList.length + gap.length = start + (word.toList ++ gap).length := by
    rw [List.length_append, Nat.add_assoc]
  have whole : word.toList ++ (gap ++ rest) = c :: (cs ++ (gap ++ rest)) := by
    rw [spelled, List.cons_append]
  rw [← onward, ← tokenizeFrom_gap (gap_of_blanks isGap.2), whole,
    tokenizeFrom_of_token skipped cut, begins]

end Words

section Declared

variable {name front gap rest source : List Char} {start offset : Nat} {tokens : List Token}

/-- The reserved word `class`, `trait` or `object` stands directly in front of a token that begins
    at the offset and has the name. -/
def Declared (tokens : List Token) (name : List Char) (offset : Nat) : Prop :=
  ∃ keyword declared, (keyword, declared) ∈ tokens.zip tokens.tail ∧ keyword.kind = .keyword ∧
    keyword.text ∈ typeKeywords.map String.toList ∧ declared.offset = offset ∧
    Spelled name declared.kind declared.text

theorem Declared.behind (declares : Declared tokens name offset) (t : Token) :
    Declared (t :: tokens) name offset := by
  obtain ⟨keyword, declared, member, properties⟩ := declares
  refine ⟨keyword, declared, ?_, properties⟩
  cases tokens with
  | nil => cases member
  | cons next tokens => exact List.mem_cons_of_mem _ member

theorem Declared.append (declares : Declared tokens name offset) (body : List Token) :
    Declared (body ++ tokens) name offset := by
  induction body with
  | nil => exact declares
  | cons t body ih => exact ih.behind t

/-- Where a declaration is read as tokens, its name is declared. -/
theorem declared_of_tokenizeFrom {head : List Char} (isHead : Head head) (named : name ≠ [])
    (known : ∀ c ∈ name, isTypeChar c = true)
    (stop : ∀ c, rest.head? = some c → isTypeChar c = false)
    (read : tokenizeFrom start (head ++ (name ++ rest)) = .ok tokens) :
    Declared tokens name (start + head.length) := by
  obtain @⟨front, gap, keyword, modified, among, isGap⟩ := isHead
  induction modified generalizing start tokens with
  | nil =>
    rw [List.nil_append] at read ⊢
    rw [List.append_assoc, tokenizeFrom_head (List.mem_append_right _ among) isGap] at read
    obtain ⟨more, tail, rfl⟩ := map_eq_ok.mp read
    obtain ⟨t, others, rfl, offset, spelled⟩ := spelled_of_tokenizeFrom named known stop tail
    exact ⟨_, t, List.mem_cons_self, rfl, List.mem_map_of_mem among, offset, spelled⟩
  | @cons word blanks more modifier isBlanks _ ih =>
    have onward : word.toList ++ (blanks ++ more) ++ (keyword.toList ++ gap) ++ (name ++ rest) =
        word.toList ++ (blanks ++ (more ++ (keyword.toList ++ gap) ++ (name ++ rest))) := by simp
    rw [onward, tokenizeFrom_head (List.mem_append_left _ modifier) isBlanks] at read
    obtain ⟨others, tail, rfl⟩ := map_eq_ok.mp read
    have declares := (ih tail).behind ⟨.keyword, word.toList, start⟩
    have place : start + (word.toList ++ blanks).length + (more ++ (keyword.toList ++ gap)).length =
        start + (word.toList ++ (blanks ++ more) ++ (keyword.toList ++ gap)).length := by
      simp only [List.length_append]
      omega
    rwa [place] at declares

/-- Where the scan finds a qualified name: its last part stands behind the head of a declaration
    at the beginning of a line, up to what cannot go on with it. -/
structure FoundAt (source : List Char) (qualified : String) (before head name : List Char) :
    Prop where
  last : ∃ package, qualified.toList = package ++ name ∧
    (package = [] ∨ package.getLast? = some '.')
  undotted : '.' ∉ name
  margin : endsLine true before = true
  isHead : Head head
  named : name ≠ []
  known : ∀ c ∈ name, isTypeChar c = true
  whole : ∃ rest, source = before ++ (head ++ (name ++ rest)) ∧
    ∀ c, rest.head? = some c → isTypeChar c = false

theorem foundAt_of_mem_qualifiedTypes {qualified : String}
    (member : qualified ∈ qualifiedTypes source) :
    ∃ before head name, FoundAt source qualified before head name := by
  obtain ⟨name, among, rfl⟩ := List.mem_map.mp member
  have each : ∀ cs name next rest, typeDeclaration? cs = some (name, next, rest) →
      next = false ∧ ∃ taken, cs = taken ++ rest := by
    intro cs name next rest found
    obtain ⟨inside, head, rfl, -⟩ := typeDeclaration?_sound found
    exact ⟨inside, head ++ name, (List.append_assoc _ _ _).symm⟩
  obtain ⟨before, behind, next, rest, rfl, margin, found⟩ := place_of_mem_findAll each among
  obtain ⟨-, head, rfl, isHead, named, known, stop⟩ := typeDeclaration?_sound found
  refine ⟨before, head, name, ⟨_, String.toList_ofList, ?_⟩, ?_, margin, isHead, named, known,
    rest, rfl, stop⟩
  · split
    · exact .inl rfl
    · exact .inr List.getLast?_concat
  · intro dot
    exact not_mem_marks_of_isTypeChar (known '.' dot) (by decide)

/-- The head of a declaration consists of words and white space. -/
theorem Head.char {head : List Char} (isHead : Head head) :
    ∀ c ∈ head, isBlank c = true ∨ isTypeChar c = true := by
  have word : ∀ word ∈ modifiers ++ typeKeywords, ∀ c ∈ word.toList,
      isBlank c = true ∨ isTypeChar c = true := by
    intro word among c inside
    have part := isIdentPart_of_isPlainName (wordKind_of_head word among).1 c inside
    exact .inr (isTypeChar_of_isIdentPart part)
  obtain @⟨front, gap, keyword, modified, among, isGap⟩ := isHead
  have last : ∀ c ∈ keyword.toList ++ gap, isBlank c = true ∨ isTypeChar c = true :=
    List.forall_mem_append.mpr ⟨word keyword (List.mem_append_right _ among),
      fun c inside => .inl (isGap.2 c inside)⟩
  refine List.forall_mem_append.mpr ⟨?_, last⟩
  induction modified with
  | nil => exact List.forall_mem_nil _
  | cons among isGap _ ih =>
    refine List.forall_mem_append.mpr ⟨word _ (List.mem_append_left _ among), ?_⟩
    exact List.forall_mem_append.mpr ⟨fun c inside => .inl (isGap.2 c inside), ih⟩

/-- No slash and no quote stands in a declaration. -/
theorem FoundAt.absent {qualified : String} {before head : List Char}
    (found : FoundAt source qualified before head name) {mark : Char}
    (among : mark ∈ '/' :: marks) : mark ∉ head ++ name := by
  obtain ⟨noBlank, noType⟩ := apart_of_mem_marks among
  intro inside
  rcases List.mem_append.mp inside with inside | inside
  · rcases found.isHead.char mark inside with blank | known
    · cases noBlank.symm.trans blank
    · cases noType.symm.trans known
  · cases noType.symm.trans (found.known mark inside)

/-- A keyword that declares types stands directly in front of an identifier that is the name. -/
def DeclaresExactly (tokens : List Token) (name : List Char) : Prop :=
  ∃ pair ∈ tokens.zip tokens.tail, pair.1.kind = .keyword ∧
    pair.1.text ∈ typeKeywords.map String.toList ∧ pair.2.kind.isIdentifier = true ∧
    pair.2.text = name

instance (tokens : List Token) (name : List Char) : Decidable (DeclaresExactly tokens name) :=
  inferInstanceAs (Decidable (∃ pair ∈ tokens.zip tokens.tail, _))

/-- A name is found in a source that can be read, though nothing declares it there. -/
def Overread (source name : String) : Prop :=
  name ∈ qualifiedTypes source.toList ∧
    ∃ tokens, tokenize source.toList = .ok tokens ∧ ¬ DeclaresExactly tokens name.toList

theorem overread_of_toOption {source name : String}
    (found : name ∈ qualifiedTypes source.toList)
    (readable : (tokenize source.toList).toOption.isSome = true)
    (undeclared : ∀ tokens ∈ (tokenize source.toList).toOption,
      ¬ DeclaresExactly tokens name.toList) : Overread source name := by
  cases read : tokenize source.toList with
  | error fault =>
    rw [read] at readable
    cases readable
  | ok tokens =>
    rw [read] at undeclared
    exact ⟨found, tokens, read, undeclared tokens rfl⟩

end Declared

end Scaffold.Scala.Declaration

import Scaffold.Proofs.Scala.Lexeme
import Scaffold.Proofs.Template.SourceText
import Scaffold.Scala.Declaration

/-!
# How new source files are read

The tokens of a new source file spell the name that it was made for: a package clause with the
segments of the package, and the type behind the keyword that declares it.  Package segments are
Java identifiers, which hold characters that stand in no Scala name, so that this is so exactly if
there are no such characters in the package.
-/

namespace Scaffold.Template

open Files Text Scala QualifiedName Declaration

variable {frame : String × String} {package : List (List Char)} {type : List Char}
  {rest : List Char}

/-- The lexemes are the clause of a package, or nothing if there is no package. -/
inductive SpellsPackage : (package : List (List Char)) → List Lexeme → Prop
  | absent : SpellsPackage [] []
  | clause {names : List Lexeme} : names ≠ [] → (∀ name ∈ names, name.1.isIdentifier = true) →
      SpellsPackage (names.map Prod.snd)
        ((.keyword, "package".toList) :: names.intersperse (.dot, ['.']))

/-- The lexemes begin with the clause of the package of a name.  Keywords follow, the last of which
    declares the identifier behind it, and that is what the type of the name is read as. -/
def SpellsOut (name : List Char) (lexemes : List Lexeme) : Prop :=
  ∃ (clause modifiers : List Lexeme) (keyword : String) (type : Lexeme) (others : List Lexeme),
    lexemes = clause ++ (modifiers ++ (.keyword, keyword.toList) :: type :: others) ∧
      SpellsPackage (packageSegments name) clause ∧
      (∀ modifier ∈ modifiers, modifier.1 = .keyword ∧
        ∀ word ∈ typeKeywords, modifier.2 ≠ word.toList) ∧
      keyword ∈ typeKeywords ∧ type.1.isIdentifier = true ∧
      lexemesOf (typeSegment name) = .ok [type, (.endOfText, [])]

section Package

/-- A dot before no digit is read by itself. -/
theorem lexes_dot (noDigit : ∀ c, rest.head? = some c → isDigit c = false) :
    Lexes ('.' :: rest) [(.dot, ['.'])] rest := by
  have noNumber : startsNumber '.' rest = false := by
    cases rest with
    | nil => rfl
    | cons c rest =>
      have dot : isDigit '.' = false := by decide
      simp [startsNumber, dot, noDigit c rfl]
  have cut : cutToken '.' rest = .ok (.dot, ['.'], rest) := by
    rw [cutToken, if_neg (by decide), if_neg (by decide), noNumber,
      if_neg Bool.false_ne_true, if_neg (by decide), if_neg (by decide)]
    rfl
  exact .token (skipGap_token (by decide) fun slash => absurd slash (by decide)) cut .done

/-- Plain names with dots between them are read as such. -/
theorem lexes_intercalate (packaged : package ≠ [])
    (plain : ∀ segment ∈ package, isPlainName segment = true) (ends : EndsName rest) :
    Lexes (['.'].intercalate package ++ rest)
      ((package.map wordLexeme).intersperse (.dot, ['.'])) rest := by
  induction package with
  | nil => exact absurd rfl packaged
  | cons segment package ih =>
    obtain ⟨first, others⟩ := List.forall_mem_cons.mp plain
    cases package with
    | nil => simpa using lexes_word first ends
    | cons next package =>
      have noDigit : ∀ c, (['.'].intercalate (next :: package) ++ rest).head? = some c →
          isDigit c = false := by
        obtain ⟨c, cs, rfl, start, -⟩ := exists_of_isPlainName (others next List.mem_cons_self)
        intro d head
        have same : c = d := by
          cases package <;> simpa [List.intercalate_cons_cons] using head
        exact same ▸ isDigit_of_isIdentStart start
      have dotEnds : EndsName ('.' :: (['.'].intercalate (next :: package) ++ rest)) :=
        endsName_cons (by decide) (by decide)
      rw [List.intercalate_cons_cons, List.append_assoc, List.append_assoc]
      exact (lexes_word first dotEnds).trans
        ((lexes_dot noDigit).trans (ih (List.cons_ne_nil _ _) others))

theorem lexes_keyword {word : List Char} (plain : isPlainName word = true)
    (known : isScalaKeyword word = true) (cs : List Char) :
    Lexes (word ++ ' ' :: cs) [(.keyword, word)] cs := by
  have kind : wordLexeme word = (.keyword, word) := by
    rw [wordLexeme, wordKind.eq_def, if_pos known]
  have ends : EndsName (' ' :: cs) := endsName_cons (by decide) (by decide)
  have read := lexes_word plain ends
  rw [kind] at read
  exact read.trans (.blank (by decide) .done)

/-- A package of plain names that Scala does not reserve is read as a package clause. -/
theorem lexes_packageHead (plain : ∀ segment ∈ package, isPlainName segment = true)
    (free : ∀ segment ∈ package, isScalaKeyword segment = false) :
    ∃ clause, SpellsPackage package clause ∧
      ∀ rest, Lexes (packageHead package ++ rest) clause rest := by
  by_cases bare : package = []
  · subst bare
    exact ⟨[], .absent, fun rest => .done⟩
  have identifiers : ∀ name ∈ package.map wordLexeme, name.1.isIdentifier = true := by
    intro name member
    obtain ⟨segment, among, rfl⟩ := List.mem_map.mp member
    exact isIdentifier_wordKind (free segment among)
  have spells := SpellsPackage.clause (by simpa using bare) identifiers
  have texts : (package.map wordLexeme).map Prod.snd = package := by
    rw [List.map_map]
    exact List.map_id package
  rw [texts] at spells
  refine ⟨_, spells, fun rest => ?_⟩
  have ends : EndsName ('\n' :: '\n' :: rest) :=
    endsName_cons (by decide) (by decide)
  have whole : packageHead package ++ rest =
      "package".toList ++ ' ' :: (['.'].intercalate package ++ '\n' :: '\n' :: rest) := by
    unfold packageHead packageClause
    rw [if_neg bare]
    simp only [String.reduceToList, List.append_assoc, List.cons_append, List.nil_append]
  have read := (lexes_intercalate bare plain ends).trans
    (.blank (by decide) (.blank (by decide) .done))
  rw [List.append_nil] at read
  rw [whole]
  exact (lexes_keyword (by decide) (by decide) _).trans read

/-- A package segment that is made of the characters of names is one: no Java identifier begins with
    a digit. -/
theorem isPlainName_of_isPackageIdent {segment : List Char} (valid : isPackageIdent segment = true)
    (part : ∀ c ∈ segment, isIdentPart c = true) : isPlainName segment = true := by
  rw [isPackageIdent, Bool.and_eq_true] at valid
  cases segment with
  | nil => cases valid.1
  | cons c cs =>
    have start : isJavaStart c = true := by
      rw [isJavaIdent, Bool.and_eq_true] at valid
      exact valid.1.1
    obtain ⟨first, others⟩ := List.forall_mem_cons.mp part
    rw [isPlainName, Bool.and_eq_true, List.all_eq_true]
    refine ⟨?_, others⟩
    rw [isIdentPart, Bool.or_eq_true, beq_iff_eq] at first
    rcases first with first | digit
    · exact first
    · simp [isJavaStart, digit, Category.isLetter] at start

theorem isScalaKeyword_of_isPackageIdent {segment : List Char}
    (valid : isPackageIdent segment = true) : isScalaKeyword segment = false := by
  simp only [isPackageIdent, Bool.and_eq_true, Bool.not_eq_true', Bool.or_eq_false_iff] at valid
  exact valid.2.1

end Package

section Frame

/-- The opening text of a frame is read as keywords, the last of which declares a type. -/
theorem lexes_opening (framed : frame ∈ frames) :
    ∃ (modifiers : List Lexeme) (keyword : String), (∀ modifier ∈ modifiers,
        modifier.1 = .keyword ∧ ∀ word ∈ typeKeywords, modifier.2 ≠ word.toList) ∧
      keyword ∈ typeKeywords ∧
      ∀ rest, Lexes (frame.1.toList ++ rest) (modifiers ++ [(.keyword, keyword.toList)]) rest := by
  have keyword : ∀ word ∈ ["final", "case", "class", "object", "trait"], ∀ rest,
      Lexes (word.toList ++ ' ' :: rest) [(.keyword, word.toList)] rest := by
    intro word among
    have known : ∀ word ∈ ["final", "case", "class", "object", "trait"],
        isPlainName word.toList = true ∧ isScalaKeyword word.toList = true := by decide +kernel
    exact lexes_keyword (known word among).1 (known word among).2
  simp only [frames, List.mem_cons, List.mem_nil_iff, or_false] at framed
  rcases framed with rfl | rfl | rfl | rfl | rfl
  · exact ⟨[], "object", by simp, by decide, keyword "object" (by decide)⟩
  · refine ⟨[(.keyword, "final".toList), (.keyword, "case".toList)], "class", by decide, by decide,
      fun rest => ?_⟩
    exact (keyword "final" (by decide) _).trans
      ((keyword "case" (by decide) _).trans (keyword "class" (by decide) rest))
  · exact ⟨[], "class", by simp, by decide, keyword "class" (by decide)⟩
  · exact ⟨[], "object", by simp, by decide, keyword "object" (by decide)⟩
  · exact ⟨[], "trait", by simp, by decide, keyword "trait" (by decide)⟩

/-- The closing text of a frame can be read, and a name ends before it. -/
theorem lexemesOf_closing (framed : frame ∈ frames) :
    (∃ lexemes, lexemesOf frame.2.toList = .ok lexemes) ∧ EndsName frame.2.toList := by
  have readable : ∀ frame ∈ frames, (lexemesOf frame.2.toList).isOk = true := by decide +kernel
  refine ⟨?_, ?_⟩
  · have readable := readable frame framed
    cases read : lexemesOf frame.2.toList with
    | error fault =>
      rw [read] at readable
      cases readable
    | ok lexemes => exact ⟨lexemes, rfl⟩
  · simp only [frames, List.mem_cons, List.mem_nil_iff, or_false] at framed
    rcases framed with rfl | rfl | rfl | rfl | rfl <;>
      exact endsName_cons (by decide) (by decide)

/-- The text of a source file spells the name out, if its package is made of the characters of
    names. -/
theorem spellsOut_sourceText {name : List Char} (framed : frame ∈ frames)
    (spelled : Spells package type name) (noSlash : '/' ∉ type)
    (part : ∀ segment ∈ package, ∀ c ∈ segment, isIdentPart c = true) :
    ∃ lexemes, lexemesOf (sourceText package type frame) = .ok lexemes ∧
      SpellsOut name lexemes := by
  obtain ⟨clause, spells, readClause⟩ := lexes_packageHead
    (fun segment among =>
      isPlainName_of_isPackageIdent (spelled.packageValid segment among) (part segment among))
    (fun segment among => isScalaKeyword_of_isPackageIdent (spelled.packageValid segment among))
  obtain ⟨modifiers, keyword, others, declares, readOpening⟩ := lexes_opening framed
  obtain ⟨lexeme, identifier, readType⟩ := lexes_of_isTypeIdent spelled.typeValid noSlash
  obtain ⟨⟨left, readClosing⟩, ends⟩ := lexemesOf_closing framed
  have read : Lexes (sourceText package type frame)
      (clause ++ (modifiers ++ [(.keyword, keyword.toList)] ++ [lexeme])) frame.2.toList :=
    (readClause _).trans ((readOpening _).trans (readType _ ends))
  have single : lexemesOf type = .ok [lexeme, (.endOfText, [])] := by
    have alone := (readType [] nofun).readsAs readsAs_nil
    rw [List.append_nil] at alone
    exact lexemesOf_eq_ok.mpr alone
  refine ⟨_, lexemesOf_eq_ok.mpr (read.readsAs (lexemesOf_eq_ok.mp readClosing)), clause, modifiers,
    keyword, lexeme, left, by simp, ?_, others, declares, identifier, ?_⟩
  · rw [spelled.packageSegments_eq]
    exact spells
  · rw [spelled.typeSegment_eq]
    exact single

theorem mem_intersperse {α : Type} {x : α} {xs : List α} (member : x ∈ xs) (separator : α) :
    x ∈ xs.intersperse separator := by
  obtain ⟨i, found⟩ := List.mem_iff_getElem?.mp member
  exact List.mem_iff_getElem?.mpr ⟨2 * i, by rw [List.getElem?_intersperse_two_mul, found]⟩

/-- A text that is read as a name with valid package segments has only characters of names in
    them. -/
theorem isIdentPart_of_spellsOut {source name : List Char} {lexemes : List Lexeme}
    (read : lexemesOf source = .ok lexemes) (out : SpellsOut name lexemes)
    (valid : ∀ segment ∈ packageSegments name, isPackageIdent segment = true) :
    ∀ segment ∈ packageSegments name, ∀ c ∈ segment, isIdentPart c = true := by
  have spelling := lexemesOf_forall (p := fun lexeme => lexeme.1.isIdentifier = true →
      lexeme.2.head? = some '\x60' ∨ ∀ d ∈ lexeme.2, isIdentPart d = true ∨ isOperatorChar d = true)
    nofun (fun _ _ _ _ _ => char_of_identifier) read
  obtain ⟨clause, modifiers, keyword, type, others, rfl, spells, -⟩ := out
  generalize packageSegments name = package at valid spells
  cases spells with
  | absent => nofun
  | @clause names _ identifiers =>
    intro segment among c inside
    obtain ⟨lexeme, named, rfl⟩ := List.mem_map.mp among
    have java : ∀ d ∈ lexeme.2, isJavaPart d = true := fun d => isJavaPart_of_mem (valid _ among)
    have member := List.mem_cons_of_mem (TokenKind.keyword, "package".toList)
      (mem_intersperse named (TokenKind.dot, ['.']))
    rcases spelling lexeme (List.mem_append_left _ member) (identifiers lexeme named) with
      quoted | chars
    · have mark := java _ (List.mem_of_head? quoted)
      rw [isJavaPart_quote] at mark
      cases mark
    · rcases chars c inside with part | operator
      · exact part
      · rw [isOperatorChar_of_isJavaPart (java c inside)] at operator
        cases operator

end Frame

/-- A built-in kind of file that no file of the project replaces is rendered for an accepted name
    without slashes.  The text is read as the name if and only if all characters of its package may
    stand in Scala names: a package segment is any Java identifier, and the other characters of
    these are read as something else or make the text unreadable. -/
theorem lexemesOf_render {store : Store} {disk : Disk} {kind name : String}
    (packaged : store.Packages disk kind) (accepted : nameObjection? name.toList = none)
    (noSlash : '/' ∉ name.toList) :
    ∃ text, (store.render disk kind (bindings name)).1 = .ok text ∧
      ((∃ lexemes, lexemesOf text.toList = .ok lexemes ∧ SpellsOut name.toList lexemes) ↔
        ∀ segment ∈ packageSegments name.toList, ∀ c ∈ segment, isIdentPart c = true) := by
  obtain ⟨frame, framed, rendered⟩ := packaged.render_accepted accepted
  have spelled := nameObjection?_eq_none.mp accepted
  have noSlashType : '/' ∉ typeSegment name.toList := by
    rw [spelled.whole] at noSlash
    exact fun member => noSlash (List.mem_append_right _ member)
  refine ⟨_, rendered, ?_⟩
  rw [String.toList_ofList]
  constructor
  · rintro ⟨lexemes, read, out⟩
    exact isIdentPart_of_spellsOut read out spelled.packageValid
  · exact spellsOut_sourceText framed spelled noSlashType

/-- A package of Scala names, and a type that is a word with an operator. -/
theorem lexemesOf_render_words :
    Store.builtInOnly.Packages ⟨.empty, []⟩ "trait" ∧ nameObjection? "a.$b.X_+".toList = none ∧
      '/' ∉ "a.$b.X_+".toList ∧
      ∃ text, (Store.builtInOnly.render ⟨.empty, []⟩ "trait" (bindings "a.$b.X_+")).1 = .ok text ∧
        ∃ lexemes, lexemesOf text.toList = .ok lexemes ∧ SpellsOut "a.$b.X_+".toList lexemes := by
  have packaged : Store.builtInOnly.Packages ⟨.empty, []⟩ "trait" :=
    Store.packages_builtInOnly _ (by decide +kernel)
  have accepted : nameObjection? "a.$b.X_+".toList = none := by decide +kernel
  have noSlash : '/' ∉ "a.$b.X_+".toList := by decide
  have words : ((packageSegments "a.$b.X_+".toList).all fun segment => segment.all isIdentPart) =
      true := by decide +kernel
  obtain ⟨text, rendered, spells⟩ := lexemesOf_render packaged accepted noSlash
  exact ⟨packaged, accepted, noSlash, text, rendered, spells.mpr fun segment among =>
    List.all_eq_true.mp (List.all_eq_true.mp words segment among)⟩

/-- A package that is a currency sign: the text cannot be read. -/
theorem lexemesOf_render_currency :
    Store.builtInOnly.Packages ⟨.empty, []⟩ "class" ∧ nameObjection? "€.A".toList = none ∧
      '/' ∉ "€.A".toList ∧ '\\' ∉ "€.A".toList ∧
      ∃ text, (Store.builtInOnly.render ⟨.empty, []⟩ "class" (bindings "€.A")).1 = .ok text ∧
        tokenize text.toList = .error ⟨.illegalCharacter '€', 8⟩ := by
  have packaged : Store.builtInOnly.Packages ⟨.empty, []⟩ "class" :=
    Store.packages_builtInOnly _ (by decide +kernel)
  have accepted : nameObjection? "€.A".toList = none := by decide +kernel
  have rendered : (Store.builtInOnly.render ⟨.empty, []⟩ "class" (bindings "€.A")).1.toOption =
      some "package €\n\nclass A \x7b\n\n\x7d\n" := by decide +kernel
  have read : tokenize "package €\n\nclass A \x7b\n\n\x7d\n".toList =
      .error ⟨.illegalCharacter '€', 8⟩ := by decide +kernel
  exact ⟨packaged, accepted, by decide, by decide, _, eq_ok_of_toOption rendered, read⟩

end Scaffold.Template

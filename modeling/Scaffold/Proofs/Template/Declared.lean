import Scaffold.Proofs.Scala.FirstWord
import Scaffold.Proofs.Template.SourceText

/-!
# What a scan finds in new source files

A new source file declares the type that it was made for, and a scan finds it there.  The scan finds
its package only if it knows the characters of the package.
-/

namespace Scaffold.Template

open Files Text Scala QualifiedName Declaration

variable {frame : String × String} {package : List (List Char)} {type : List Char}

theorem isTypeChar_of_isPlainName (plain : isPlainName type = true) :
    ∀ c ∈ type, isTypeChar c = true := by
  intro c member
  rw [isTypeChar, Bool.or_eq_true, beq_iff_eq]
  exact isWordChar_of_isIdentPart (isIdentPart_of_isPlainName plain c member)

/-- A frame opens with modifiers and the keyword of a declaration. -/
theorem exists_modified_of_frame (framed : frame ∈ frames) :
    ∃ front keyword, Modified front ∧ keyword ∈ typeKeywords ∧
      frame.1.toList = front ++ (keyword.toList ++ [' ']) := by
  have bare : ∀ keyword ∈ typeKeywords, ∀ opening : List Char,
      opening = keyword.toList ++ [' '] → ∃ front keyword, Modified front ∧
        keyword ∈ typeKeywords ∧ opening = front ++ (keyword.toList ++ [' ']) :=
    fun keyword among opening spelled => ⟨[], keyword, .nil, among, spelled⟩
  simp only [frames, List.mem_cons, List.mem_nil_iff, or_false] at framed
  rcases framed with rfl | rfl | rfl | rfl | rfl
  · exact bare "object" (by decide) _ rfl
  · have modified : Modified ("final".toList ++ ([' '] ++ ("case".toList ++ ([' '] ++ [])))) :=
      .cons (by decide) isGap_space (.cons (by decide) isGap_space .nil)
    exact ⟨_, "class", modified, by decide, rfl⟩
  · exact bare "class" (by decide) _ rfl
  · exact bare "object" (by decide) _ rfl
  · exact bare "trait" (by decide) _ rfl

theorem isTypeChar_of_closing (framed : frame ∈ frames) :
    ∀ c, frame.2.toList.head? = some c → isTypeChar c = false := by
  simp only [frames, List.mem_cons, List.mem_nil_iff, or_false] at framed
  rcases framed with rfl | rfl | rfl | rfl | rfl <;>
    · rintro _ ⟨⟩
      decide

/-- The type in a frame is found, with the closing text behind it. -/
theorem typeDeclaration?_of_frame (framed : frame ∈ frames) (plain : isPlainName type = true) :
    typeDeclaration? (frame.1.toList ++ (type ++ frame.2.toList)) =
      some (type, false, frame.2.toList) := by
  obtain ⟨front, keyword, modified, among, opening⟩ := exists_modified_of_frame framed
  obtain ⟨first, others, spelled, -⟩ := exists_of_isPlainName plain
  rw [opening, List.append_assoc, List.append_assoc]
  exact typeDeclaration?_of_modified modified among isGap_space
    (spelled ▸ List.cons_ne_nil first others) (isTypeChar_of_isPlainName plain)
    (isTypeChar_of_closing framed)

/-- Nothing is found in the closing text of a frame. -/
theorem quiet_of_closing (framed : frame ∈ frames) :
    Quiet typeDeclaration? false frame.2.toList [] ∧
      Quiet packageClause? false frame.2.toList [] := by
  simp only [frames, List.mem_cons, List.mem_nil_iff, or_false] at framed
  rcases framed with rfl | rfl | rfl | rfl | rfl <;>
    simp only [String.reduceToList] <;> decide

/-- The opening text of a frame is one line that begins with a keyword. -/
theorem opening_eq_cons (framed : frame ∈ frames) :
    ∃ c cs, frame.1.toList = c :: cs ∧ isBlank c = false ∧ c ≠ 'p' ∧ c ≠ ';' ∧ '\n' ∉ c :: cs := by
  simp only [frames, List.mem_cons, List.mem_nil_iff, or_false] at framed
  rcases framed with rfl | rfl | rfl | rfl | rfl <;>
    exact ⟨_, _, rfl, by decide⟩

theorem line_of_isPlainName (plain : isPlainName type = true) : '\n' ∉ type := by
  intro member
  have lineFeed : isIdentPart '\n' = false := by decide
  rw [isIdentPart_of_isPlainName plain _ member] at lineFeed
  cases lineFeed

theorem line_of_packages (valid : ∀ segment ∈ package, isPackageIdent segment = true) :
    '\n' ∉ ['.'].intercalate package := by
  intro member
  rcases of_mem_intercalate member with dot | ⟨segment, among, inside⟩
  · cases dot
  · exact not_mem_of_isPackageIdent (valid segment among) (by decide) inside

theorem packageHead_eq (packaged : package ≠ []) : packageHead package =
    'p' :: ("ackage ".toList ++ ['.'].intercalate package) ++ ['\n', '\n'] := by
  have word : "package ".toList = 'p' :: "ackage ".toList := by simp
  unfold packageHead packageClause
  rw [if_neg packaged, word]
  simp

theorem typeDeclaration?_package (cs : List Char) :
    typeDeclaration? ('p' :: ("ackage ".toList ++ cs)) = none := by
  have first : headWord ("package".toList ++ (' ' :: cs)) = "package".toList :=
    headWord_append isBlank_of_mem_package (by rintro c ⟨⟩; decide)
  have other : ∀ word ∈ modifiers ++ typeKeywords, "package".toList ≠ word.toList := by decide
  apply typeDeclaration?_of_other
  intro word among
  change headWord ("package".toList ++ (' ' :: cs)) ≠ _
  rw [first]
  exact other word among

/-- In front of the declaration no type is found, and it begins a line. -/
theorem quiet_of_packageHead (body : List Char)
    (valid : ∀ segment ∈ package, isPackageIdent segment = true) :
    Quiet typeDeclaration? true (packageHead package) body ∧
      endsLine true (packageHead package) = true := by
  by_cases bare : package = []
  · rw [packageHead, if_pos bare]
    exact ⟨trivial, rfl⟩
  have line : '\n' ∉ "ackage ".toList ++ ['.'].intercalate package := by
    have rest := line_of_packages valid
    simp [rest]
  have stays : endsLine true ('p' :: ("ackage ".toList ++ ['.'].intercalate package)) = false :=
    endsLine_of_line line
  rw [packageHead_eq bare, quiet_append, endsLine_append, stays]
  refine ⟨⟨?_, ?_⟩, rfl⟩
  · apply quiet_cons_of_line
    · rw [List.append_assoc]
      exact typeDeclaration?_package _
    · simpa using line
  · exact ⟨nofun, fun _ => typeDeclaration?_lineFeed _, trivial⟩

/-- The scan finds the type of a source file and no other. -/
theorem typesOf_sourceText (framed : frame ∈ frames) (plain : isPlainName type = true)
    (valid : ∀ segment ∈ package, isPackageIdent segment = true) :
    typesOf (sourceText package type frame) = [type] := by
  obtain ⟨quiet, begins⟩ :=
    quiet_of_packageHead (frame.1.toList ++ (type ++ frame.2.toList)) valid
  have found := typeDeclaration?_of_frame framed plain
  obtain ⟨c, cs, opening, -⟩ := opening_eq_cons framed
  rw [typesOf, sourceText, List.length_append, findAll_append _ quiet, begins]
  rw [opening, List.cons_append] at found ⊢
  rw [List.length_cons, findAll_find _ found, findAll_eq_nil (quiet_of_closing framed).1]

/-- From the declaration on no package is found. -/
theorem quiet_of_declaration (framed : frame ∈ frames) (plain : isPlainName type = true) :
    Quiet packageClause? true (frame.1.toList ++ (type ++ frame.2.toList)) [] := by
  obtain ⟨c, cs, opening, solid, different, -, line⟩ := opening_eq_cons framed
  have stays : endsLine true (c :: cs) = false := by
    obtain ⟨differs, line⟩ := List.ne_and_not_mem_of_not_mem_cons line
    have goesOn : (c == '\n') = false := by simpa using Ne.symm differs
    rw [endsLine, goesOn]
    exact endsLine_of_line line
  rw [opening, quiet_append, quiet_append, stays, endsLine_of_line (line_of_isPlainName plain)]
  exact ⟨quiet_cons_of_line (packageClause?_of_ne solid different) line,
    quiet_of_line (line_of_isPlainName plain), (quiet_of_closing framed).2⟩

/-- The scan finds no package where there is none. -/
theorem packageOf_sourceText_nil (framed : frame ∈ frames) (plain : isPlainName type = true) :
    packageOf (sourceText [] type frame) = [] := by
  have quiet := quiet_of_declaration framed plain
  rw [packageOf, sourceText, packageHead, if_pos rfl, List.nil_append, findAll_eq_nil quiet]
  rfl

/-- The scan finds the package of a source file, if it knows the characters of it. -/
theorem packageOf_sourceText (framed : frame ∈ frames) (plain : isPlainName type = true)
    (packaged : package ≠ []) (named : ['.'].intercalate package ≠ [])
    (known : ∀ c ∈ ['.'].intercalate package, isClauseChar c = true) :
    packageOf (sourceText package type frame) = ['.'].intercalate package := by
  have quiet := quiet_of_declaration framed plain
  obtain ⟨c, cs, opening, solid, different, noSemicolon, -⟩ := opening_eq_cons framed
  have clause : packageClause? ("package ".toList ++ (['.'].intercalate package ++
      '\n' :: '\n' :: c :: (cs ++ (type ++ frame.2.toList)))) =
        some (['.'].intercalate package, true, '\n' :: c :: (cs ++ (type ++ frame.2.toList))) :=
    packageClause?_of_clause named known solid noSemicolon
  rw [opening, List.cons_append] at quiet
  have nothing : Quiet packageClause? true ('\n' :: c :: (cs ++ (type ++ frame.2.toList))) [] := by
    refine ⟨fun _ => ?_, quiet⟩
    rw [packageClause?_lineFeed, List.append_nil]
    exact packageClause?_of_ne solid different
  have word : "package ".toList = 'p' :: "ackage ".toList := by simp
  have whole : sourceText package type frame = 'p' :: ("ackage ".toList ++
      (['.'].intercalate package ++ '\n' :: '\n' :: c :: (cs ++ (type ++ frame.2.toList)))) := by
    rw [sourceText, packageHead_eq packaged, opening]
    simp
  rw [word, List.cons_append] at clause
  rw [packageOf, whole, List.length_cons, findAll_find _ clause, findAll_eq_nil nothing]
  simp

/-- The scan finds the package exactly if it knows the characters of it. -/
theorem packageOf_sourceText_iff (framed : frame ∈ frames) (plain : isPlainName type = true)
    (packaged : package ≠ []) (valid : ∀ segment ∈ package, isPackageIdent segment = true) :
    packageOf (sourceText package type frame) = ['.'].intercalate package ↔
      ∀ segment ∈ package, ∀ c ∈ segment, isWordChar c = true := by
  constructor
  · intro found segment among c inside
    have known : isClauseChar c = true := by
      apply isClauseChar_of_mem_packageOf
      rw [found]
      exact mem_intercalate among inside
    rw [isClauseChar, Bool.or_eq_true, beq_iff_eq] at known
    rcases known with word | rfl
    · exact word
    · exact absurd inside (not_mem_of_isPackageIdent (valid segment among) isJavaPart_dot)
  · intro words
    have named : ['.'].intercalate package ≠ [] := fun empty => packaged
      ((intercalate_eq_nil fun segment among => ne_nil_of_isPackageIdent (valid segment among)).mp
        empty)
    apply packageOf_sourceText framed plain packaged named
    intro c member
    rcases of_mem_intercalate member with rfl | ⟨segment, among, inside⟩
    · decide
    · rw [isClauseChar, words segment among c inside, Bool.true_or]

/-- The scan finds exactly the type that a source file was made for, if and only if it knows the
    characters of the package. -/
theorem qualifiedTypes_sourceText_iff (framed : frame ∈ frames) (plain : isPlainName type = true)
    (valid : ∀ segment ∈ package, isPackageIdent segment = true) :
    (∀ t, t ∈ qualifiedTypes (sourceText package type frame) ↔
        t = String.ofList (qualify package type)) ↔
      ∀ segment ∈ package, ∀ c ∈ segment, isWordChar c = true := by
  have only : ∀ a b : String, (∀ t, t ∈ [a] ↔ t = b) ↔ a = b := by
    intro a b
    simp only [List.mem_singleton]
    exact ⟨fun same => (same a).mp rfl, fun equal t => equal ▸ Iff.rfl⟩
  rw [qualifiedTypes, typesOf_sourceText framed plain valid, List.map_singleton, only,
    String.ofList_inj]
  by_cases bare : package = []
  · subst bare
    simp [packageOf_sourceText_nil framed plain, qualify_nil]
  · rw [← packageOf_sourceText_iff framed plain bare valid, ← intercalate_append bare type]
    have named : ['.'].intercalate package ≠ [] := fun empty => bare
      ((intercalate_eq_nil fun segment among => ne_nil_of_isPackageIdent (valid segment among)).mp
        empty)
    have split : ['.'].intercalate package ++ '.' :: type =
        ['.'].intercalate package ++ ['.'] ++ type := by simp
    rw [split, List.append_left_inj]
    constructor
    · intro start
      split at start
      · simp at start
      · exact List.append_cancel_right start
    · intro found
      rw [found, if_neg (by simpa using named)]

/-- A scan of the file of a new type with a plain name finds exactly that type, if and only if it
    knows every character of the package: a character that may stand in a package but in no word, as
    the dollar sign, hides the package from it. -/
theorem qualifiedTypes_render {store : Store} {disk : Disk} {kind name : String}
    (packaged : store.Packages disk kind) (accepted : nameObjection? name.toList = none)
    (plain : isPlainName (typeSegment name.toList) = true) :
    ∃ text, (store.render disk kind (bindings name)).1 = .ok text ∧
      ((∀ t, t ∈ qualifiedTypes text.toList ↔ t = name) ↔
        ∀ segment ∈ packageSegments name.toList, ∀ c ∈ segment, isWordChar c = true) := by
  obtain ⟨frame, framed, rendered⟩ := packaged.render_accepted accepted
  have spelled := nameObjection?_eq_none.mp accepted
  refine ⟨_, rendered, ?_⟩
  have found := qualifiedTypes_sourceText_iff framed plain spelled.packageValid
  rw [qualify_segments, String.ofList_toList] at found
  rw [String.toList_ofList]
  exact found

/-- A package of words. -/
theorem qualifiedTypes_render_words :
    Store.builtInOnly.Packages ⟨.empty, []⟩ "class" ∧ nameObjection? "a.b1.Cé".toList = none ∧
      isPlainName (typeSegment "a.b1.Cé".toList) = true ∧
      ∃ text, (Store.builtInOnly.render ⟨.empty, []⟩ "class" (bindings "a.b1.Cé")).1 = .ok text ∧
        ∀ t, t ∈ qualifiedTypes text.toList ↔ t = "a.b1.Cé" := by
  have packaged : Store.builtInOnly.Packages ⟨.empty, []⟩ "class" :=
    Store.packages_builtInOnly _ (by decide +kernel)
  have accepted : nameObjection? "a.b1.Cé".toList = none := by decide +kernel
  have plain : isPlainName (typeSegment "a.b1.Cé".toList) = true := by decide +kernel
  have words : ((packageSegments "a.b1.Cé".toList).all fun segment => segment.all isWordChar) =
      true := by decide +kernel
  obtain ⟨text, rendered, found⟩ := qualifiedTypes_render packaged accepted plain
  exact ⟨packaged, accepted, plain, text, rendered, found.mpr fun segment among =>
    List.all_eq_true.mp (List.all_eq_true.mp words segment among)⟩

/-- A package with a dollar sign: the type is found without its package. -/
theorem qualifiedTypes_render_dollar :
    nameObjection? "$gen.C".toList = none ∧ isPlainName (typeSegment "$gen.C".toList) = true ∧
      ∃ text, (Store.builtInOnly.render ⟨.empty, []⟩ "class" (bindings "$gen.C")).1 = .ok text ∧
        qualifiedTypes text.toList = ["C"] ∧
        ¬ ∀ t, t ∈ qualifiedTypes text.toList ↔ t = "$gen.C" := by
  have accepted : nameObjection? "$gen.C".toList = none := by decide +kernel
  have plain : isPlainName (typeSegment "$gen.C".toList) = true := by decide +kernel
  have rendered : (Store.builtInOnly.render ⟨.empty, []⟩ "class"
      (bindings "$gen.C")).1.toOption = some "package $gen\n\nclass C \x7b\n\n\x7d\n" := by
    decide +kernel
  have found : qualifiedTypes "package $gen\n\nclass C \x7b\n\n\x7d\n".toList = ["C"] := by
    decide +kernel
  refine ⟨accepted, plain, _, eq_ok_of_toOption rendered, found, ?_⟩
  rw [found]
  exact fun same => absurd ((same "C").mp List.mem_cons_self) (by decide)

end Scaffold.Template

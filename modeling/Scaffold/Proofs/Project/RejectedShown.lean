import Scaffold.Proofs.Console.Literal
import Scaffold.Proofs.Project.Creation
import Scaffold.Proofs.Project.Ending
import Scaffold.Result.Render

/-!
# How a rejected name is shown

The verbose form of a rejection ends with the name, which is read as markup.  A name that markup
leaves alone is shown as it is; any other one loses a part, or nothing is shown at all.
-/

namespace Scaffold.Project

open Files Plugin Workspace Console

variable {folder : Option Path} {name : String} {w : World} {ws : Workspace} {r : Result}
  {e : ErrorInfo}

/-- The line that a rejected name is told in. -/
def nameLine (name : String) : String := "    name: " ++ name

/-- The verbose form of a failure whose details are printed. -/
def failureWith (r : Result) (e : ErrorInfo) (printed : List Char) : String :=
  String.ofList <| Result.dropFinalLineEnds <|
    Result.line ("ERROR  " ++ r.op ++ " — " ++ e.message) ++ Result.line "  detail:" ++ printed

theorem concat_pair (printed : List Char) (part : Result.Printed) :
    Result.concat [.ok printed, part] = part.map (printed ++ ·) := by
  cases part <;> rfl

/-- A failure that has a name for its only detail is shown with the name read as markup. -/
theorem render_named (failed : r.ok = false) (error : r.error = some e)
    (detail : e.detail = [("name", .str name)]) :
    r.render true = ((readMarkup (nameLine name).toList).map fun shown =>
      failureWith r e (printGlyphs defaultWidth shown)).mapError .markup := by
  have first : r.failureText = e.message := by
    rw [Result.failureText, error]
    rfl
  have named : "    " ++ "name" ++ ": " ++ (Json.Value.str name).shown = nameLine name := rfl
  rw [Result.render, failed, Result.errorLines, error, first]
  dsimp only
  rw [detail]
  simp only [List.isEmpty_cons, Bool.not_false, Bool.and_self, if_true, List.map_cons,
    List.map_nil, named, concat_pair, Result.markupLine, printMarkup]
  cases readMarkup (nameLine name).toList
  · rfl
  · simp only [Except.map, Except.mapError, failureWith]
    rfl

/-- The code is one of those that names are rejected with. -/
def RejectsName (code : String) : Prop := code = "INVALID_NAME" ∨ code = "NAME_COLLISION"

instance (code : String) : Decidable (RejectsName code) :=
  inferInstanceAs (Decidable (code = "INVALID_NAME" ∨ code = "NAME_COLLISION"))

/-- A name is rejected by a result, when it is judged or when its file is created. -/
structure Rejected (folder : Option Path) (name : String) (w : World) (ws : Workspace) (r : Result)
    (e : ErrorInfo) : Prop where
  asked : (validateName folder name w ws).1 = .ok r ∨
    ∃ kind, (createFile folder kind name w ws).1 = .ok r
  failed : r.ok = false
  error : r.error = some e
  code : RejectsName e.code

theorem detail_of_accepted {op : String} (refused : accepted op folder name w ws = .ok (.error r))
    (error : r.error = some e) (code : RejectsName e.code) : e.detail = [("name", .str name)] := by
  rw [accepted] at refused
  split at refused
  · cases refused
    cases error
    exact absurd code (by decide)
  split at refused
  · cases refused
  · cases refused
    cases error
    exact absurd code (by decide)
  split at refused
  · cases refused
  · cases refused
    cases error
    rfl
  split at refused
  · cases refused
  · cases refused
    cases error
    rfl
  · cases refused

theorem detail_of_ending {op kind : String} {root path : Path} {disk : Disk}
    {store : Template.Store} {found? : Disk → Except Fault Registry}
    (ended : (ending op kind name root path disk store found?).1 = .ok r) (error : r.error = some e)
    (code : RejectsName e.code) : e.detail = [("name", .str name)] := by
  unfold ending at ended
  split at ended
  · cases ended
    cases error
    have known : ¬ RejectsName "UNKNOWN_TEMPLATE" := by decide
    exact absurd code known
  · cases ended
  split at ended
  · cases ended
    cases error
    rfl
  · cases ended
  · rename_i after _
    dsimp only at ended
    obtain ⟨registry, -, rfl⟩ := map_eq_ok.mp ended
    cases error

theorem outcome_of_traced {label : String} {x : Action Workspace Result}
    (ran : (Action.traced label x w ws).1 = .ok r) :
    (outcome (x { w with tracer := w.tracer.begin } ws)).1 = .ok r.withoutMeta := by
  rw [← outcome_traced label, outcome, ran]
  rfl

theorem Rejected.detail (rejected : Rejected folder name w ws r e) :
    e.detail = [("name", .str name)] := by
  obtain ⟨asked, -, error, code⟩ := rejected
  have unreported : r.withoutMeta.error = some e := error
  rcases asked with judged | ⟨kind, created⟩
  · have ended := outcome_of_traced judged
    rw [outcome_validateNameCore] at ended
    obtain ⟨verdict, reached, same⟩ := map_eq_ok.mp ended
    obtain ⟨failure | place, refused, rfl⟩ := map_eq_ok.mp reached
    · rw [← same] at unreported
      exact detail_of_accepted refused unreported code
    · rw [← same] at unreported
      cases unreported
  · have ended := outcome_of_traced created
    rw [outcome_createFileCore] at ended
    split at ended
    · cases ended
    · rename_i failure refused
      rw [← Except.ok.inj ended] at unreported
      exact detail_of_accepted refused unreported code
    · exact detail_of_ending ended unreported code

/-- Where the name is read as some text, that text is shown. -/
theorem Rejected.render_of_read {shown : String} (rejected : Rejected folder name w ws r e)
    (read : readMarkup (nameLine name).toList = .ok (glyphs false (dropControls shown.toList))) :
    r.render true = .ok (failureWith r e (Result.line shown)) := by
  rw [render_named rejected.failed rejected.error rejected.detail, read]
  rfl

theorem nameLine_toList (name : String) :
    (nameLine name).toList = "    name".toList ++ [':', ' '] ++ name.toList := by
  rw [nameLine, String.toList_append]
  rfl

theorem isLiteral_nameLine : IsLiteral (nameLine name).toList ↔ IsLiteral name.toList := by
  rw [nameLine_toList]
  exact isLiteral_label (by decide) (by decide) (by decide)

/-- What a rejection shows of a name. -/
structure NameShown (name : String) (r : Result) (e : ErrorInfo) : Prop where
  /-- The name is read as markup, and the rejection cannot be shown if that fails. -/
  read : r.render true = ((readMarkup (nameLine name).toList).map fun shown =>
    failureWith r e (printGlyphs defaultWidth shown)).mapError .markup
  /-- A name that markup leaves alone is shown as it is. -/
  literal : IsLiteral name.toList →
    r.render true = .ok (failureWith r e (Result.line (nameLine name)))
  /-- Of the names without a colon no others are. -/
  only : ':' ∉ name.toList →
    (readMarkup (nameLine name).toList = .ok (glyphs false (dropControls (nameLine name).toList)) ↔
      IsLiteral name.toList)

/-- Whatever name is rejected, its rejection is shown with the name where markup leaves it alone. -/
theorem rejected_name_shown (rejected : Rejected folder name w ws r e) : NameShown name r e := by
  have read := render_named rejected.failed rejected.error rejected.detail
  refine ⟨read, fun literal => ?_, fun absent => ?_⟩
  · exact rejected.render_of_read (readMarkup_of_isLiteral (isLiteral_nameLine.mpr literal))
  · rw [← isLiteral_nameLine]
    apply readMarkup_eq_glyphs_iff
    rw [nameLine_toList, List.count_append, List.count_eq_zero.mpr absent]
    decide

/-- Names with brackets, with and without a tag, are rejected. -/
theorem rejected_brackets (name : String) (among : name ∈ ["a[0]", "a[b]", "[/b]"]) :
    ∃ r e, Rejected (some ⟨.relative, ["src"]⟩) name linkedWorld linkedWorkspace r e := by
  have all : ∀ name ∈ ["a[0]", "a[b]", "[/b]"],
      (validateName (some ⟨.relative, ["src"]⟩) name linkedWorld linkedWorkspace).1.toOption.map
        (fun r => (r.ok, r.error.map (·.code))) = some (false, some "INVALID_NAME") := by
    decide +kernel
  have fails := all name among
  rcases judged : (validateName (some ⟨.relative, ["src"]⟩) name linkedWorld linkedWorkspace).1 with
    fault | r
  · rw [judged] at fails
    cases fails
  · rw [judged] at fails
    have outcome := Prod.mk.inj (Option.some.inj fails)
    obtain ⟨e, error, code⟩ := Option.map_eq_some_iff.mp outcome.2
    exact ⟨r, e, .inl judged, outcome.1, error, .inl code⟩

theorem rejected_name_shown_indexed :
    ∃ r e, Rejected (some ⟨.relative, ["src"]⟩) "a[0]" linkedWorld linkedWorkspace r e ∧
      NameShown "a[0]" r e ∧ IsLiteral "a[0]".toList := by
  obtain ⟨r, e, rejected⟩ : ∃ r e,
      Rejected (some ⟨.relative, ["src"]⟩) "a[0]" linkedWorld linkedWorkspace r e :=
    rejected_brackets _ (by simp)
  exact ⟨r, e, rejected, rejected_name_shown rejected, by decide, by decide,
    Emoji.replace_of_few_colons (by decide)⟩

/-- A tag that only opens is dropped. -/
theorem readMarkup_opening :
    readMarkup (nameLine "a[b]").toList = readMarkup (nameLine "a").toList := by
  have kept : Emoji.replace (nameLine "a").toList = (nameLine "a").toList :=
    Emoji.replace_of_few_colons (by decide)
  have empty : Emoji.replace [] = [] := Emoji.replace_of_few_colons (by decide)
  have parts : partsFrom ((nameLine "a[b]").toList.length + 1) 0 [] (nameLine "a[b]").toList =
      [.text (nameLine "a").toList, .text [], .tag 11 ⟨['b'], none⟩, .text []] := rfl
  have plain : partsFrom ((nameLine "a").toList.length + 1) 0 [] (nameLine "a").toList =
      [.text (nameLine "a").toList] := rfl
  rw [readMarkup, readMarkup, parts, plain]
  simp only [styledText, kept, empty]
  rfl

/-- The name `a[b]` is rejected, and the rejection tells of `a`; that of `[/b]` cannot be shown. -/
theorem rejected_name_unshown :
    (∃ r e, Rejected (some ⟨.relative, ["src"]⟩) "a[b]" linkedWorld linkedWorkspace r e ∧
      r.render true = .ok (failureWith r e (Result.line (nameLine "a")))) ∧
    ∃ r e fault, Rejected (some ⟨.relative, ["src"]⟩) "[/b]" linkedWorld linkedWorkspace r e ∧
      r.render true = .error (.markup fault) := by
  constructor
  · obtain ⟨r, e, rejected⟩ : ∃ r e,
        Rejected (some ⟨.relative, ["src"]⟩) "a[b]" linkedWorld linkedWorkspace r e :=
      rejected_brackets _ (by simp)
    refine ⟨r, e, rejected, ?_⟩
    have literal : IsLiteral (nameLine "a").toList :=
      ⟨by decide, by decide, Emoji.replace_of_few_colons (by decide)⟩
    exact rejected.render_of_read (readMarkup_opening.trans (readMarkup_of_isLiteral literal))
  · obtain ⟨r, e, rejected⟩ : ∃ r e,
        Rejected (some ⟨.relative, ["src"]⟩) "[/b]" linkedWorld linkedWorkspace r e :=
      rejected_brackets _ (by simp)
    obtain ⟨fault, unread⟩ : ∃ fault, readMarkup (nameLine "[/b]").toList = .error fault :=
      ⟨_, rfl⟩
    refine ⟨r, e, fault, rejected, ?_⟩
    rw [render_named rejected.failed rejected.error rejected.detail, unread]
    rfl

end Scaffold.Project

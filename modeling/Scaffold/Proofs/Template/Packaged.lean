import Scaffold.Template.Store

/-!
# Built-in templates

Every built-in template is a package header, if there is a package, and a type between two fixed
texts.  It includes no other template, so that a kind of file that no file of the project replaces
can always be rendered.
-/

namespace Scaffold.Template

open Files

/-- The nodes of a template with the package header and a type between two texts. -/
def packagedNodes (opening closing : String) : List Node :=
  [.text [],
    .conditional "package_name"
      [.text "package ".toList, .variable "package_name", .text "\n\n".toList] [],
    .text opening.toList, .variable "type_name", .text closing.toList]

/-- The two texts around the type in each of the built-in templates. -/
def frames : List (String × String) :=
  [("object ", " \x7b\n\n  def main(args: Array[String]): Unit = \x7b\n  \x7d\n\n\x7d\n"),
    ("final case class ", "()\n"), ("class ", " \x7b\n\n\x7d\n"),
    ("object ", " \x7b\n\n\x7d\n"), ("trait ", " \x7b\n\n\x7d\n")]

set_option maxRecDepth 2048 in
/-- Every built-in template has the package header and a type between two texts. -/
theorem parse_of_mem_builtIn {entry : String × String} (member : entry ∈ builtIn) :
    ∃ frame ∈ frames, parse entry.2.toList = .ok (packagedNodes frame.1 frame.2) := by
  simp only [builtIn, List.mem_cons, List.mem_nil_iff, or_false] at member
  -- The text is made a list of characters first: a string is slow to take apart by evaluation.
  rcases member with rfl | rfl | rfl | rfl | rfl <;>
    simp only [packageHeader, typeMark, String.toList_append, String.reduceToList]
  · exact ⟨frames[0], by decide, rfl⟩
  · exact ⟨frames[1], by decide, rfl⟩
  · exact ⟨frames[2], by decide, rfl⟩
  · exact ⟨frames[3], by decide, rfl⟩
  · exact ⟨frames[4], by decide, rfl⟩

/-- The texts that are left of the package header and the type once their variables are known. -/
def packagedTexts (bindings : List (String × String)) (opening closing : String) :
    List (List Char) :=
  let package := valueOf bindings "package_name"
  [] :: (if package ≠ "" then ["package ".toList, package.toList, "\n\n".toList] else []) ++
    [opening.toList, (valueOf bindings "type_name").toList, closing.toList]

theorem piecesOf_packagedNodes (bindings : List (String × String)) (opening closing : String) :
    piecesOf bindings (packagedNodes opening closing) =
      (packagedTexts bindings opening closing).map .text := by
  by_cases packaged : valueOf bindings "package_name" ≠ "" <;>
    simp [packagedNodes, packagedTexts, piecesOf, Node.pieces, packaged]

theorem expandWith_texts (disk : Disk) (bindings : List (String × String))
    (deeper? : Option (Store → List Piece → Except Fault (List Char) × Store)) (store : Store)
    (texts : List (List Char)) :
    store.expandWith disk bindings deeper? (texts.map .text) = (.ok texts.flatten, store) := by
  induction texts with
  | nil => rfl
  | cons text texts ih =>
    rw [List.map_cons, Store.expandWith, ih]
    rfl

theorem expand_texts (disk : Disk) (bindings : List (String × String)) (depth : Nat)
    (store : Store) (texts : List (List Char)) :
    store.expand disk bindings depth (texts.map .text) = (.ok texts.flatten, store) := by
  cases depth <;> exact expandWith_texts ..

/-- A template without inclusions is included as the text that it is. -/
theorem expand_inclusion {disk : Disk} {bindings : List (String × String)} {store after : Store}
    {name : String} {nodes : List Node} {texts : List (List Char)} (depth : Nat)
    (got : store.get disk name = (.ok nodes, after))
    (plain : piecesOf bindings nodes = texts.map .text) :
    store.expand disk bindings (depth + 1) [.inclusion name] = (.ok texts.flatten, after) := by
  rw [Store.expand, Store.expandWith]
  simp only [got, plain, expand_texts, Store.expandWith, List.append_nil]

namespace Store

variable {store : Store} {disk : Disk} {kind : String}

/-- A kind of file is built in and no file of the project replaces its template; what is remembered
    of it is what would be read again. -/
structure Packages (store : Store) (disk : Disk) (kind : String) : Prop where
  known : kind ++ fileEnding ∈ builtIn.map (·.1)
  bare : store.fileOf? disk [kind ++ fileEnding] = none
  kept : ∀ entry, store.cache.lookup (kind ++ fileEnding) = some entry →
    entry.isCurrent disk = true → store.load disk (kind ++ fileEnding) = .ok entry

/-- Without files of the project every built-in kind of file is such a one. -/
theorem packages_builtInOnly (disk : Disk) (known : kind ++ fileEnding ∈ builtIn.map (·.1)) :
    builtInOnly.Packages disk kind where
  known := known
  bare := rfl
  kept := nofun

theorem Packages.load (packaged : store.Packages disk kind) :
    ∃ frame ∈ frames, store.load disk (kind ++ fileEnding) =
      .ok ⟨packagedNodes frame.1 frame.2, .builtIn⟩ := by
  obtain ⟨entry, member, file⟩ := List.mem_map.mp packaged.known
  obtain ⟨frame, framed, parsed⟩ := parse_of_mem_builtIn member
  have alone : nameParts? entry.1 = some [entry.1] :=
    (by decide +kernel : ∀ entry ∈ builtIn, nameParts? entry.1 = some [entry.1]) entry member
  have listed : builtIn.lookup ("/".intercalate [entry.1]) = some entry.2 :=
    (by decide +kernel : ∀ entry ∈ builtIn,
      builtIn.lookup ("/".intercalate [entry.1]) = some entry.2) entry member
  have bare := packaged.bare
  rw [← file] at bare ⊢
  refine ⟨frame, framed, ?_⟩
  simp only [Store.load, alone, bare, listed, entryOf, parsed]

theorem Packages.get (packaged : store.Packages disk kind) :
    ∃ frame ∈ frames, (store.get disk (kind ++ fileEnding)).1 =
      .ok (packagedNodes frame.1 frame.2) := by
  obtain ⟨frame, framed, loaded⟩ := packaged.load
  refine ⟨frame, framed, ?_⟩
  have fresh : (Store.get.fresh store disk (kind ++ fileEnding)).1 =
      .ok (packagedNodes frame.1 frame.2) := by
    simp only [Store.get.fresh, loaded]
  unfold Store.get
  split
  · rename_i entry remembered
    split
    · rename_i current
      cases (packaged.kept entry remembered current).symm.trans loaded
      rfl
    · exact fresh
  · exact fresh

/-- A built-in kind of file that no file of the project replaces is rendered with the package header
    and the type between the two texts of a frame. -/
theorem Packages.render_frame (packaged : store.Packages disk kind)
    (bindings : List (String × String)) :
    ∃ frame ∈ frames, (store.render disk kind bindings).1 =
      .ok (String.ofList (packagedTexts bindings frame.1 frame.2).flatten) := by
  obtain ⟨frame, framed, got⟩ := packaged.get
  refine ⟨frame, framed, ?_⟩
  rcases ended : store.get disk (kind ++ fileEnding) with ⟨result, after⟩
  rw [ended] at got
  cases got
  have expanded := expand_inclusion 199 ended (piecesOf_packagedNodes bindings frame.1 frame.2)
  rw [Store.render, show inclusionLimit = 199 + 1 from rfl, expanded]

theorem Packages.render (packaged : store.Packages disk kind) (bindings : List (String × String)) :
    ∃ opening closing, (store.render disk kind bindings).1 =
      .ok (String.ofList (packagedTexts bindings opening closing).flatten) := by
  obtain ⟨frame, -, rendered⟩ := packaged.render_frame bindings
  exact ⟨frame.1, frame.2, rendered⟩

end Store

end Scaffold.Template

import Scaffold.Proofs.Files.Listing
import Scaffold.Proofs.Files.RealPath

/-!
# Real paths below a directory without links

Below a directory without links the real path of a path, whether or not anything is at it, is that
of the directory with the same components behind it.
-/

namespace Scaffold.Files

/-- Where no link is on the way, following components fails for another reason than links. -/
theorem Tree.walk_ne_tooManyLinks {t : Tree} {links : Nat} {at_ : Location} {parts : List String}
    (plain : ".." ∉ parts)
    (noLinks : ∀ front target, front <+: parts → t.get? (at_ ++ front) ≠ some (.link target)) :
    t.walk true links at_ parts ≠ .error .tooManyLinks := by
  induction parts generalizing at_ with
  | nil =>
    rw [walk_nil]
    nofun
  | cons name rest ih =>
    have different : name ≠ ".." := (List.ne_and_not_mem_of_not_mem_cons plain).1.symm
    by_cases directory : t.isDirectory at_ = true
    · by_cases short : Text.Utf8.size name ≤ maxNameBytes
      · cases found : t.get? (at_ ++ [name]) with
        | none =>
          rw [walk_free true rest directory different short found]
          nofun
        | some node =>
          have noLink : node.target? = none := by
            cases node with
            | link target =>
              exact absurd found (noLinks [name] target (by simp))
            | _ => rfl
          rw [walk_down true rest directory different short found noLink]
          refine ih (List.ne_and_not_mem_of_not_mem_cons plain).2 ?_
          intro front target isPrefix
          rw [List.append_assoc]
          exact noLinks _ target (List.cons_prefix_cons.mpr ⟨rfl, isPrefix⟩)
      · rw [walk_long true rest directory different (Nat.not_le.mp short)]
        nofun
    · cases links <;> simp [walk, walkWith, directory]

namespace Disk

variable {d : Disk} {p : Path} {links : Links} {rel : List String} {base : Location}
  {deeper? : Option (Links → Path → List String → Resolution)}

/-- A search that ends well goes on with what is behind. -/
theorem resolveWith_append {front : List String}
    (complete : (d.resolveWith deeper? links p front).complete = true) (more : List String) :
    d.resolveWith deeper? links p (front ++ more) =
      d.resolveWith deeper? (d.resolveWith deeper? links p front).links
        (d.resolveWith deeper? links p front).path more := by
  fun_induction resolveWith d deeper? links p front with
  | case1 => rfl
  | case2 links p rest ih =>
    rw [List.cons_append, resolveWith, if_pos rfl]
    exact ih complete
  | case3 links p name rest different target link known found ih =>
    rw [List.cons_append, resolveWith, if_neg different]
    simp only [link, found]
    exact ih complete
  | case4 => cases complete
  | case5 => cases complete
  | case6 links p name rest different target link found deeper some path inner finished ih =>
    rw [List.cons_append, resolveWith, if_neg different]
    subst some
    simp only [link, found]
    exact (if_pos finished).trans (ih complete)
  | case7 => cases complete
  | case8 links p name rest different noLink ih =>
    rw [List.cons_append, resolveWith, if_neg different]
    split
    · rename_i target link
      exact absurd link (noLink target)
    · exact ih complete

/-- Where no links are met, the components are taken as they stand. -/
theorem resolveWith_plain (plain : ".." ∉ rel)
    (noLinks : ∀ more target, d.tree.get? (d.plainLocation p ++ more) ≠ some (.link target)) :
    d.resolveWith deeper? links p rel = ⟨p.under rel, true, links⟩ ∧
      d.plainLocation (p.under rel) = d.plainLocation p ++ rel := by
  induction rel generalizing p with
  | nil =>
    rw [Path.under_nil, List.append_nil]
    exact ⟨rfl, rfl⟩
  | cons name rest ih =>
    obtain ⟨different, behind⟩ := List.ne_and_not_mem_of_not_mem_cons plain
    have child : d.plainLocation (p.child name) = d.plainLocation p ++ [name] :=
      plainLocation_child different.symm
    have under : (p.child name).under rest = p.under (name :: rest) := by
      simp [Path.under, Path.child]
    have onward : ∀ more target,
        d.tree.get? (d.plainLocation (p.child name) ++ more) ≠ some (.link target) := by
      intro more target
      rw [child, List.append_assoc]
      exact noLinks _ target
    obtain ⟨resolved, location⟩ := ih behind onward
    rw [under] at resolved location
    rw [location, child, ← List.append_cons, ← resolved, resolveWith, if_neg different.symm]
    refine ⟨?_, rfl⟩
    split
    · rename_i target link
      rw [child] at link
      exact absurd link (noLinks _ target)
    · rfl

/-- The search for the real path of what may be below the directory ends where the path of the
    directory leads, with the same components behind. -/
theorem LinkFree.plainLocation_under (free : d.LinkFree p base) (here : ".." ∉ d.here)
    (plain : ".." ∉ rel) :
    d.plainLocation (d.resolveFrom (2 * d.tree.linkCount + 1) [] (resolveStart p)
      (p.parts ++ rel)).path = base ++ rel := by
  obtain ⟨-, walked⟩ := locate_eq_ok.mp free.located
  obtain ⟨used, -, leads⟩ := Tree.walk_eq_ok.mp walked
  have found := resolves_of_leads here leads
  have noLinks := free.noLinks
  rw [resolveFrom] at found ⊢
  rw [← found.location] at noLinks ⊢
  rw [resolveWith_append found.complete]
  obtain ⟨onward, location⟩ := resolveWith_plain plain noLinks
  rw [onward]
  exact location

/-- The way from the root to a place below the directory meets no link. -/
theorem LinkFree.noLinks_of_prefix (free : d.LinkFree p base) (closed : d.tree.Closed)
    {front : Location} (isPrefix : front <+: base ++ rel) (target : String) :
    d.tree.get? front ≠ some (.link target) := by
  rcases List.prefix_or_prefix_of_prefix isPrefix (List.prefix_append base rel) with
    above | ⟨more, rfl⟩
  · have directory : d.tree.isDirectory front = true := by
      by_cases same : front = base
      · rw [same]
        exact free.directory
      · refine closed.isDirectory_of_prefix ?_ above same
        rw [Tree.isDirectory_iff.mp free.directory]
        exact Option.some_ne_none _
    rw [Tree.isDirectory_iff.mp directory]
    nofun
  · exact free.noLinks more target

theorem LinkFree.node_ne_tooManyLinks (free : d.LinkFree p base) (closed : d.tree.Closed)
    (plain : ".." ∉ base ++ rel) : d.node ⟨.single, base ++ rel⟩ ≠ .error .tooManyLinks := by
  intro looping
  have stops : d.tree.walk true maxLinks [] (base ++ rel) ≠ .error .tooManyLinks := by
    refine Tree.walk_ne_tooManyLinks plain ?_
    intro front target isPrefix
    exact free.noLinks_of_prefix closed isPrefix target
  have start : d.start ⟨.single, base ++ rel⟩ = [] := rfl
  rw [node, locate, start] at looping
  split at looping
  · rename_i why located
    cases looping
    split at located
    · rename_i text
      cases located
      rcases textObstacle?_eq_some text with same | same <;> cases same
    · exact stops located
  · split at looping <;> cases looping

/-- The real path of what may be below the directory has the components as they stand. -/
theorem LinkFree.resolve_under (free : d.LinkFree p base) (sound : d.Sound)
    (orderly : d.tree.Orderly) (plain : ".." ∉ rel) (clean : ∀ name ∈ rel, '\x00' ∉ name.toList) :
    d.resolve (p.under rel) = .ok ⟨.single, base ++ rel⟩ := by
  have fit := (locate_eq_ok.mp free.located).1
  have start : resolveStart (p.under rel) = resolveStart p := rfl
  refine resolve_of_found (clean_under fit clean) ?_ (free.node_ne_tooManyLinks sound.closed ?_)
  · rw [start, Path.under, free.plainLocation_under sound.plain plain]
  · rw [List.mem_append, not_or]
    refine ⟨fun member => ?_, plain⟩
    have present : d.tree.get? base ≠ none := by
      rw [Tree.isDirectory_iff.mp free.directory]
      exact Option.some_ne_none _
    exact (orderly.isName present member).plain rfl

end Disk

end Scaffold.Files

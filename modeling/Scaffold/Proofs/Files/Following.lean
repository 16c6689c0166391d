import Scaffold.Files.Walk

/-!
# Following paths as a relation

`Leads` says where components lead and through exactly how many links.  `walk` finds a location
exactly if the components lead there through no more links than it may follow.  The relation has
the laws that the function hides in its bound: components lead to one place only, a longer path is
followed by following its parts, and a tree in which all nodes stay in place keeps leading where
the old one led.
-/

namespace Scaffold.Files

namespace Path

variable {text : String}

theorem partsOf_of_undivided (undivided : '/' ∉ text.toList) (nonempty : text ≠ "")
    (here : text ≠ ".") : partsOf text.toList = [text] := by
  rw [partsOf, List.splitOn_eq_singleton undivided]
  simp [nonempty, here]

/-- A text without slashes is a path of one component. -/
theorem ofString_of_undivided (undivided : '/' ∉ text.toList) (nonempty : text ≠ "")
    (here : text ≠ ".") : ofString text = ⟨.relative, [text]⟩ := by
  have slashes : text.toList.takeWhile (· == '/') = [] := by
    cases spelled : text.toList with
    | nil => rfl
    | cons c cs =>
      rw [spelled, List.mem_cons, not_or] at undivided
      rw [List.takeWhile_cons, beq_false_of_ne (Ne.symm undivided.1)]
      rfl
  rw [ofString, rootOf, slashes, partsOf_of_undivided undivided nonempty here]
  rfl

end Path

/-- Where a node leads to if it is a link. -/
def Node.target? : Node → Option String
  | .link target => some target
  | _ => none

@[simp] theorem Node.target?_eq_some {node : Node} {target : String} :
    node.target? = some target ↔ node = .link target := by
  cases node <;> simp [Node.target?]

/-- The location at which a link's target starts, for a link in the directory `at_`. -/
def targetStart (at_ : Location) (target : String) : Location :=
  if (Path.ofString target).isAbsolute then [] else at_

namespace Tree

/-- Following components from `at_` leads to `reached`, through exactly `used` links. -/
inductive Leads (t : Tree) :
    (at_ : Location) → List String → (used : Nat) → (reached : Location) → Prop
  | here {at_ : Location} : Leads t at_ [] 0 at_
  | up {at_ reached : Location} {rest : List String} {used : Nat} : t.isDirectory at_ = true →
      Leads t at_.dropLast rest used reached → Leads t at_ (".." :: rest) used reached
  | down {at_ reached : Location} {name : String} {rest : List String} {used : Nat} {node : Node} :
      t.isDirectory at_ = true → name ≠ ".." → Text.Utf8.size name ≤ maxNameBytes →
      t.get? (at_ ++ [name]) = some node → node.target? = none →
      Leads t (at_ ++ [name]) rest used reached → Leads t at_ (name :: rest) used reached
  | through {at_ reached : Location} {name target : String} {rest : List String} {used : Nat} :
      t.isDirectory at_ = true → name ≠ ".." → Text.Utf8.size name ≤ maxNameBytes →
      t.get? (at_ ++ [name]) = some (.link target) →
      Leads t (targetStart at_ target) ((Path.ofString target).parts ++ rest) used reached →
      Leads t at_ (name :: rest) (used + 1) reached

variable {t : Tree} {at_ reached : Location} {parts more : List String} {used links : Nat}

theorem walk_nil (final : Bool) : t.walk final links at_ [] = .ok at_ := by
  cases links <;> rfl

theorem walk_up (final : Bool) (rest : List String) (directory : t.isDirectory at_ = true) :
    t.walk final links at_ (".." :: rest) = t.walk final links at_.dropLast rest := by
  cases links <;> simp [walk, walkWith, directory]

theorem walk_down {name : String} {node : Node} (final : Bool) (rest : List String)
    (directory : t.isDirectory at_ = true) (different : name ≠ "..")
    (short : Text.Utf8.size name ≤ maxNameBytes) (found : t.get? (at_ ++ [name]) = some node)
    (noLink : node.target? = none) :
    t.walk final links at_ (name :: rest) = t.walk final links (at_ ++ [name]) rest := by
  have small : ¬ maxNameBytes < Text.Utf8.size name := Nat.not_lt.mpr short
  cases node with
  | link _ => cases noLink
  | directory => cases links <;> simp [walk, walkWith, directory, different, small, found]
  | file => cases links <;> simp [walk, walkWith, directory, different, small, found]

theorem walk_through {name target : String} (rest : List String)
    (directory : t.isDirectory at_ = true) (different : name ≠ "..")
    (short : Text.Utf8.size name ≤ maxNameBytes)
    (found : t.get? (at_ ++ [name]) = some (.link target)) :
    t.walk true (links + 1) at_ (name :: rest) =
      t.walk true links (targetStart at_ target) ((Path.ofString target).parts ++ rest) := by
  have small : ¬ maxNameBytes < Text.Utf8.size name := Nat.not_lt.mpr short
  rw [walk, walkWith]
  simp [directory, different, small, found, targetStart]

theorem walk_long {name : String} (final : Bool) (rest : List String)
    (directory : t.isDirectory at_ = true) (different : name ≠ "..")
    (long : maxNameBytes < Text.Utf8.size name) :
    t.walk final links at_ (name :: rest) = .error .nameTooLong := by
  cases links <;> simp [walk, walkWith, directory, different, long]

theorem walk_free {name : String} (final : Bool) (rest : List String)
    (directory : t.isDirectory at_ = true) (different : name ≠ "..")
    (short : Text.Utf8.size name ≤ maxNameBytes) (free : t.get? (at_ ++ [name]) = none) :
    t.walk final links at_ (name :: rest) = .error .notFound := by
  have small : ¬ maxNameBytes < Text.Utf8.size name := Nat.not_lt.mpr short
  cases links <;> simp [walk, walkWith, directory, different, small, free]

/-- Where components lead, the walk goes on with what is behind them and with the links that are
    left. -/
theorem walk_append_of_leads (more : List String) (leads : t.Leads at_ parts used reached)
    (enough : used ≤ links) :
    t.walk true links at_ (parts ++ more) = t.walk true (links - used) reached more := by
  induction leads generalizing links with
  | here => rfl
  | up directory _ ih =>
    rw [List.cons_append, walk_up true _ directory]
    exact ih enough
  | down directory different short found target _ ih =>
    rw [List.cons_append, walk_down true _ directory different short found target]
    exact ih enough
  | through directory different short found _ ih =>
    obtain ⟨links, rfl⟩ : ∃ n, links = n + 1 := ⟨links - 1, by omega⟩
    rw [List.cons_append, walk_through _ directory different short found, ← List.append_assoc,
      Nat.add_sub_add_right]
    exact ih (by omega)

/-- The walk follows components where they lead, if it goes on at links where they lead. -/
theorem leads_of_walkWith {through : Location → List String → Except Obstacle Location}
    (onward : ∀ at_ parts reached, through at_ parts = .ok reached →
      ∃ used, used + 1 ≤ links ∧ t.Leads at_ parts used reached)
    (walked : t.walkWith true through at_ parts = .ok reached) :
    ∃ used, used ≤ links ∧ t.Leads at_ parts used reached := by
  fun_induction walkWith t true through at_ parts with
  | case1 =>
    cases walked
    exact ⟨0, Nat.zero_le _, .here⟩
  | case2 => cases walked
  | case3 at_ rest directory ih =>
    obtain ⟨used, enough, leads⟩ := ih walked
    exact ⟨used, enough, .up (by simpa using directory) leads⟩
  | case4 => cases walked
  | case5 => cases walked
  | case6 at_ name rest _ _ _ target _ atEnd => cases atEnd.2
  | case7 at_ name rest directory plain short target found _ path =>
    obtain ⟨used, enough, leads⟩ := onward _ _ _ walked
    exact ⟨used + 1, enough,
      .through (by simpa using directory) plain (Nat.not_lt.mp short) found leads⟩
  | case8 at_ name rest directory plain short node noLink found ih =>
    obtain ⟨used, enough, leads⟩ := ih walked
    have target : node.target? = none := by
      cases node with
      | link target => exact absurd rfl (noLink target)
      | directory => rfl
      | file content => rfl
    have small : Text.Utf8.size name ≤ maxNameBytes := Nat.not_lt.mp short
    exact ⟨used, enough, .down (by simpa using directory) plain small found target leads⟩

theorem leads_of_walk (walked : t.walk true links at_ parts = .ok reached) :
    ∃ used, used ≤ links ∧ t.Leads at_ parts used reached := by
  induction links generalizing at_ parts reached with
  | zero => exact leads_of_walkWith (fun _ _ _ stuck => by cases stuck) walked
  | succ links ih =>
    refine leads_of_walkWith ?_ walked
    intro at_ parts reached onward
    obtain ⟨used, enough, leads⟩ := ih onward
    exact ⟨used, Nat.succ_le_succ enough, leads⟩

/-- The walk finds a location exactly if the components lead there through no more links than it
    may follow. -/
theorem walk_eq_ok :
    t.walk true links at_ parts = .ok reached ↔
      ∃ used, used ≤ links ∧ t.Leads at_ parts used reached := by
  constructor
  · exact leads_of_walk
  · rintro ⟨used, enough, leads⟩
    have walked := walk_append_of_leads [] leads enough
    rwa [List.append_nil, walk_nil] at walked

namespace Leads

variable {behind : Location} {further : Nat}

/-- A path is followed by following its first part, then the rest from where that led. -/
theorem append (leads : t.Leads at_ parts used reached)
    (goesOn : t.Leads reached more further behind) :
    t.Leads at_ (parts ++ more) (used + further) behind := by
  induction leads with
  | here => simpa using goesOn
  | up directory _ ih => exact .up directory (ih goesOn)
  | down directory plain short found target _ ih =>
    exact .down directory plain short found target (ih goesOn)
  | @through at_ reached name target rest used directory plain short found _ ih =>
    have tail := ih goesOn
    rw [List.append_assoc] at tail
    rw [Nat.add_right_comm]
    exact .through directory plain short found tail

/-- The first part of a path that leads somewhere leads somewhere itself. -/
theorem split (leads : t.Leads at_ (parts ++ more) used reached) :
    ∃ first last between, used = first + last ∧ t.Leads at_ parts first between ∧
      t.Leads between more last reached := by
  -- A step belongs to the first part as long as `parts` has components left.
  generalize whole : parts ++ more = todo at leads
  induction leads generalizing parts with
  | @here at_ =>
    obtain ⟨rfl, rfl⟩ := List.append_eq_nil_iff.mp whole
    exact ⟨0, 0, at_, rfl, .here, .here⟩
  | @up at_ reached rest used directory leads ih =>
    cases parts with
    | nil =>
      rw [List.nil_append] at whole
      exact ⟨0, used, at_, (Nat.zero_add _).symm, .here, whole ▸ .up directory leads⟩
    | cons first parts =>
      rw [List.cons_append, List.cons.injEq] at whole
      obtain ⟨rfl, rfl⟩ := whole
      obtain ⟨first, last, between, count, front, back⟩ := ih rfl
      exact ⟨first, last, between, count, .up directory front, back⟩
  | @down at_ reached name rest used node directory plain short found target leads ih =>
    cases parts with
    | nil =>
      rw [List.nil_append] at whole
      exact ⟨0, used, at_, (Nat.zero_add _).symm, .here,
        whole ▸ .down directory plain short found target leads⟩
    | cons first parts =>
      rw [List.cons_append, List.cons.injEq] at whole
      obtain ⟨rfl, rfl⟩ := whole
      obtain ⟨first, last, between, count, front, back⟩ := ih rfl
      exact ⟨first, last, between, count, .down directory plain short found target front, back⟩
  | @through at_ reached name target rest used directory plain short found leads ih =>
    cases parts with
    | nil =>
      rw [List.nil_append] at whole
      exact ⟨0, used + 1, at_, (Nat.zero_add _).symm, .here,
        whole ▸ .through directory plain short found leads⟩
    | cons first parts =>
      rw [List.cons_append, List.cons.injEq] at whole
      obtain ⟨rfl, rfl⟩ := whole
      obtain ⟨first, last, between, count, front, back⟩ := ih (List.append_assoc _ _ _)
      exact ⟨first + 1, last, between, by omega, .through directory plain short found front, back⟩

/-- Components are followed in a directory. -/
theorem isDirectory_of_ne_nil (leads : t.Leads at_ parts used reached) (some : parts ≠ []) :
    t.isDirectory at_ = true := by
  cases leads with
  | here => exact absurd rfl some
  | up directory => exact directory
  | down directory => exact directory
  | through directory => exact directory

/-- Components lead to one place only, and always through as many links. -/
theorem unique {otherUsed : Nat} {other : Location} (leads : t.Leads at_ parts used reached)
    (otherLeads : t.Leads at_ parts otherUsed other) : used = otherUsed ∧ reached = other := by
  induction leads generalizing otherUsed other with
  | here =>
    cases otherLeads
    exact ⟨rfl, rfl⟩
  | up _ _ ih =>
    cases otherLeads with
    | up _ leads => exact ih leads
    | down _ plain => exact absurd rfl plain
    | through _ plain => exact absurd rfl plain
  | down _ plain _ found target _ ih =>
    cases otherLeads with
    | up => exact absurd rfl plain
    | down _ _ _ _ _ leads => exact ih leads
    | through _ _ _ link =>
      cases found.symm.trans link
      cases target
  | through _ plain _ link _ ih =>
    cases otherLeads with
    | up => exact absurd rfl plain
    | down _ _ _ found target =>
      cases found.symm.trans link
      cases target
    | through _ _ _ found leads =>
      cases found.symm.trans link
      obtain ⟨count, equal⟩ := ih leads
      exact ⟨congrArg (· + 1) count, equal⟩

/-- Where components start with a link, they lead through its target. -/
theorem link_inv {name target : String} {rest : List String}
    (leads : t.Leads at_ (name :: rest) used reached) (different : name ≠ "..")
    (found : t.get? (at_ ++ [name]) = some (.link target)) :
    ∃ first last between, used = first + 1 + last ∧ t.Leads at_ [name] (first + 1) between ∧
      t.Leads (targetStart at_ target) (Path.ofString target).parts first between ∧
      t.Leads between rest last reached := by
  cases leads with
  | up => exact absurd rfl different
  | down _ _ _ other noLink =>
    cases found.symm.trans other
    cases noLink
  | through directory _ short other tail =>
    cases found.symm.trans other
    obtain ⟨first, last, between, rfl, front, back⟩ := tail.split
    have alone : t.Leads at_ [name] (first + 1) between :=
      .through directory different short found (by simpa using front)
    exact ⟨first, last, between, Nat.add_right_comm _ _ _, alone, front, back⟩

/-- Where components start with a name that is no link, they go on from the node of that name. -/
theorem down_inv {name : String} {rest : List String}
    (leads : t.Leads at_ (name :: rest) used reached) (different : name ≠ "..")
    (noLink : ∀ target, t.get? (at_ ++ [name]) ≠ some (.link target)) :
    t.Leads (at_ ++ [name]) rest used reached := by
  cases leads with
  | up => exact absurd rfl different
  | down _ _ _ _ _ tail => exact tail
  | through _ _ _ found => exact absurd found (noLink _)

/-- Where all nodes are still in place, components lead where they led. -/
theorem mono {t' : Tree} (kept : ∀ l node, t.get? l = some node → t'.get? l = some node)
    (leads : t.Leads at_ parts used reached) : t'.Leads at_ parts used reached := by
  have keptDirectory : ∀ l, t.isDirectory l = true → t'.isDirectory l = true := by
    intro l directory
    unfold isDirectory at directory ⊢
    cases found : t.get? l with
    | none => simp [found] at directory
    | some node => simpa [kept l node found, found] using directory
  induction leads with
  | here => exact .here
  | up directory _ ih => exact .up (keptDirectory _ directory) ih
  | down directory plain short found target _ ih =>
    exact .down (keptDirectory _ directory) plain short (kept _ _ found) target ih
  | through directory plain short found _ ih =>
    exact .through (keptDirectory _ directory) plain short (kept _ _ found) ih

end Leads

end Tree

namespace Disk

variable {d : Disk} {p : Path}

/-- A path leads to a location exactly if its text is fit for use and the walk gets there. -/
theorem locate_eq_ok {final : Bool} {at_ : Location} :
    d.locate final p = .ok at_ ↔
      textObstacle? p = none ∧ d.tree.walk final maxLinks (d.start p) p.parts = .ok at_ := by
  unfold locate
  cases textObstacle? p <;> simp

theorem size_intercalate_le (front more : List String) :
    Text.Utf8.size ("/".intercalate front) ≤ Text.Utf8.size ("/".intercalate (front ++ more)) := by
  by_cases started : front = []
  · rw [started]
    exact Nat.zero_le _
  · by_cases ended : more = []
    · simp [ended]
    · rw [String.intercalate_append_of_ne_nil started ended]
      simp only [Text.Utf8.size, String.utf8ByteSize_append]
      omega

theorem toString_eq {root : Root} {parts : List String} (proper : root ≠ .relative ∨ parts ≠ []) :
    Path.toString ⟨root, parts⟩ = root.text ++ "/".intercalate parts := by
  unfold Path.toString
  split
  · simp_all
  · rfl

/-- The beginning of a path that is fit for use is fit for use. -/
theorem textObstacle?_of_append {root : Root} {front more : List String}
    (fit : textObstacle? ⟨root, front ++ more⟩ = none) : textObstacle? ⟨root, front⟩ = none := by
  by_cases proper : root ≠ .relative ∨ front ≠ []
  · have longer : Text.Utf8.size (Path.toString ⟨root, front⟩) ≤
        Text.Utf8.size (Path.toString ⟨root, front ++ more⟩) := by
      rw [toString_eq proper, toString_eq (proper.imp_right (by simp_all))]
      simp only [Text.Utf8.size, String.utf8ByteSize_append]
      exact Nat.add_le_add_left (size_intercalate_le front more) _
    unfold textObstacle? at fit ⊢
    split at fit
    · cases fit
    rename_i clean
    split at fit
    · cases fit
    rename_i short
    rw [List.any_append, Bool.or_eq_true, not_or] at clean
    rw [if_neg clean.1, if_neg (by omega)]
  · obtain ⟨rfl, rfl⟩ : root = .relative ∧ front = [] := by simpa using proper
    decide +kernel

/-- A path that leads somewhere leads there from where its beginning leads. -/
theorem locate_append {root : Root} {front more : List String} {at_ : Location}
    (located : d.locate true ⟨root, front ++ more⟩ = .ok at_) :
    ∃ base used, d.locate true ⟨root, front⟩ = .ok base ∧ d.tree.Leads base more used at_ := by
  obtain ⟨fit, walked⟩ := locate_eq_ok.mp located
  obtain ⟨used, enough, leads⟩ := Tree.walk_eq_ok.mp walked
  obtain ⟨first, last, base, rfl, toBase, onward⟩ := leads.split
  refine ⟨base, last, locate_eq_ok.mpr ⟨textObstacle?_of_append fit, ?_⟩, onward⟩
  exact Tree.walk_eq_ok.mpr ⟨first, Nat.le_trans (Nat.le_add_right _ _) enough, toBase⟩

end Disk

end Scaffold.Files

import Scaffold.Files.Resolve
import Scaffold.Proofs.Files.Growth

/-!
# Real paths are where paths lead

Where following a path leads somewhere, its real path is that place.  The search for the real path
remembers the links that it met, and it must neither reuse a wrong answer nor take a link for a
loop.  Both rest on counting: a link that is still being followed needs more links than are left
to follow, so it is not met again, and the links being followed are all different.
-/

namespace Scaffold.Files

theorem removeParents_concat (parts : List String) (name : String) :
    removeParents (parts ++ [name]) =
      if name = ".." then (removeParents parts).dropLast else removeParents parts ++ [name] := by
  simp [removeParents, List.foldl_append]

/-- Components without `..` stand for themselves. -/
theorem removeParents_of_not_mem {parts : List String} (plain : ".." ∉ parts) :
    removeParents parts = parts := by
  induction parts using List.reverseRecOn with
  | nil => rfl
  | append_singleton front name ih =>
    rw [List.mem_append, not_or, List.mem_singleton] at plain
    rw [removeParents_concat, if_neg (Ne.symm plain.2), ih plain.1]

/-- An absolute path without `..`, or any relative one. -/
def Path.Plain (p : Path) : Prop := p.isAbsolute = true → ".." ∉ p.parts

namespace Disk

variable {d : Disk} {p : Path} {name : String}

/-- The components of the location of a path, `..` among them. -/
def spelledOut (d : Disk) (p : Path) : List String :=
  if p.isAbsolute then p.parts else d.here ++ p.parts

theorem plainLocation_eq (d : Disk) (p : Path) :
    d.plainLocation p = removeParents (d.spelledOut p) := rfl

theorem spelledOut_child (d : Disk) (p : Path) (name : String) :
    d.spelledOut (p.child name) = d.spelledOut p ++ [name] := by
  unfold spelledOut Path.child Path.isAbsolute
  split <;> simp

theorem plainLocation_child (different : name ≠ "..") :
    d.plainLocation (p.child name) = d.plainLocation p ++ [name] := by
  rw [plainLocation_eq, spelledOut_child, removeParents_concat, if_neg different, plainLocation_eq]

theorem plainLocation_up (d : Disk) (p : Path) :
    d.plainLocation (p.child "..") = (d.plainLocation p).dropLast := by
  rw [plainLocation_eq, spelledOut_child, removeParents_concat, if_pos rfl, plainLocation_eq]

/-- Going up from a path leads to the place above, whatever the path goes through. -/
theorem plainLocation_above (plain : p.Plain) :
    d.plainLocation p.above = (d.plainLocation p).dropLast := by
  by_cases empty : p.parts = []
  · unfold Path.above
    by_cases absolute : p.isAbsolute = true
    · rw [if_pos absolute, Path.parent_of_parts_nil empty]
      simp [plainLocation, absolute, empty, removeParents]
    · rw [if_neg absolute, if_pos (.inl empty), plainLocation_up]
  · by_cases up : p.name = ".."
    · have relative : ¬ p.isAbsolute = true :=
        fun absolute => plain absolute (up ▸ Path.name_mem empty)
      rw [Path.above, if_neg relative, if_pos (.inr up), plainLocation_up]
    · have above : p.above = p.parent := by
        unfold Path.above
        rw [if_neg (not_or.mpr ⟨empty, up⟩), ite_self]
      rw [above]
      conv_rhs => rw [← Path.parent_child empty, plainLocation_child up, List.dropLast_concat]

end Disk

namespace Path.Plain

variable {p : Path} {name : String}

theorem above (plain : p.Plain) : p.above.Plain := by
  unfold Path.above
  split
  · rename_i absolute
    exact fun _ member => plain absolute ((List.dropLast_sublist _).mem member)
  · rename_i relative
    split
    · exact fun absolute => absurd absolute relative
    · exact fun absolute => absurd absolute relative

theorem child (plain : p.Plain) (different : name ≠ "..") : (p.child name).Plain := by
  intro absolute member
  rcases List.mem_append.mp member with member | member
  · exact plain absolute member
  · exact different (List.mem_singleton.mp member).symm

end Path.Plain

namespace Tree

variable {t : Tree} {at_ reached : Location} {name : String} {used : Nat}

/-- The last component of a location leads to `reached`, through exactly `used` links. -/
def LeadsOn (t : Tree) (l : Location) (used : Nat) (reached : Location) : Prop :=
  t.Leads l.dropLast [l.getLastD ""] used reached

theorem leadsOn_concat :
    t.LeadsOn (at_ ++ [name]) used reached ↔ t.Leads at_ [name] used reached := by
  rw [LeadsOn, List.dropLast_concat, List.getLastD_concat]

theorem mem_nodes_of_get? {target : String} {l : Location}
    (found : t.get? l = some (.link target)) : (l, .link target) ∈ t.nodes := by
  unfold get? at found
  split at found
  · cases found
  · obtain ⟨before, behind, whole, -⟩ := List.lookup_eq_some_iff.mp found
    rw [whole]
    exact List.mem_append_right _ List.mem_cons_self

/-- There are no more places of links than links. -/
theorem length_le_linkCount {places : List Location} (distinct : places.Nodup)
    (links : ∀ l ∈ places, ∃ target, t.get? l = some (.link target)) :
    places.length ≤ t.linkCount := by
  have listed : places ⊆ (t.nodes.filter fun entry => entry.2.target?.isSome).map Prod.fst := by
    intro l member
    obtain ⟨target, found⟩ := links l member
    have entry := mem_nodes_of_get? found
    exact List.mem_map.mpr ⟨_, List.mem_filter.mpr ⟨entry, rfl⟩, rfl⟩
  calc places.length
    _ ≤ _ := distinct.length_le_of_subset listed
    _ = t.linkCount := by
      rw [List.length_map, linkCount, List.countP_eq_length_filter]
      congr 2
      funext entry
      cases entry.2 <;> rfl

end Tree

namespace Disk

variable {d : Disk} {p : Path} {links : Links} {active : List Location} {depth used : Nat}
  {reached : Location}

/-- The links that are known lead where they are said to. -/
def Knows (d : Disk) (links : Links) : Prop :=
  ∀ q target, links.lookup q = some (some target) → target.Plain ∧
    ∃ n, d.tree.LeadsOn (d.plainLocation q) n (d.plainLocation target)

/-- What is remembered of links is right with `used` links left to follow: a known link leads where
    it is said to, and one that is still being followed needs more links than are left. -/
structure Remembers (d : Disk) (links : Links) (used : Nat) : Prop where
  known : d.Knows links
  pending : ∀ q, links.lookup q = some none →
    ∀ n l, d.tree.LeadsOn (d.plainLocation q) n l → used < n

/-- The links being followed, with `used` links left to follow, are different ones and need more
    links than are left; together with `depth` further ones they are all. -/
structure Follows (d : Disk) (active : List Location) (depth used : Nat) : Prop where
  distinct : active.Nodup
  links : ∀ l ∈ active, ∃ target, d.tree.get? l = some (.link target)
  needs : ∀ l ∈ active, ∀ n m, d.tree.LeadsOn l n m → used < n
  enough : d.tree.linkCount ≤ depth + active.length

/-- The search ended at `reached`, and what it remembers is right. -/
structure Resolves (d : Disk) (links : Links) (reached : Location) (r : Resolution) : Prop where
  complete : r.complete = true
  plain : r.path.Plain
  location : d.plainLocation r.path = reached
  known : d.Knows r.links
  pending : ∀ q, r.links.lookup q = some none → links.lookup q = some none

theorem Remembers.weaken {less : Nat} (remembers : d.Remembers links used) (fewer : less ≤ used) :
    d.Remembers links less where
  known := remembers.known
  pending q found n l leads := Nat.lt_of_le_of_lt fewer (remembers.pending q found n l leads)

theorem Follows.weaken {less : Nat} (follows : d.Follows active depth used)
    (fewer : less ≤ used) : d.Follows active depth less where
  distinct := follows.distinct
  links := follows.links
  needs l member n m leads := Nat.lt_of_le_of_lt fewer (follows.needs l member n m leads)
  enough := follows.enough

theorem lookup_cons_of_ne {q other : Path} {known : Option Path} (different : other ≠ q) :
    ((q, known) :: links).lookup other = links.lookup other := by
  rw [List.lookup_cons, beq_eq_false_iff_ne.mpr different]

section Link

variable {q : Path} {less : Nat} {between : Location}

/-- A link can be followed while not all links are. -/
theorem Follows.depth_pos {l : Location} {target : String} (follows : d.Follows active depth used)
    (found : d.tree.get? l = some (.link target)) (fresh : l ∉ active) : 0 < depth := by
  have places := Tree.length_le_linkCount (List.nodup_cons.mpr ⟨fresh, follows.distinct⟩)
    (List.forall_mem_cons.mpr ⟨⟨target, found⟩, follows.links⟩)
  have enough := follows.enough
  rw [List.length_cons] at places
  omega

/-- A link that needs no more links than are left is not being followed. -/
theorem Follows.not_mem {l : Location} (follows : d.Follows active depth used)
    (leads : d.tree.LeadsOn l less between) (fewer : less ≤ used) : l ∉ active := by
  intro member
  have more := follows.needs l member less between leads
  omega

/-- What holds when a link starts to be followed. -/
theorem Follows.enter {l : Location} {target : String}
    (follows : d.Follows active (depth + 1) used) (found : d.tree.get? l = some (.link target))
    (leads : d.tree.LeadsOn l (less + 1) between) (fewer : less + 1 ≤ used) :
    d.Follows (l :: active) depth less where
  distinct := List.nodup_cons.mpr ⟨follows.not_mem leads fewer, follows.distinct⟩
  links := List.forall_mem_cons.mpr ⟨⟨target, found⟩, follows.links⟩
  needs := by
    intro other member n m otherLeads
    rcases List.mem_cons.mp member with rfl | member
    · obtain ⟨rfl, -⟩ := Tree.Leads.unique leads otherLeads
      exact Nat.lt_succ_self less
    · have more := follows.needs other member n m otherLeads
      omega
  enough := by
    have enough := follows.enough
    rw [List.length_cons]
    omega

theorem Remembers.enter (remembers : d.Remembers links used)
    (leads : d.tree.LeadsOn (d.plainLocation q) (less + 1) between) (fewer : less + 1 ≤ used) :
    d.Remembers ((q, none) :: links) less where
  known := by
    intro other target found
    by_cases equal : other = q
    · simp [equal] at found
    · exact remembers.known other target (lookup_cons_of_ne equal ▸ found)
  pending := by
    intro other found n l otherLeads
    by_cases equal : other = q
    · subst equal
      obtain ⟨rfl, -⟩ := Tree.Leads.unique leads otherLeads
      exact Nat.lt_succ_self less
    · have more := remembers.pending other (lookup_cons_of_ne equal ▸ found) n l otherLeads
      omega

/-- What was being followed when a link had been followed was so when it started. -/
theorem Resolves.pending_of_followed {r : Resolution} {other : Path}
    (inner : d.Resolves ((q, none) :: links) between r)
    (found : ((q, some r.path) :: r.links).lookup other = some none) :
    links.lookup other = some none := by
  by_cases equal : other = q
  · simp [equal] at found
  · rw [lookup_cons_of_ne equal] at found
    rw [← inner.pending other found, lookup_cons_of_ne equal]

/-- What holds when a link has been followed. -/
theorem Resolves.remembers {r : Resolution} {n : Nat}
    (inner : d.Resolves ((q, none) :: links) between r) (remembers : d.Remembers links used)
    (leads : d.tree.LeadsOn (d.plainLocation q) n between) (fewer : less ≤ used) :
    d.Remembers ((q, some r.path) :: r.links) less where
  known := by
    intro other target found
    by_cases equal : other = q
    · subst equal
      rw [List.lookup_cons_self] at found
      cases found
      exact ⟨inner.plain, n, inner.location.symm ▸ leads⟩
    · exact inner.known other target (lookup_cons_of_ne equal ▸ found)
  pending := by
    intro other found m l otherLeads
    have more := remembers.pending other (inner.pending_of_followed found) m l otherLeads
    omega

end Link

/-- The path at which the target of a link met at `p` starts. -/
def linkStart (p : Path) (target : String) : Path :=
  if (Path.ofString target).isAbsolute then ⟨.single, []⟩ else p

theorem plainLocation_linkStart (d : Disk) (p : Path) (target : String) :
    d.plainLocation (linkStart p target) = targetStart (d.plainLocation p) target := by
  unfold linkStart targetStart
  split <;> rfl

theorem plain_linkStart (plain : p.Plain) (target : String) : (linkStart p target).Plain := by
  unfold linkStart
  split
  · intro _ member
    cases member
  · exact plain

/-- At a link, the components lead through its target, and what must hold to follow that does. -/
theorem enter_link {name target : String} {rest : List String}
    (remembers : d.Remembers links used) (follows : d.Follows active (depth + 1) used)
    (different : name ≠ "..")
    (link : d.tree.get? (d.plainLocation (p.child name)) = some (.link target))
    (leads : d.tree.Leads (d.plainLocation p) (name :: rest) used reached) :
    ∃ first last between, last ≤ used ∧
      d.tree.LeadsOn (d.plainLocation (p.child name)) (first + 1) between ∧
      d.Remembers ((p.child name, none) :: links) first ∧
      d.Follows (d.plainLocation (p.child name) :: active) depth first ∧
      d.tree.Leads (d.plainLocation (linkStart p target)) (Path.ofString target).parts first
        between ∧
      d.tree.Leads between rest last reached := by
  have found := link
  rw [plainLocation_child different] at found
  obtain ⟨first, last, between, rfl, alone, front, tail⟩ := leads.link_inv different found
  rw [← Tree.leadsOn_concat, ← plainLocation_child different] at alone
  refine ⟨first, last, between, by omega, alone, ?_, ?_, ?_, tail⟩
  · exact remembers.enter alone (by omega)
  · exact follows.enter link alone (by omega)
  · rwa [plainLocation_linkStart]

/-- Where components lead, a search that follows links to at most `depth` links ends there. -/
def Finds (d : Disk) (depth : Nat) (search : Links → Path → List String → Resolution) : Prop :=
  ∀ (active : List Location) (links : Links) (p : Path) (todo : List String) (used : Nat)
    (reached : Location), p.Plain → d.Remembers links used → d.Follows active depth used →
    d.tree.Leads (d.plainLocation p) todo used reached →
    d.Resolves links reached (search links p todo)

/-- The targets of links are searched while not all links are being followed. -/
def Deepens (d : Disk) (depth : Nat) :
    (deeper? : Option (Links → Path → List String → Resolution)) → Prop
  | none => depth = 0
  | some deeper => ∃ less, depth = less + 1 ∧ d.Finds less deeper

theorem finds_resolveWith {deeper? : Option (Links → Path → List String → Resolution)}
    (deepens : d.Deepens depth deeper?) : d.Finds depth (d.resolveWith deeper?) := by
  intro active links p todo used reached plain remembers follows leads
  fun_induction resolveWith d deeper? links p todo generalizing used with
  | case1 links p =>
    cases leads
    exact ⟨rfl, plain, rfl, remembers.known, fun _ => id⟩
  | case2 links p rest ih =>
    cases leads with
    | up _ tail =>
      rw [← plainLocation_above plain] at tail
      exact ih _ plain.above remembers follows tail
    | down _ different => exact absurd rfl different
    | through _ different => exact absurd rfl different
  | case3 links p name rest different target link known found ih =>
    rw [plainLocation_child different] at link
    obtain ⟨first, last, between, rfl, alone, -, tail⟩ := leads.link_inv different link
    obtain ⟨plainKnown, n, leadsOn⟩ := remembers.known _ _ found
    rw [plainLocation_child different, Tree.leadsOn_concat] at leadsOn
    obtain ⟨-, rfl⟩ := alone.unique leadsOn
    exact ih _ plainKnown (remembers.weaken (by omega)) (follows.weaken (by omega)) tail
  | case4 links p name rest different target link found =>
    rw [plainLocation_child different] at link
    obtain ⟨first, last, between, rfl, alone, -, -⟩ := leads.link_inv different link
    rw [← Tree.leadsOn_concat, ← plainLocation_child different] at alone
    -- A link that is still being followed leads over more links than are left.
    have more := remembers.pending _ found _ _ alone
    omega
  | case5 links p name rest different target link found none =>
    subst none
    rw [plainLocation_child different] at link
    obtain ⟨first, last, between, rfl, alone, -, -⟩ := leads.link_inv different link
    rw [← Tree.leadsOn_concat] at alone
    -- This link is not among those being followed, so that these are not all links yet.
    have positive := follows.depth_pos link (follows.not_mem alone (by omega))
    exact absurd deepens (Nat.ne_of_gt positive)
  | case6 links p name rest different target link found deeper some path inner complete ih =>
    subst some
    obtain ⟨less, rfl, finds⟩ := deepens
    obtain ⟨first, last, between, fewer, leadsOn, remembers', follows', front, tail⟩ :=
      enter_link remembers follows different link leads
    have followed := finds _ _ _ _ _ _ (plain_linkStart plain target) remembers' follows' front
    rw [← followed.location] at tail
    have resolved := ih _ followed.plain (followed.remembers remembers leadsOn fewer)
      (follows.weaken fewer) tail
    exact { resolved with
      pending := fun other found => followed.pending_of_followed (resolved.pending other found) }
  | case7 links p name rest different target link found deeper some path inner incomplete =>
    subst some
    obtain ⟨less, rfl, finds⟩ := deepens
    obtain ⟨first, last, between, fewer, leadsOn, remembers', follows', front, tail⟩ :=
      enter_link remembers follows different link leads
    have followed := finds _ _ _ _ _ _ (plain_linkStart plain target) remembers' follows' front
    exact absurd followed.complete incomplete
  | case8 links p name rest different noLink ih =>
    rw [plainLocation_child different] at noLink
    have tail := leads.down_inv different noLink
    rw [← plainLocation_child different] at tail
    exact ih _ (plain.child different) remembers follows tail

/-- Where components lead, the search for the real path ends there. -/
theorem finds_resolveFrom (d : Disk) (depth : Nat) : d.Finds depth (d.resolveFrom depth) := by
  induction depth with
  | zero => exact finds_resolveWith rfl
  | succ depth ih => exact finds_resolveWith ⟨depth, rfl, ih⟩

/-- The second disk is seen from the same place and has the same links. -/
structure SameLinks (d d' : Disk) : Prop where
  here : d'.here = d.here
  link_iff : ∀ l target, d'.tree.get? l = some (.link target) ↔ d.tree.get? l = some (.link target)
  count : d'.tree.linkCount = d.tree.linkCount

theorem SameLinks.of_grows {d d' : Disk} {new : Node → Prop} (here : d'.here = d.here)
    (grows : d.tree.Grows new d'.tree) : d.SameLinks d' :=
  ⟨here, grows.link_iff, grows.linkCount_eq⟩

theorem SameLinks.plainLocation_eq {d d' : Disk} (same : d.SameLinks d') (p : Path) :
    d'.plainLocation p = d.plainLocation p := by
  rw [plainLocation, plainLocation, same.here]

theorem SameLinks.resolveWith_eq {d d' : Disk} (same : d.SameLinks d')
    (deeper? : Option (Links → Path → List String → Resolution)) (links : Links) (p : Path)
    (todo : List String) :
    d'.resolveWith deeper? links p todo = d.resolveWith deeper? links p todo := by
  fun_induction resolveWith d deeper? links p todo with
  | case1 => rw [resolveWith]
  | case2 links p rest ih => rw [resolveWith, if_pos rfl, ih]
  | case3 links p name rest different target link known found ih =>
    rw [resolveWith, if_neg different, same.plainLocation_eq]
    simp only [(same.link_iff _ _).mpr link, found, ih]
  | case4 links p name rest different target link found =>
    rw [resolveWith, if_neg different, same.plainLocation_eq]
    simp only [(same.link_iff _ _).mpr link, found]
  | case5 links p name rest different target link found none =>
    rw [resolveWith, if_neg different, same.plainLocation_eq]
    simp only [(same.link_iff _ _).mpr link, found, none]
  | case6 links p name rest different target link found deeper some path inner complete ih =>
    rw [resolveWith, if_neg different, same.plainLocation_eq]
    subst some
    simp only [(same.link_iff _ _).mpr link, found]
    exact (if_pos complete).trans ih
  | case7 links p name rest different target link found deeper some path inner incomplete =>
    rw [resolveWith, if_neg different, same.plainLocation_eq]
    subst some
    simp only [(same.link_iff _ _).mpr link, found]
    exact if_neg incomplete
  | case8 links p name rest different noLink ih =>
    rw [resolveWith, if_neg different, same.plainLocation_eq]
    split
    · rename_i target link
      exact absurd ((same.link_iff _ _).mp link) (noLink target)
    · exact ih

/-- The search for a real path sees nothing of a disk but its links. -/
theorem SameLinks.resolveFrom_eq {d d' : Disk} (same : d.SameLinks d') (depth : Nat) :
    d'.resolveFrom depth = d.resolveFrom depth := by
  induction depth with
  | zero =>
    funext links p todo
    exact same.resolveWith_eq none links p todo
  | succ depth ih =>
    funext links p todo
    rw [resolveFrom, ih]
    exact same.resolveWith_eq _ links p todo

/-- The path at which the search for a real path starts. -/
def resolveStart (p : Path) : Path := if p.isAbsolute then ⟨.single, []⟩ else ⟨.relative, []⟩

theorem plain_resolveStart (p : Path) : (resolveStart p).Plain := by
  unfold resolveStart
  split <;> simp [Path.Plain]

/-- The search starts where following the path starts. -/
theorem plainLocation_resolveStart (here : ".." ∉ d.here) :
    d.plainLocation (resolveStart p) = d.start p := by
  unfold resolveStart start
  split
  · rfl
  · simp [plainLocation, Path.isAbsolute, removeParents_of_not_mem here]

/-- Where a path leads, the search for its real path ends there. -/
theorem resolves_of_leads (here : ".." ∉ d.here)
    (leads : d.tree.Leads (d.start p) p.parts used reached) :
    d.Resolves [] reached
      (d.resolveFrom (2 * d.tree.linkCount + 1) [] (resolveStart p) p.parts) := by
  rw [← plainLocation_resolveStart here] at leads
  have remembers : d.Remembers [] used := ⟨by simp [Knows], by simp⟩
  have follows : d.Follows [] (2 * d.tree.linkCount + 1) used :=
    ⟨List.nodup_nil, by simp, by simp, by simp; omega⟩
  exact finds_resolveFrom d _ _ _ _ _ _ _ (plain_resolveStart p) remembers follows leads

theorem resolve_eq_ok {real : Path} (resolved : d.resolve p = .ok real) :
    real = ⟨.single, d.plainLocation
      (d.resolveFrom (2 * d.tree.linkCount + 1) [] (resolveStart p) p.parts).path⟩ := by
  unfold resolve at resolved
  split at resolved
  · cases resolved
  · dsimp only at resolved
    rw [← resolveStart] at resolved
    split at resolved
    · cases resolved
    · exact (Except.ok.inj resolved).symm

/-- The real path is what is found, unless the text of the path holds a null character or a loop of
    links is met. -/
theorem resolve_of_found {real : Path}
    (clean : (p.parts.any fun part => part.toList.contains '\x00') = false)
    (found : real = ⟨.single, d.plainLocation
      (d.resolveFrom (2 * d.tree.linkCount + 1) [] (resolveStart p) p.parts).path⟩)
    (fine : d.node real ≠ .error .tooManyLinks) : d.resolve p = .ok real := by
  unfold resolve
  rw [clean, if_neg Bool.false_ne_true, ← resolveStart]
  dsimp only
  rw [← found]
  split
  · rename_i looping
    exact absurd looping fine
  · rfl

/-- A path's real path, told when the path may not have led anywhere yet, is where it leads on any
    disk with the same links. -/
theorem eq_of_resolve {d' : Disk} {real : Path} {at_ : Location} (same : d.SameLinks d')
    (here : ".." ∉ d.here) (resolved : d.resolve p = .ok real)
    (located : d'.locate true p = .ok at_) : real = ⟨.single, at_⟩ := by
  obtain ⟨-, walked⟩ := locate_eq_ok.mp located
  obtain ⟨used, -, leads⟩ := Tree.walk_eq_ok.mp walked
  have location := (resolves_of_leads (same.here ▸ here) leads).location
  rw [same.resolveFrom_eq, same.count, same.plainLocation_eq] at location
  rw [resolve_eq_ok resolved, location]

end Disk

end Scaffold.Files

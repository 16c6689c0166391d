import Mathlib.Data.List.Infix
import Scaffold.Files.Path

/-!
# The order of source roots

The package in front of a type is told by the first source root that a resource begins with.  Where
no root lies below another, all the roots that a resource begins with have the same components, so
that the order of the roots does not matter; where one does, it decides about a resource below both.
-/

namespace Scaffold.Files

/-- No root lies below another one: if the components of a root begin those of another, they are the
    same. -/
def Unnested (roots : List Path) : Prop :=
  ∀ root ∈ roots, ∀ other ∈ roots, root.parts <+: other.parts → root.parts = other.parts

instance (roots : List Path) : Decidable (Unnested roots) :=
  inferInstanceAs (Decidable (∀ root ∈ roots, ∀ other ∈ roots,
    root.parts <+: other.parts → root.parts = other.parts))

variable {resource root other : Path} {roots others : List Path} {isDirectory : Bool}

theorem beginsWith_iff : root.beginsWith resource = true ↔ root.parts <+: resource.parts :=
  List.isPrefixOf_iff_prefix

section OneRoot

/-- A root is looked at through its components only. -/
theorem packagePrefix_singleton_congr (same : root.parts = other.parts) :
    packagePrefix resource [root] isDirectory = packagePrefix resource [other] isDirectory := by
  have alike : root.beginsWith resource = other.beginsWith resource := by
    rw [Path.beginsWith, Path.beginsWith, same]
  unfold packagePrefix
  rw [List.find?_singleton, List.find?_singleton, alike]
  cases other.beginsWith resource with
  | true => simp only [if_true, same]
  | false => rfl

/-- The root that is found decides alone. -/
theorem packagePrefix_of_find (found : roots.find? (·.beginsWith resource) = some root) :
    packagePrefix resource roots isDirectory = packagePrefix resource [root] isDirectory := by
  have begins : [root].find? (·.beginsWith resource) = some root := by
    simp [List.find?_some found]
  rw [packagePrefix, packagePrefix, found, begins]

/-- The first root decides alone about what begins with it. -/
theorem packagePrefix_cons (begins : root.beginsWith resource = true) :
    packagePrefix resource (root :: roots) isDirectory =
      packagePrefix resource [root] isDirectory :=
  packagePrefix_of_find (List.find?_cons_of_pos begins)

/-- A resource outside of all roots has no package. -/
theorem packagePrefix_of_foreign (foreign : ∀ root ∈ roots, ¬ root.beginsWith resource = true) :
    packagePrefix resource roots isDirectory = "" := by
  rw [packagePrefix, List.find?_eq_none.mpr foreign]

/-- The package of a directory is spelled by the components behind its root. -/
theorem packagePrefix_of_append {behind : List String}
    (whole : resource.parts = root.parts ++ behind) (named : ".".intercalate behind ≠ "") :
    packagePrefix resource [root] true = ".".intercalate behind ++ "." := by
  have begins : root.beginsWith resource = true := by
    rw [beginsWith_iff, whole]
    exact List.prefix_append _ _
  simp [packagePrefix, begins, whole, named]

end OneRoot

section Unnested

/-- Unnested roots of one resource have the same components. -/
theorem Unnested.parts_eq (unnested : Unnested roots) (member : root ∈ roots)
    (begins : root.beginsWith resource = true) (another : other ∈ roots)
    (alsoBegins : other.beginsWith resource = true) : root.parts = other.parts := by
  rw [beginsWith_iff] at begins alsoBegins
  rcases List.prefix_or_prefix_of_prefix begins alsoBegins with above | below
  · exact unnested root member other another above
  · exact (unnested other another root member below).symm

/-- Every one of the roots that a resource begins with decides as if it were the only one. -/
theorem Unnested.packagePrefix_eq (unnested : Unnested roots) (member : root ∈ roots)
    (begins : root.beginsWith resource = true) :
    packagePrefix resource roots isDirectory = packagePrefix resource [root] isDirectory := by
  cases found : roots.find? (·.beginsWith resource) with
  | none => exact absurd begins (List.find?_eq_none.mp found root member)
  | some first =>
    have firstBegins : first.beginsWith resource = true := by simpa using List.find?_some found
    have same := unnested.parts_eq (List.mem_of_find?_eq_some found) firstBegins member begins
    rw [packagePrefix_of_find found, packagePrefix_singleton_congr same]

/-- Of unnested roots only those matter that the resource begins with, and neither their order nor
    how often they occur. -/
theorem Unnested.packagePrefix_congr (unnested : Unnested roots) (alsoUnnested : Unnested others)
    (matching : ∀ root, root.beginsWith resource = true → (root ∈ others ↔ root ∈ roots)) :
    packagePrefix resource others isDirectory = packagePrefix resource roots isDirectory := by
  by_cases within : ∃ root ∈ roots, root.beginsWith resource = true
  · obtain ⟨root, member, begins⟩ := within
    rw [unnested.packagePrefix_eq member begins,
      alsoUnnested.packagePrefix_eq ((matching root begins).mpr member) begins]
  · rw [packagePrefix_of_foreign, packagePrefix_of_foreign]
    · exact fun root member begins => within ⟨root, member, begins⟩
    · exact fun root member begins => within ⟨root, (matching root begins).mp member, begins⟩

theorem Unnested.of_perm (unnested : Unnested roots) (reordered : others.Perm roots) :
    Unnested others :=
  fun root member other another =>
    unnested root (reordered.mem_iff.mp member) other (reordered.mem_iff.mp another)

end Unnested

section Nested

/-- More than one component is spelled with a dot. -/
theorem dot_mem_intercalate {parts : List String} (several : 2 ≤ parts.length) :
    '.' ∈ (".".intercalate parts).toList := by
  match parts, several with
  | first :: second :: more, _ =>
    simp [String.toList_intercalate]

/-- A root and another one below it tell different packages of a directory in the latter. -/
theorem packagePrefix_ne_of_nested (nested : root.parts <+: other.parts)
    (different : root.parts ≠ other.parts) :
    packagePrefix (other.child "x") [root] true ≠ packagePrefix (other.child "x") [other] true := by
  obtain ⟨between, whole⟩ := nested
  have nonempty : between ≠ [] := by
    rintro rfl
    exact different (by simpa using whole)
  have dotted : '.' ∈ (".".intercalate (between ++ ["x"])).toList := by
    apply dot_mem_intercalate
    have positive := List.length_pos_iff.mpr nonempty
    simp
    omega
  have named : ".".intercalate (between ++ ["x"]) ≠ "" := by
    intro empty
    rw [empty] at dotted
    cases dotted
  have spelled : (other.child "x").parts = root.parts ++ (between ++ ["x"]) := by
    rw [Path.child, ← whole, List.append_assoc]
  have near : packagePrefix (other.child "x") [other] true = ".".intercalate ["x"] ++ "." :=
    packagePrefix_of_append rfl (by decide)
  rw [packagePrefix_of_append spelled named, near]
  intro same
  have ended : (".".intercalate (between ++ ["x"])).toList ++ ['.'] = ['x'] ++ ['.'] := by
    simpa using congrArg String.toList same
  rw [List.append_cancel_right ended] at dotted
  simp at dotted

end Nested

/-- The order of source roots matters only where they nest: of unnested roots every order tells the
    same package of every resource, and so does every list of unnested roots that differs from them
    in roots elsewhere; of nested roots some order tells another package of some resource. -/
theorem packagePrefix_unordered (roots : List Path) :
    (Unnested roots ↔ ∀ others, others.Perm roots → ∀ resource isDirectory,
      packagePrefix resource others isDirectory = packagePrefix resource roots isDirectory) ∧
    (Unnested roots → ∀ others, Unnested others → ∀ resource isDirectory,
      (others.filter (·.beginsWith resource)).Perm (roots.filter (·.beginsWith resource)) →
      packagePrefix resource others isDirectory = packagePrefix resource roots isDirectory) := by
  refine ⟨⟨?_, ?_⟩, ?_⟩
  · intro unnested others reordered resource isDirectory
    exact unnested.packagePrefix_congr (unnested.of_perm reordered)
      fun root _ => reordered.mem_iff
  · intro unordered root member other another nested
    by_contra different
    have first := unordered _ (List.perm_cons_erase member).symm (other.child "x") true
    have last := unordered _ (List.perm_cons_erase another).symm (other.child "x") true
    have below : other.beginsWith (other.child "x") = true :=
      beginsWith_iff.mpr (List.prefix_append _ _)
    have above : root.beginsWith (other.child "x") = true :=
      beginsWith_iff.mpr (nested.trans (List.prefix_append _ _))
    rw [packagePrefix_cons above] at first
    rw [packagePrefix_cons below] at last
    exact packagePrefix_ne_of_nested nested different (first.trans last.symm)
  · intro unnested others alsoUnnested resource isDirectory matching
    refine unnested.packagePrefix_congr alsoUnnested fun root begins => ?_
    have same := matching.mem_iff (a := root)
    simpa [begins] using same

/-- Two spellings of one root and a root beside it, in another order and with a root elsewhere. -/
theorem packagePrefix_unordered_respelled :
    let resource := Path.ofString "/p/src/com/x"
    let roots := ["/p//src/.", "/p/test", "//p/src"].map Path.ofString
    let others := ["/q", "//p/src", "/p/test", "/p//src/."].map Path.ofString
    Unnested roots ∧ Unnested others ∧ roots.reverse.Perm roots ∧
      (others.filter (·.beginsWith resource)).Perm (roots.filter (·.beginsWith resource)) ∧
      packagePrefix resource roots true = "com.x." ∧
      packagePrefix resource roots.reverse true = "com.x." ∧
      packagePrefix resource others true = "com.x." := by
  intro resource roots others
  have unnested : Unnested roots := by decide +kernel
  have alsoUnnested : Unnested others := by decide +kernel
  have matching : (others.filter (·.beginsWith resource)).Perm
      (roots.filter (·.beginsWith resource)) := by decide +kernel
  have package : packagePrefix resource roots true = "com.x." := by decide +kernel
  obtain ⟨reorder, change⟩ := packagePrefix_unordered roots
  refine ⟨unnested, alsoUnnested, roots.reverse_perm, matching, package, ?_, ?_⟩
  · rw [reorder.mp unnested _ roots.reverse_perm, package]
  · rw [change unnested others alsoUnnested resource true matching, package]

/-- The nearer of two nested roots counts only if it comes first. -/
example :
    let resource := Path.ofString "/p/src/com/x"
    packagePrefix resource [.ofString "/p/src", .ofString "/p"] true = "com.x." ∧
      packagePrefix resource [.ofString "/p", .ofString "/p/src"] true = "src.com.x." := by
  decide +kernel

end Scaffold.Files

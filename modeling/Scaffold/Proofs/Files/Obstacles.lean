import Scaffold.Files.Resolve
import Scaffold.Proofs.Files.Effect

/-!
# What following a path can fail with

Testing for a file takes every obstacle for an absence, except that something on the way is too
long.  Looking for a real path fails only over a null character or a loop of links.
-/

namespace Scaffold.Files

namespace Tree

variable {t : Tree} {final : Bool} {links : Nat} {at_ : Location} {parts : List String}
  {why : Obstacle}

theorem meansAbsent_or_tooLong_of_walkWith
    {through : Location → List String → Except Obstacle Location}
    (onward : ∀ at_ parts why, through at_ parts = .error why →
      why.meansAbsent = true ∨ why = .nameTooLong)
    (failed : t.walkWith final through at_ parts = .error why) :
    why.meansAbsent = true ∨ why = .nameTooLong := by
  fun_induction walkWith t final through at_ parts with
  | case1 => cases failed
  | case2 =>
    cases failed
    exact .inl rfl
  | case3 _ _ _ ih => exact ih failed
  | case4 =>
    cases failed
    exact .inr rfl
  | case5 =>
    cases failed
    exact .inl rfl
  | case6 => cases failed
  | case7 => exact onward _ _ _ failed
  | case8 _ _ _ _ _ _ _ _ _ ih => exact ih failed

/-- Components are followed up to an absence or to something that is too long. -/
theorem meansAbsent_or_tooLong_of_walk (failed : t.walk final links at_ parts = .error why) :
    why.meansAbsent = true ∨ why = .nameTooLong := by
  induction links generalizing at_ parts why with
  | zero =>
    refine meansAbsent_or_tooLong_of_walkWith ?_ failed
    rintro _ _ _ ⟨⟩
    exact .inl rfl
  | succ links ih => exact meansAbsent_or_tooLong_of_walkWith (fun _ _ _ => ih) failed

end Tree

namespace Disk

variable {d : Disk} {p : Path} {why : Obstacle} {fault : Fault}

theorem meansAbsent_or_tooLong_of_node (failed : d.node p = .error why) :
    why.meansAbsent = true ∨ why = .nameTooLong := by
  unfold node at failed
  split at failed
  · rename_i obstacle located
    cases failed
    unfold locate at located
    split at located
    · rename_i text
      cases located
      rcases textObstacle?_eq_some text with rfl | rfl
      · exact .inr rfl
      · exact .inl rfl
    · exact Tree.meansAbsent_or_tooLong_of_walk located
  · split at failed
    · cases failed
    · cases failed
      exact .inl rfl

/-- A test of a node fails exactly if something on the way is too long. -/
theorem test_eq_error {test : Node → Bool} :
    d.test test p = .error fault ↔
      d.node p = .error .nameTooLong ∧ fault = .obstacle .nameTooLong p := by
  unfold Disk.test
  cases found : d.node p with
  | ok node => simp
  | error why =>
    rcases meansAbsent_or_tooLong_of_node found with absent | rfl
    · have different : why ≠ .nameTooLong := by
        rintro rfl
        cases absent
      simp [absent, different]
    · simp [Obstacle.meansAbsent, eq_comm]

/-- A path is too long to be tested if its components are followed up to one that is too long. -/
theorem node_tooLong (clean : (p.parts.any fun part => part.toList.contains '\x00') = false)
    (long : d.tree.walk true maxLinks (d.start p) p.parts = .error .nameTooLong) :
    d.node p = .error .nameTooLong := by
  have located : d.locate true p = .error .nameTooLong := by
    rw [locate, textObstacle?, clean, long]
    split
    · rename_i text
      split at text
      · rename_i null
        cases null
      · split at text <;> cases text
        rfl
    · rfl
  rw [node, located]

/-- No loop of links is met where following the components stops for another reason. -/
theorem node_ne_tooManyLinks
    (stops : d.tree.walk true maxLinks (d.start p) p.parts = .error why)
    (other : why ≠ .tooManyLinks) : d.node p ≠ .error .tooManyLinks := by
  cases spelled : textObstacle? p with
  | none => simpa [node, locate, spelled, stops] using other
  | some text =>
    rcases textObstacle?_eq_some spelled with rfl | rfl <;> simp [node, locate, spelled]

/-- The search for a real path fails over a null character, or where the real path is in a loop of
    links. -/
theorem resolve_eq_error (failed : d.resolve p = .error fault) :
    fault = .obstacle .embeddedNull p ∨
      ∃ real, d.node real = .error .tooManyLinks ∧ fault = .linkLoop real := by
  unfold resolve at failed
  split at failed
  · cases failed
    exact .inl rfl
  · dsimp only at failed
    split at failed
    · rename_i looping
      cases failed
      exact .inr ⟨_, looping, rfl⟩
    · cases failed

/-- The text of a path that can be tested and has a real path is no obstacle. -/
theorem textObstacle?_of_exists? {found : Bool} {real : Path} (tested : d.exists? p = .ok found)
    (resolved : d.resolve p = .ok real) : textObstacle? p = none := by
  cases obstacle : textObstacle? p with
  | none => rfl
  | some why =>
    rcases textObstacle?_eq_some obstacle with rfl | rfl
    · have long : d.node p = .error .nameTooLong := by rw [node, locate, obstacle]
      cases tested.symm.trans (test_eq_error.mpr ⟨long, rfl⟩)
    · unfold textObstacle? at obstacle
      split at obstacle
      · rename_i null
        rw [resolve, if_pos null] at resolved
        cases resolved
      · split at obstacle <;> cases obstacle

end Disk

end Scaffold.Files

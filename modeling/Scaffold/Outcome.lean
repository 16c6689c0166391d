/-!
# Outcomes

A computation that may fail ends well if each of its steps does, and then with what the steps made.
Outcomes are told by what is left of them as options, since faults cannot always be compared.
-/

namespace Scaffold

variable {ε ε' α β : Type} {x : Except ε α} {a : α} {b : β}

/-- A mapped outcome is a good one if there was one before, and then it is this one, mapped. -/
theorem map_eq_ok {f : α → β} : x.map f = .ok b ↔ ∃ a, x = .ok a ∧ f a = b := by
  cases x <;> simp [Except.map]

theorem mapError_eq_ok {f : ε → ε'} : x.mapError f = .ok a ↔ x = .ok a := by
  cases x with
  | error fault => constructor <;> intro done <;> cases done
  | ok b =>
    constructor
    · exact fun done => congrArg Except.ok (Except.ok.inj done)
    · exact fun done => congrArg Except.ok (Except.ok.inj done)

theorem bind_eq_ok {onward : α → Except ε β} :
    x >>= onward = .ok b ↔ ∃ a, x = .ok a ∧ onward a = .ok b := by
  cases x <;> simp [bind, Except.bind]

theorem eq_ok_of_toOption (same : x.toOption = some a) : x = .ok a := by
  cases x with
  | error fault => cases same
  | ok b => rw [Option.some.inj same]

theorem eq_ok_of_isOk (done : x.isOk) : ∃ a, x = .ok a := by
  cases x with
  | error fault => cases done
  | ok a => exact ⟨a, rfl⟩

end Scaffold

import Mathlib.Data.List.Basic

/-!
# Texts with an ending

What is left of a text without an ending tells the text.
-/

namespace Scaffold.Text

theorem endsWith_iff {s ending : String} :
    s.endsWith ending = true ↔ ending.toList <:+ s.toList := by
  rw [String.endsWith_eq_endsWith_toSlice, String.Slice.endsWith_string_iff, String.copy_toSlice]

theorem endsWith_append (s ending : String) : (s ++ ending).endsWith ending = true :=
  endsWith_iff.mpr ⟨s.toList, String.toList_append.symm⟩

theorem dropEnd_append (s ending : String) :
    ((s ++ ending).dropEnd ending.length).toString = s := by
  apply String.toList_inj.mp
  rw [String.Slice.toString_eq, String.toList_copy_dropEnd, String.toList_append,
    ← String.length_toList, List.length_append, Nat.add_sub_cancel, List.take_left']
  rfl

theorem append_of_endsWith {s ending : String} (ends : s.endsWith ending = true) :
    (s.dropEnd ending.length).toString ++ ending = s := by
  obtain ⟨front, split⟩ := endsWith_iff.mp ends
  have whole : String.ofList front ++ ending = s := by
    apply String.toList_inj.mp
    simp [split]
  rw [← whole, dropEnd_append]

end Scaffold.Text

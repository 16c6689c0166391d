/-!
# Line ends

Text comes with three spellings of the end of a line; readers see only one.
-/

namespace Scaffold.Text

/-- A carriage return, alone or before a line feed, becomes a line feed. -/
def unifyLines : List Char → List Char
  | [] => []
  | '\r' :: '\n' :: cs => '\n' :: unifyLines cs
  | c :: cs => (if c = '\r' then '\n' else c) :: unifyLines cs

/-- Only a carriage return before a line feed is dropped. -/
def dropPairedReturns : List Char → List Char
  | [] => []
  | '\r' :: '\n' :: cs => '\n' :: dropPairedReturns cs
  | c :: cs => c :: dropPairedReturns cs

theorem not_mem_unifyLines (cs : List Char) : '\r' ∉ unifyLines cs := by
  fun_induction unifyLines cs with
  | case1 => simp
  | case2 cs ih => simp [ih]
  | case3 c cs _ ih =>
    by_cases h : c = '\r'
    · simp [h, ih]
    · simp [h, ih, Ne.symm h]

end Scaffold.Text

import Scaffold.Proofs.Scala.Skipping

/-!
# Block comments

A block comment stands between its marks and consists of comments and of characters at which no mark
begins; `isComment_iff` says that these are the comments that gaps hold.  Skipping keeps count of
the comments that are open and of nothing else; `afterComment_shortest` says that it ends where the
comment of the grammar does, and that a comment is not closed exactly if no beginning of the text is
one.
-/

namespace Scaffold.Scala

/-- The text between the marks of a comment, where the text `behind` follows: comments, and
    characters at which no mark begins. -/
inductive CommentBody : (behind body : List Char) → Prop
  | nil {behind : List Char} : CommentBody behind []
  | comment {behind inner more : List Char} : CommentBody ('*' :: '/' :: more ++ behind) inner →
      CommentBody behind more → CommentBody behind ('/' :: '*' :: inner ++ '*' :: '/' :: more)
  | character {behind more : List Char} {c : Char} : ¬ ['/', '*'] <+: c :: more ++ behind →
      ¬ ['*', '/'] <+: c :: more ++ behind → CommentBody behind more →
      CommentBody behind (c :: more)

/-- A text is a block comment, where the text `behind` follows. -/
def IsComment (behind text : List Char) : Prop :=
  ∃ body, text = '/' :: '*' :: body ++ ['*', '/'] ∧ CommentBody ('*' :: '/' :: behind) body

/-- A block comment stands in a source from one offset up to another. -/
def CommentAt (source : List Char) (start stop : Nat) : Prop :=
  ∃ text behind, source.drop start = text ++ behind ∧ IsComment behind text ∧
    stop = start + text.length

section Grammar

variable {behind body tail rest cs text : List Char}

/-- What stands in front of the last mark of a comment is its body, whatever follows. -/
theorem CommentTail.exists_body (closed : CommentTail tail) :
    ∃ body, tail = body ++ ['*', '/'] ∧ ∀ behind, CommentBody ('*' :: '/' :: behind) body := by
  induction closed with
  | close => exact ⟨[], rfl, fun _ => .nil⟩
  | nested _ _ inside outside =>
    obtain ⟨inner, rfl, enclosed⟩ := inside
    obtain ⟨more, rfl, follows⟩ := outside
    refine ⟨'/' :: '*' :: inner ++ '*' :: '/' :: more, by simp, fun behind => ?_⟩
    exact .comment (enclosed _) (follows behind)
  | @other c _ opens ends _ ih =>
    obtain ⟨body, rfl, follows⟩ := ih
    refine ⟨c :: body, rfl, fun behind => ?_⟩
    -- The last mark is long enough to tell which mark begins at the character.
    have within : ∀ mark : List Char, mark.length = 2 →
        mark <+: c :: body ++ '*' :: '/' :: behind → mark <+: c :: (body ++ ['*', '/']) := by
      intro mark short begins
      have front : c :: (body ++ ['*', '/']) <+: c :: body ++ '*' :: '/' :: behind :=
        ⟨behind, by simp⟩
      exact List.prefix_of_prefix_length_le begins front (by simp [short])
    exact .character (mt (within _ rfl) opens) (mt (within _ rfl) ends) (follows behind)

/-- A body and what closes the comment that it stands in close this comment. -/
theorem CommentBody.closes (enclosed : CommentBody behind body) {outer : List Char}
    (front : outer <+: behind) (closed : CommentTail outer) : CommentTail (body ++ outer) := by
  induction enclosed generalizing outer with
  | nil => exact closed
  | @comment _ inner _ _ _ inside outside =>
    have ended : CommentTail (inner ++ ['*', '/']) := inside ⟨_, rfl⟩ .close
    have whole := CommentTail.nested ended (outside front closed)
    simpa using whole
  | @character behind more c opens ends _ ih =>
    have within : c :: more ++ outer <+: c :: more ++ behind :=
      (List.prefix_append_right_inj _).mpr front
    exact .other (fun mark => opens (mark.trans within)) (fun mark => ends (mark.trans within))
      (ih front closed)

/-- A block comment is an opening mark and a text that closes it. -/
theorem isComment_iff :
    IsComment behind text ↔ ∃ tail, text = '/' :: '*' :: tail ∧ CommentTail tail := by
  constructor
  · rintro ⟨body, rfl, enclosed⟩
    exact ⟨_, rfl, enclosed.closes ⟨behind, rfl⟩ .close⟩
  · rintro ⟨tail, rfl, closed⟩
    obtain ⟨body, rfl, enclosed⟩ := closed.exists_body
    exact ⟨body, rfl, enclosed behind⟩

/-- Skipping ends behind the text that closes the comment. -/
theorem afterComment_eq_some :
    afterComment 0 cs = some rest ↔ ∃ tail, cs = tail ++ rest ∧ CommentTail tail := by
  constructor
  · exact closes_of_afterComment
  · rintro ⟨tail, rfl, closed⟩
    exact (afterComment_tail closed).1 rest

end Grammar

section Places

variable {source cs rest : List Char} {start stop other : Nat}

/-- A comment ends behind its beginning, where it has been skipped. -/
theorem CommentAt.skipped (opens : source.drop start = '/' :: '*' :: cs)
    (comment : CommentAt source start stop) :
    afterComment 0 cs = some (source.drop stop) ∧ start < stop ∧ stop ≤ source.length := by
  obtain ⟨text, rest, whole, isComment, rfl⟩ := comment
  have behind : source.drop (start + text.length) = rest := by
    rw [← List.drop_drop, whole, List.drop_left]
  have size := congrArg List.length whole
  obtain ⟨tail, rfl, closed⟩ := isComment_iff.mp isComment
  rw [opens, List.cons_append, List.cons_append] at whole
  obtain rfl : cs = tail ++ rest := by simpa using whole
  simp only [List.length_drop, List.length_append, List.length_cons] at size
  refine ⟨?_, ?_, ?_⟩
  · rw [behind]
    exact afterComment_eq_some.mpr ⟨tail, rfl, closed⟩
  · simp
  · simp only [List.length_cons]
    omega

/-- A comment that is skipped stands in the source, up to what is left behind it. -/
theorem exists_commentAt (opens : source.drop start = '/' :: '*' :: cs)
    (skipped : afterComment 0 cs = some rest) :
    ∃ stop, CommentAt source start stop ∧ rest = source.drop stop := by
  obtain ⟨tail, rfl, closed⟩ := afterComment_eq_some.mp skipped
  have whole : source.drop start = '/' :: '*' :: tail ++ rest := opens
  refine ⟨_, ⟨_, _, whole, isComment_iff.mpr ⟨tail, rfl, closed⟩, rfl⟩, ?_⟩
  rw [← List.drop_drop, whole, List.drop_left]

/-- Only one comment begins at an opening mark. -/
theorem CommentAt.unique (opens : source.drop start = '/' :: '*' :: cs)
    (comment : CommentAt source start stop) (another : CommentAt source start other) :
    stop = other := by
  obtain ⟨skipped, -, inside⟩ := comment.skipped opens
  obtain ⟨skipped', -, inside'⟩ := another.skipped opens
  have same := congrArg List.length (Option.some.inj (skipped.symm.trans skipped'))
  rw [List.length_drop, List.length_drop] at same
  omega

/-- Behind a comment the text is read as if it began there. -/
theorem tokenizeFrom_comment (opens : source.drop start = '/' :: '*' :: cs)
    (comment : CommentAt source start stop) :
    tokenizeFrom start (source.drop start) = tokenizeFrom stop (source.drop stop) := by
  obtain ⟨skipped, later, inside⟩ := comment.skipped opens
  have gap : skipGap (source.drop start) = skipGap (source.drop stop) := by
    rw [opens, skipGap_comment skipped]
  refine tokenizeFrom_congr gap ?_
  rw [List.length_drop, List.length_drop]
  omega

/-- A comment that is not closed is a fault at its opening mark. -/
theorem tokenizeFrom_unclosed (opens : source.drop start = '/' :: '*' :: cs)
    (unclosed : afterComment 0 cs = none) :
    tokenizeFrom start (source.drop start) = .error ⟨.unclosedComment, start⟩ := by
  have gap : skipGap (source.drop start) = .error (source.drop start) := by
    rw [opens, skipGap_opening, unclosed]
  rw [tokenizeFrom_of_unclosed gap, Nat.sub_self, Nat.add_zero]

/-- A fault does not lie before the text that is read. -/
theorem le_offset_of_fault {fault : LexFault} (failed : tokenizeFrom start cs = .error fault) :
    start ≤ fault.offset := by
  rw [← Nat.zero_add start, tokenizeFrom_add] at failed
  cases read : tokenizeFrom 0 cs with
  | ok tokens =>
    rw [read] at failed
    cases failed
  | error fault =>
    rw [read] at failed
    cases failed
    exact Nat.le_add_left start fault.offset

/-- Block comments are skipped exactly: from an opening mark on, skipping ends behind the shortest
    comment of the grammar, and what follows is read as if it began there.  Where no comment of the
    grammar begins at the mark, and only there, the mark is the place of a fault, which says that a
    comment is not closed. -/
theorem afterComment_shortest (opens : source.drop start = '/' :: '*' :: cs) :
    (∀ rest, afterComment 0 cs = some rest ↔
      ∃ stop, CommentAt source start stop ∧ rest = source.drop stop ∧
        ∀ other, CommentAt source start other → stop ≤ other) ∧
    (∀ stop, CommentAt source start stop →
      tokenizeFrom start (source.drop start) = tokenizeFrom stop (source.drop stop)) ∧
    (tokenizeFrom start (source.drop start) = .error ⟨.unclosedComment, start⟩ ↔
      ¬ ∃ stop, CommentAt source start stop) ∧
    LexFault.message ⟨.unclosedComment, start⟩ =
      "Offset " ++ toString start ++ ": " ++ "unclosed comment" := by
  refine ⟨fun rest => ⟨?_, ?_⟩, fun stop => tokenizeFrom_comment opens, ⟨?_, ?_⟩, rfl⟩
  · intro skipped
    obtain ⟨stop, comment, behind⟩ := exists_commentAt opens skipped
    exact ⟨stop, comment, behind, fun other another => (comment.unique opens another).le⟩
  · rintro ⟨stop, comment, rfl, -⟩
    exact (comment.skipped opens).1
  · rintro failed ⟨stop, comment⟩
    rw [tokenizeFrom_comment opens comment] at failed
    have later := (comment.skipped opens).2.1
    have before := le_offset_of_fault failed
    exact absurd later (Nat.not_lt.mpr before)
  · intro none
    apply tokenizeFrom_unclosed opens
    rw [Option.eq_none_iff_forall_ne_some]
    intro rest skipped
    obtain ⟨stop, comment, -⟩ := exists_commentAt opens skipped
    exact none ⟨stop, comment⟩

/-- Marks that overlap: `/*/` only opens a comment, and `*/*/` only closes two. -/
theorem afterComment_shortest_overlapping :
    ("x/*/**/ /*/ */*/y".toList.drop 1 = '/' :: '*' :: "/**/ /*/ */*/y".toList ∧
      ∃ stop, CommentAt "x/*/**/ /*/ */*/y".toList 1 stop ∧
        ['y'] = "x/*/**/ /*/ */*/y".toList.drop stop) ∧
    ("x/*/".toList.drop 1 = '/' :: '*' :: ['/'] ∧ ¬ ∃ stop, CommentAt "x/*/".toList 1 stop) := by
  have opens : "x/*/**/ /*/ */*/y".toList.drop 1 = '/' :: '*' :: "/**/ /*/ */*/y".toList := rfl
  have alone : "x/*/".toList.drop 1 = '/' :: '*' :: ['/'] := rfl
  have skipped : afterComment 0 "/**/ /*/ */*/y".toList = some ['y'] := by decide
  have failed : tokenizeFrom 1 ("x/*/".toList.drop 1) = .error ⟨.unclosedComment, 1⟩ := by
    decide +kernel
  obtain ⟨stop, comment, behind, -⟩ := ((afterComment_shortest opens).1 ['y']).mp skipped
  exact ⟨⟨opens, stop, comment, behind⟩, alone, (afterComment_shortest alone).2.2.1.mp failed⟩

end Places

end Scaffold.Scala

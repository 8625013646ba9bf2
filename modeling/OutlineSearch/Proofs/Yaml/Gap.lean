import OutlineSearch.Proofs.Yaml.Plain
import OutlineSearch.Yaml.Token

/-!
# Between tokens

Behind a scalar comes the end of its line, perhaps with empty lines and comments behind it.
The reader passes all of this up to the next token, whether the scalar has quotes or not: a
plain scalar ends somewhere among these lines, and the rest of them is passed afterwards.
-/

namespace OutlineSearch.Yaml

/-- A line that holds no token. -/
def IsIdle (line : Text) : Prop :=
  line = [] ∨ ∃ comment, line = '#' :: comment ∧ ∀ c ∈ comment, IsInline c

/-- Lines without tokens, and the spaces in front of the next line. -/
def gapText (lines : List Text) (indent : Nat) : Text :=
  lines.flatMap (· ++ ['\n']) ++ List.replicate indent ' '

/-- A token may begin with the first character of a text, or the text is empty. -/
def StartsToken (t : Text) : Prop := ∀ c ∈ t.head?, IsInline c ∧ c ≠ ' ' ∧ c ≠ '#'

theorem gapText_cons (line : Text) (lines : List Text) (indent : Nat) (r : Text) :
    gapText (line :: lines) indent ++ r = line ++ '\n' :: (gapText lines indent ++ r) := by
  simp [gapText]

theorem length_gapText_cons (line : Text) (lines : List Text) (indent : Nat) :
    (gapText (line :: lines) indent).length =
      line.length + ((gapText lines indent).length + 1) := by
  have whole := gapText_cons line lines indent []
  rw [List.append_nil, List.append_nil] at whole
  rw [whole, List.length_append, List.length_cons]

theorem IsIdle.visible {line : Text} (idle : IsIdle line) : ∀ c ∈ line, IsInline c := by
  rcases idle with rfl | ⟨comment, rfl, visible⟩
  · simp
  · rw [List.forall_mem_cons]
    exact ⟨by decide, visible⟩

theorem startsToken_cons {c : Char} {r : Text} (visible : IsInline c) (notSpace : c ≠ ' ')
    (notComment : c ≠ '#') : StartsToken (c :: r) := by
  intro d first
  obtain rfl := Option.some_inj.mp first
  exact ⟨visible, notSpace, notComment⟩

theorem IsPlainWord.startsToken {word : Text} (isWord : IsPlainWord word) (r : Text) :
    StartsToken (word ++ r) := by
  obtain ⟨c, rest, rfl⟩ := List.exists_cons_of_ne_nil isWord.nonempty
  obtain ⟨visible, notSpace⟩ := isWord.visible c List.mem_cons_self
  exact startsToken_cons visible notSpace fun comment => isWord.notComment (congrArg some comment)

theorem StartsToken.solid {r : Text} (starts : StartsToken r) :
    ∀ c ∈ r.head?, IsInline c ∧ c ≠ ' ' :=
  fun c first => ⟨(starts c first).1, (starts c first).2.1⟩

theorem StartsToken.notSpace {r : Text} (starts : StartsToken r) : r.head? ≠ some ' ' :=
  fun space => (starts ' ' space).2.1 rfl

namespace Source

variable {s : Source} {r : Text}

/-- The reader passes from a place to another one; `crossed` tells whether a line ends between
them. -/
def Passes (s behind : Source) (crossed : Bool) : Prop :=
  ∀ x : Lexer, x.source = s → x.depth = 0 → ∀ limit, s.rest.length < limit →
    x.toNextToken limit = { x with source := behind, keyAllowed := x.keyAllowed || crossed }

theorem dropComment_of_startsToken (split : s.rest = r) (starts : StartsToken r) :
    s.dropComment = s ∧ s.peek.any isBreak = false := by
  rw [dropComment, isAt, peek, split]
  cases shape : r.head? with
  | none => exact ⟨rfl, rfl⟩
  | some c =>
      obtain ⟨visible, -, notComment⟩ := starts c shape
      have other : (some c == some '#') = false := by simpa using notComment
      rw [other, if_neg Bool.false_ne_true]
      exact ⟨rfl, visible.isBreak_eq_false⟩

theorem passes_spaces {count : Nat} (split : s.rest = List.replicate count ' ' ++ r)
    (starts : StartsToken r) : Passes s (s.skip count) false := by
  intro x source depth limit enough
  subst source
  obtain ⟨limit, rfl⟩ := Nat.exists_eq_succ_of_ne_zero (Nat.ne_zero_of_lt enough)
  have place : (x.source.skip count).rest = r := by
    rw [rest_skip, split, List.drop_left' List.length_replicate]
  obtain ⟨noComment, noBreak⟩ := dropComment_of_startsToken place starts
  rw [Lexer.toNextToken, dropSpaces_append split starts.notSpace]
  dsimp only
  rw [noComment, noBreak, if_neg Bool.false_ne_true, Bool.or_false]

theorem dropComment_of_isIdle {line : Text} (split : s.rest = line ++ '\n' :: r)
    (idle : IsIdle line) : s.dropSpaces.dropComment = s.skip line.length := by
  have notSpace : (line ++ '\n' :: r).head? ≠ some ' ' := by
    rcases idle with rfl | ⟨comment, rfl, -⟩ <;> simp
  have dropped : s.dropSpaces = s := by
    have split : s.rest = List.replicate 0 ' ' ++ (line ++ '\n' :: r) := split
    rw [dropSpaces_append split notSpace]
    rfl
  rw [dropped, dropComment]
  rcases idle with rfl | ⟨comment, rfl, visible⟩
  · rw [isAt_cons split]
    rfl
  · have all : ∀ c ∈ '#' :: comment, (!isBreak c) = true := by
      intro c member
      rw [(IsIdle.visible (.inr ⟨comment, rfl, visible⟩) c member).isBreak_eq_false]
      rfl
    rw [isAt_cons split]
    simp only [beq_self_eq_true, if_true]
    rw [dropWhile, takeWhile_append split all (by simp [isBreak])]

/-- Lines without tokens are passed. -/
theorem passes_gap {lines : List Text} {indent : Nat} (split : s.rest = gapText lines indent ++ r)
    (idle : ∀ line ∈ lines, IsIdle line) (starts : StartsToken r) :
    Passes s (s.skip (gapText lines indent).length) (!lines.isEmpty) := by
  induction lines generalizing s with
  | nil =>
      have length : (gapText [] indent).length = indent := by simp [gapText]
      rw [length]
      exact passes_spaces split starts
  | cons line lines induction =>
      rw [List.forall_mem_cons] at idle
      rw [gapText_cons] at split
      have place : (s.skip line.length).rest = '\n' :: (gapText lines indent ++ r) :=
        rest_skip_append split
      have behind : ((s.skip line.length).next).rest = gapText lines indent ++ r :=
          rest_next_cons place
      have more := induction behind idle.2
      have length : (gapText (line :: lines) indent).length =
          line.length + ((gapText lines indent).length + 1) := length_gapText_cons line lines indent
      intro x source depth limit enough
      subst source
      obtain ⟨limit, rfl⟩ := Nat.exists_eq_succ_of_ne_zero (Nat.ne_zero_of_lt enough)
      have fewer : (x.source.skip line.length).next.rest.length < limit := by
        rw [split, List.length_append, List.length_cons] at enough
        rw [behind]
        omega
      rw [Lexer.toNextToken, dropComment_of_isIdle split idle.1]
      dsimp only
      rw [peek_append_cons place, takeBreak_lineFeed place]
      simp only [Option.any_some, isBreak, beq_self_eq_true, Bool.true_or, if_true]
      let y : Lexer := { x with
        source := (x.source.skip line.length).next
        keyAllowed := x.keyAllowed || x.depth == 0 }
      refine (more y rfl depth limit fewer).trans ?_
      dsimp only [y]
      rw [length, skip_add, skip_succ, depth]
      simp

/-- The place behind lines without tokens. -/
theorem skip_gap {lines : List Text} {indent : Nat} (split : s.rest = gapText lines indent ++ r)
    (idle : ∀ line ∈ lines, IsIdle line) :
    s.skip (gapText lines indent).length =
      ⟨r, (if lines.isEmpty then s.column else 0) + indent, s.line + lines.length,
        s.index + (gapText lines indent).length⟩ := by
  induction lines generalizing s with
  | nil =>
      have visible : ∀ c ∈ gapText [] indent, IsInline c := by
        simpa [gapText] using fun _ => (by decide : IsInline ' ')
      rw [skip_of_isInline split visible]
      simp [gapText]
  | cons line lines induction =>
      rw [List.forall_mem_cons] at idle
      rw [gapText_cons] at split
      have place := skip_of_isInline split idle.1.visible
      have behind := next_lineFeed (s := s.skip line.length) (by rw [place])
      have more := induction (s := (s.skip line.length).next) (by rw [behind]) idle.2
      rw [length_gapText_cons, skip_add, skip_succ, more, behind, place]
      simp only [List.isEmpty_cons, List.length_cons, Source.mk.injEq, true_and]
      refine ⟨?_, by omega, by omega⟩
      split <;> rfl

/-- A scalar ends at a place, and the next token, if there is one, begins at another place on a
later line.  A plain scalar takes a part of what stands between them. -/
structure EndsScalar (least : Nat) (s behind : Source) : Prop where
  feed : s.rest.head? = some '\n'
  passes : Passes s behind true
  plain : ∃ after crossed, EndsPlain least s after ∧ Passes after behind crossed ∧
    after.rest.length ≤ s.rest.length ∧ behind.rest.length ≤ after.rest.length
  later : s.line < behind.line
  fewer : behind.rest.length < s.rest.length
  starts : StartsToken behind.rest

theorem passes_self (starts : StartsToken s.rest) : Passes s s false :=
  have split : s.rest = List.replicate 0 ' ' ++ s.rest := rfl
  passes_spaces split starts

/-- The next token stands on the next line. -/
theorem endsScalar_near {least indent : Nat} (split : s.rest = gapText [[]] indent ++ r)
    (starts : StartsToken r) (shallow : indent < least) (separate : 0 < indent ∨ r = []) :
    EndsScalar least s (s.skip (gapText [[]] indent).length) := by
  have idle : ∀ line ∈ [[]], IsIdle line := by simp [IsIdle]
  have place := skip_gap split idle
  have shape : s.rest = '\n' :: (List.replicate indent ' ' ++ r) := by
    rw [split, gapText_cons]
    simp [gapText]
  have length : (gapText [[]] indent).length = indent + 1 := by simp [gapText]
  have notSeparator : s.next.isSeparator = false := by
    rcases separate with indented | rfl
    · exact isSeparator_of_spaces (rest_next_cons shape) indented
    · rcases Nat.eq_zero_or_pos indent with rfl | indented
      · apply isSeparator_eq_false <;> rw [rest_next_cons shape] <;> simp
      · exact isSeparator_of_spaces (rest_next_cons shape) indented
  have space := takePlainSpace_line shape notSeparator starts.solid
  rw [← length] at space
  refine ⟨by rw [shape]; rfl, passes_gap split idle starts,
    ⟨_, false, ⟨_, space, ?_⟩, ?_, ?_, le_rfl⟩, ?_, ?_, ?_⟩
  · rw [place]
    exact .inr (.inr (by simpa using shallow))
  · exact passes_self (by rw [place]; exact starts)
  · rw [rest_skip, List.length_drop]
    omega
  · rw [place]
    exact Nat.lt_add_of_pos_right Nat.one_pos
  · rw [place, split, List.length_append, length]
    dsimp only
    omega
  · rw [place]
    exact starts

/-- A plain scalar ends in front of a comment, and takes the empty line in front of it. -/
theorem takePlainSpace_comment (split : s.rest = '\n' :: '\n' :: '#' :: r) :
    s.takePlainSpace = (⟨['\n'], true⟩, s.next.next) := by
  have behind : s.next.rest = '\n' :: '#' :: r := rest_next_cons split
  have atComment : s.next.next.rest = '#' :: r := rest_next_cons behind
  have first : s.next.isSeparator = false := by
    apply isSeparator_eq_false <;> rw [behind] <;> simp
  have second : s.next.next.isSeparator = false := by
    apply isSeparator_eq_false <;> rw [atComment] <;> simp
  have breaks : takePlainBreaks (s.next.rest.length + 1) s.next = (some ['\n'], s.next.next) := by
    rw [takePlainBreaks, peek_append_cons behind, takeBreak_lineFeed behind]
    simp only [isBreak, second]
    rw [behind, List.length_cons, takePlainBreaks, peek_append_cons atComment]
    rfl
  rw [takePlainSpace, takeWhile_append (t := []) split (by simp) (by simp)]
  dsimp only
  rw [List.length_nil, skip, peek_append_cons split, takeBreak_lineFeed split]
  dsimp only
  rw [first, breaks]
  rfl

/-- An empty line and a comment stand in front of the next token. -/
theorem endsScalar_far {least : Nat} {comment : Text}
    (split : s.rest = gapText [[], [], '#' :: comment] 0 ++ r) (visible : ∀ c ∈ comment, IsInline c)
    (starts : StartsToken r) :
    EndsScalar least s (s.skip (gapText [[], [], '#' :: comment] 0).length) := by
  have isComment : IsIdle ('#' :: comment) := .inr ⟨comment, rfl, visible⟩
  have idle : ∀ line ∈ [[], [], '#' :: comment], IsIdle line := by
    simpa [IsIdle] using visible
  have place := skip_gap split idle
  have shape : s.rest = '\n' :: '\n' :: (gapText ['#' :: comment] 0 ++ r) := by
    rw [split, gapText_cons, gapText_cons]
    rfl
  have lastLine : s.next.next.rest = gapText ['#' :: comment] 0 ++ r :=
    rest_next_cons (rest_next_cons shape)
  have first : gapText ['#' :: comment] 0 ++ r =
      '#' :: (comment ++ '\n' :: (gapText [] 0 ++ r)) := gapText_cons _ [] 0 r
  have passes := passes_gap lastLine (by simpa using isComment) starts
  have space := takePlainSpace_comment (shape.trans (by rw [first]))
  have length : (gapText [[], [], '#' :: comment] 0).length =
      (gapText ['#' :: comment] 0).length + 2 := by
    rw [length_gapText_cons, length_gapText_cons, List.length_nil]
    omega
  refine ⟨by rw [shape]; rfl, passes_gap split idle starts,
    ⟨_, true, ⟨_, space, .inr (.inl ?_)⟩, ?_, ?_,
    ?_⟩, ?_, ?_, ?_⟩
  · rw [isAt_cons (lastLine.trans first)]
    rfl
  · rw [length]
    exact passes
  · rw [shape, lastLine, List.length_cons, List.length_cons]
    omega
  · rw [place, lastLine, List.length_append]
    exact Nat.le_add_left _ _
  · rw [place]
    exact Nat.lt_add_of_pos_right (by simp)
  · rw [place, split, List.length_append, length]
    dsimp only
    omega
  · rw [place]
    exact starts

end Source

end OutlineSearch.Yaml

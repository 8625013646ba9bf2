import OutlineSearch.Proofs.Coverage
import OutlineSearch.Proofs.Number
import OutlineSearch.Proofs.Timestamp.Label
import OutlineSearch.Proofs.Timestamp.Reading

/-!
# No step of a search fails

On its way through a document a search takes steps that could fail: it looks up a label, asks
for the last heading of a chain, reads a number off a priority, makes records that have to
pass their own checks, and runs loops.  Here each of these steps stops the search where it
fails.  None of them ever does, so this strict search finds what the search finds.
-/

namespace OutlineSearch

/-- What could stop a search. -/
inductive Fault where
  /-- A timestamp cannot be read, and is not passed over either. -/
  | timestamp (error : Timestamp.Error)
  /-- The current line is asked for where there is none. -/
  | noLine
  /-- The last heading is asked for where there is none. -/
  | noHeading
  /-- A condition is asked for that the criteria do not contain. -/
  | noCondition
  /-- A number is read off a text that denotes none. -/
  | noNumeral (text : Text)
  /-- A record is made from values that its check refuses. -/
  | refused (problems : List Problem)
  /-- A loop has not come to its end. -/
  | endless

namespace Strict

/-- A record that has to pass its own check. -/
def made {α : Type} : Checked α → Except Fault α
  | .passed a => .ok a
  | .failed problems => .error (.refused problems)

/-- Something that has to be there. -/
def present {α : Type} (fault : Fault) : Option α → Except Fault α
  | some a => .ok a
  | none => .error fault

/-! ## Reading -/

/-- The timestamp on a line; a text that is none is passed over. -/
def timestamp (line : Text) : Except Fault (Option Timestamp) :=
  match Timestamp.attempt line with
  | .error e => .error (.timestamp e)
  | .ok none => .ok none
  | .ok (some t) => some <$> made t.remade

def readTimestamp (c : Cursor) : Except Fault (Option Timestamp × Cursor) :=
  match c.peek with
  | (some line, c) =>
    if Timestamp.isLabelled line then do
      let c := c.advance.2
      let line ← present .noLine c.current
      let found ← timestamp line
      .ok (found, c)
    else .ok (none, c)
  | (none, c) => .ok (none, c)

/-- Reads the rest of a drawer.  A line that is no property ends it. -/
def readDrawer (found : List (Text × Text)) :
    Nat → Cursor → Except Fault (List (Text × Text) × Cursor)
  | 0, _ => .error .endless
  | limit + 1, c =>
    match c.peek with
    | (none, c) => .ok (found, c)
    | (some line, c) =>
      if Property.closesDrawer line then .ok (found, c.advance.2)
      else match Property.parse line with
        | .error _ => .ok (found, c)
        | .ok (key, value) => readDrawer (Property.put key value found) limit c.advance.2

def readProperties (c : Cursor) : Except Fault (List (Text × Text) × Cursor) :=
  match c.peek with
  | (some line, c) =>
    if Property.opensDrawer line then
      let c := c.advance.2
      readDrawer [] (c.remaining + 1) c
    else .ok ([], c)
  | (none, c) => .ok ([], c)

/-- The heading on a line, made together with its state and its priority. -/
def heading (kind : OutlineKind) (number : Nat) (line : Text) : Except Fault (Option Heading) :=
  match Heading.ofLine? kind number line with
  | none => .ok none
  | some h => do
    let todo ← h.todo.mapM fun t => made t.remade
    let priority ← h.priority.mapM fun p => made p.remade
    some <$> made { h with todo := todo, priority := priority }.remade

def readHeading (kind : OutlineKind) (c : Cursor) : Except Fault (Option Heading × Cursor) :=
  match c.current with
  | none => .ok (none, c)
  | some line => do
    match ← heading kind c.number line with
    | none => .ok (none, c)
    | some h =>
      let (timestamp, c) ← readTimestamp c
      let (properties, c) ← readProperties c
      .ok (some { h with timestamp := timestamp, properties := properties }, c)

def entries (kind : OutlineKind) : Nat → Cursor → Except Fault (List Entry)
  | 0, _ => .error .endless
  | limit + 1, c =>
    match c.advance with
    | (false, _) => .ok []
    | (true, c) => do
      let line ← present .noLine c.current
      let (heading, after) ← readHeading kind c
      let rest ← entries kind limit after
      .ok (⟨line, c.number, heading⟩ :: rest)

/-! ## Criteria -/

/-- The order of two priorities, numerals being read as numbers. -/
def compare (a b : Priority) : Except Fault Ordering :=
  if a.token.isLetters && b.token.isLetters then
    .ok (Priority.compareText b.token a.token)
  else if a.token.isDigits && b.token.isDigits then do
    let m ← present (.noNumeral a.token) a.token.integer?
    let n ← present (.noNumeral b.token) b.token.integer?
    .ok (Ord.compare m n)
  else .ok (Priority.compareText a.token b.token)

/-- Whether a section meets the condition of one kind. -/
def meets (c : Criteria) (chain : List Heading) : Filter → Except Fault Bool
  | .tags => .ok (c.tagged.all fun tag => chain.any (·.hasTag tag))
  | .properties => .ok (c.properties.all fun (key, value) => chain.any (·.hasProperty key value))
  | .todo => do
    let innermost ← present .noHeading chain.getLast?
    .ok (innermost.todo.any fun todo => c.todo.contains todo.word)
  | .priority => do
    let innermost ← present .noHeading chain.getLast?
    .ok (innermost.priority.any fun p => c.priority.any (·.token = p.token))
  | .priorityBelow => do
    let innermost ← present .noHeading chain.getLast?
    match innermost.priority with
    | none => .ok false
    | some p => do
      let bound ← present .noCondition c.below
      let order ← compare p bound
      .ok (order == .lt)
  | .priorityAbove => do
    let innermost ← present .noHeading chain.getLast?
    match innermost.priority with
    | none => .ok false
    | some p => do
      let bound ← present .noCondition c.above
      let order ← compare p bound
      .ok (order == .gt)
  | .schedule => do
    let innermost ← present .noHeading chain.getLast?
    match innermost.timestamp with
    | none => .ok false
    | some t => do
      let day ← present .noCondition c.schedule
      .ok (t.fallsOn day)

/-- Whether a section meets the conditions of all these kinds.  The first that it does not
meet is noted down with the line of the innermost heading. -/
def accepts (c : Criteria) (chain : List Heading) : List Filter → Except Fault Bool
  | [] => .ok true
  | kind :: rest => do
    if ← meets c chain kind then accepts c chain rest
    else
      -- Only its line is wanted here, but there has to be one.
      let _ ← present .noHeading chain.getLast?
      .ok false

/-! ## Searching -/

/-- The position behind a heading. -/
def enter {σ : Type} (s : Searcher σ) (h : Heading) (p : Position) : Except Fault Position := do
  let chain ← present .noHeading (p.chainWith? h)
  let accepted ← accepts s.criteria chain s.criteria.active
  .ok ⟨chain, h.depth, !accepted⟩

/-- The position at an entry that is read at position `p`. -/
def advance {σ : Type} (s : Searcher σ) (p : Position) (e : Entry) : Except Fault Position := do
  let p ← match e.heading with
    | some h => enter s h p
    | none => .ok p
  .ok (if p.depth = 0 && !s.criteria.active.isEmpty then { p with skipping := true } else p)

def scan (s : Searcher Binary64) (p : Position) : List Entry → Except Fault (List (Hit Binary64))
  | [] => .ok []
  | e :: rest => do
    let p ← advance s p e
    match s.hitAt? e p with
    | none => scan s p rest
    | some hit =>
      let hit ← made hit.remade
      let hits ← scan s p rest
      .ok (hit :: hits)

/-- The hits in a document, if nothing stops the search. -/
def search (s : Searcher Binary64) (lines : List Text) : Except Fault (List (Hit Binary64)) := do
  let entries ← entries s.kind (lines.length + 1) (Cursor.ofLines lines)
  scan s .start entries

/-! ## Reading does not fail -/

@[simp] theorem made_passed {α : Type} (a : α) : made (.passed a) = .ok a := rfl

@[simp] theorem present_some {α : Type} (fault : Fault) (a : α) :
    present fault (some a) = .ok a := rfl

@[simp] theorem ok_bind {α β : Type} (a : α) (f : α → Except Fault β) :
    ((Except.ok a : Except Fault α) >>= f) = f a := rfl

@[simp] theorem map_ok {α β : Type} (f : α → β) (a : α) :
    f <$> (Except.ok a : Except Fault α) = .ok (f a) := rfl

theorem timestamp_eq {line : Text} (labelled : Timestamp.isLabelled line = true) :
    timestamp line = .ok (Timestamp.parse line).toOption := by
  rw [timestamp, Timestamp.attempt_of_isLabelled labelled]
  cases (Timestamp.parse line).toOption with
  | none => rfl
  | some t => simp [t.remade_eq]

theorem readTimestamp_eq (c : Cursor) : readTimestamp c = .ok c.readTimestamp := by
  cases next : c.upcoming with
  | nil => rw [readTimestamp, Cursor.readTimestamp, Cursor.peek_of_nil next]
  | cons line rest =>
      rw [readTimestamp, Cursor.readTimestamp, Cursor.peek_of_cons next]
      by_cases labelled : Timestamp.isLabelled line = true
      · simp [labelled, next, timestamp_eq labelled]
      · simp [labelled]

/-- A drawer ends with the document at the latest. -/
theorem readDrawer_eq (found : List (Text × Text)) {limit : Nat} {c : Cursor}
    (enough : c.upcoming.length < limit) :
    readDrawer found limit c = .ok (Cursor.readDrawer found limit c) := by
  induction limit generalizing found c with
  | zero => omega
  | succ limit induction =>
      cases next : c.upcoming with
      | nil => rw [readDrawer, Cursor.readDrawer, Cursor.peek_of_nil next]
      | cons line rest =>
          have fewer : c.peek.2.advance.2.upcoming.length < limit := by
            rw [next, List.length_cons] at enough
            simp [next]
            omega
          rw [readDrawer, Cursor.readDrawer, Cursor.peek_of_cons next]
          by_cases closes : Property.closesDrawer line = true
          · simp [closes]
          · cases parsed : Property.parse line with
            | error _ => simp [closes, parsed]
            | ok entry => simp [closes, parsed, induction _ fewer]

theorem readProperties_eq (c : Cursor) : readProperties c = .ok c.readProperties := by
  cases next : c.upcoming with
  | nil => rw [readProperties, Cursor.readProperties, Cursor.peek_of_nil next]
  | cons line rest =>
      rw [readProperties, Cursor.readProperties, Cursor.peek_of_cons next]
      by_cases opens : Property.opensDrawer line = true
      · have enough : c.peek.2.advance.2.upcoming.length < c.peek.2.advance.2.remaining + 1 := by
          rw [Cursor.length_upcoming]
          exact Nat.lt_succ_self _
        simp [opens, readDrawer_eq [] enough]
      · simp [opens]

theorem heading_eq (kind : OutlineKind) {number : Nat} (first : 1 ≤ number) (line : Text) :
    heading kind number line = .ok (Heading.ofLine? kind number line) := by
  cases read : Heading.ofLine? kind number line with
  | none => simp [heading, read]
  | some h =>
      obtain ⟨plain, rfl⟩ := Heading.isPlain_of_ofLine? read
      have todo : (h.todo.mapM fun t => made t.remade) = .ok h.todo := by
        cases isSome : h.todo with
        | none => rfl
        | some t => simp [Todo.remade_eq (plain.todo t isSome)]
      have priority : (h.priority.mapM fun p => made p.remade) = .ok h.priority := by
        cases isSome : h.priority with
        | none => rfl
        | some p => simp [Priority.remade_eq (plain.priority p isSome)]
      simp [heading, read, todo, priority, Heading.remade_eq plain first]

theorem readHeading_eq (kind : OutlineKind) {c : Cursor} (first : 1 ≤ c.number) :
    readHeading kind c = .ok (c.readHeading kind) := by
  rw [readHeading, Cursor.readHeading]
  cases c.current with
  | none => rfl
  | some line =>
      simp only [heading_eq kind first]
      cases Heading.ofLine? kind c.number line with
      | none => rfl
      | some h => simp [readTimestamp_eq, readProperties_eq]

/-- A document ends, and so does the loop that reads it. -/
theorem entries_eq (kind : OutlineKind) {limit : Nat} {c : Cursor}
    (enough : c.upcoming.length ≤ limit) :
    entries kind (limit + 1) c = .ok (c.entries kind limit) := by
  induction limit generalizing c with
  | zero =>
      have done : c.upcoming = [] := List.length_eq_zero_iff.mp (by omega)
      rw [entries, Cursor.advance_of_nil done]
      rfl
  | succ limit induction =>
      cases next : c.upcoming with
      | nil =>
          rw [entries, Cursor.entries, Cursor.advance_of_nil next]
      | cons line rest =>
          have standing : c.advance.2.current = some line := by simp [next]
          have step := Cursor.passed_advance next
          have first : 1 ≤ c.advance.2.number := by
            rw [step.number]
            omega
          have passed := (Cursor.readHeading_spec kind standing).2
          have fewer : (c.advance.2.readHeading kind).2.upcoming.length ≤ limit := by
            rw [next, List.length_cons] at enough
            rw [passed.upcoming, step.upcoming, next, List.length_drop, List.length_drop,
              List.length_cons]
            omega
          rw [entries, Cursor.entries, Cursor.advance_of_cons next]
          simp [next, readHeading_eq kind first, induction fewer]

/-! ## Criteria do not fail -/

theorem compare_eq (a b : Priority) : compare a b = .ok (Priority.compare a b) := by
  rw [compare, Priority.compare]
  split
  · rfl
  · split
    · rename_i digits
      rw [Bool.and_eq_true] at digits
      rw [Text.integer?_of_isDigits digits.1, Text.integer?_of_isDigits digits.2]
      simp [Ord.compare, compareOfLessAndEq]
    · rfl

section Criteria

variable {c : Criteria} {chain : List Heading} {h : Heading}

/-- A condition that is checked is one that the criteria contain, and so is its bound. -/
theorem meets_eq (innermost : chain.getLast? = some h) {kind : Filter}
    (contained : c.has kind = true) : meets c chain kind = .ok (c.meets chain h kind) := by
  cases kind with
  | tags => rfl
  | properties => rfl
  | todo => simp [meets, Criteria.meets, innermost]
  | priority => simp [meets, Criteria.meets, innermost]
  | priorityBelow =>
      obtain ⟨bound, isBound⟩ := Option.isSome_iff_exists.mp contained
      cases priority : h.priority with
      | none => simp [meets, Criteria.meets, innermost, priority]
      | some p =>
          simp [meets, Criteria.meets, innermost, priority, isBound, compare_eq, Priority.isBelow]
  | priorityAbove =>
      obtain ⟨bound, isBound⟩ := Option.isSome_iff_exists.mp contained
      cases priority : h.priority with
      | none => simp [meets, Criteria.meets, innermost, priority]
      | some p =>
          simp [meets, Criteria.meets, innermost, priority, isBound, compare_eq, Priority.isAbove]
  | schedule =>
      obtain ⟨day, isDay⟩ := Option.isSome_iff_exists.mp contained
      cases timestamp : h.timestamp with
      | none => simp [meets, Criteria.meets, innermost, timestamp]
      | some t => simp [meets, Criteria.meets, innermost, timestamp, isDay]

theorem accepts_eq (innermost : chain.getLast? = some h) {kinds : List Filter}
    (contained : ∀ kind ∈ kinds, c.has kind = true) :
    accepts c chain kinds = .ok (kinds.all (c.meets chain h)) := by
  induction kinds with
  | nil => rfl
  | cons kind rest induction =>
      rw [List.forall_mem_cons] at contained
      rw [accepts, meets_eq innermost contained.1]
      cases kindMet : c.meets chain h kind with
      | false => simp [innermost, kindMet]
      | true => simpa [kindMet] using induction contained.2

end Criteria

/-! ## Searching does not fail -/

section Search

variable {p : Position} {h : Heading}

theorem enter_eq {σ : Type} (s : Searcher σ) (layered : p.Layered) (positive : 1 ≤ h.depth) :
    enter s h p = .ok (s.enter h p) := by
  have innermost : (p.chain.take (p.kept h) ++ [h]).getLast? = some h := by simp
  have contained : ∀ kind ∈ s.criteria.active, s.criteria.has kind = true :=
    fun kind member => (List.mem_filter.mp member).2
  have searched : s.searches (p.chain.take (p.kept h) ++ [h]) =
      s.criteria.active.all (s.criteria.meets (p.chain.take (p.kept h) ++ [h]) h) := by
    rw [Searcher.searches, innermost]
    cases active : s.criteria.active with
    | nil => rfl
    | cons kind rest => simp [Criteria.accepts, active]
  rw [enter, layered.chainWith?_eq positive, s.enter_eq layered positive, searched]
  simp [accepts_eq innermost contained]

theorem advance_eq {σ : Type} (s : Searcher σ) (layered : p.Layered) {e : Entry}
    (positive : ∀ h, e.heading = some h → 1 ≤ h.depth) :
    advance s p e = .ok (s.advance p e) := by
  cases isHeading : e.heading with
  | none => simp [advance, Searcher.advance, isHeading]
  | some h => simp [advance, Searcher.advance, isHeading, enter_eq s layered (positive h isHeading)]

theorem layered_advance {σ : Type} (s : Searcher σ) (layered : p.Layered) {e : Entry}
    (positive : ∀ h, e.heading = some h → 1 ≤ h.depth) : (s.advance p e).Layered := by
  have anyway : ∀ q : Position, q.Layered →
      (if q.depth = 0 && !s.criteria.active.isEmpty then { q with skipping := true }
        else q).Layered := by
    intro q layered
    split
    · exact layered.congr rfl rfl
    · exact layered
  cases isHeading : e.heading with
  | none => simpa [Searcher.advance, isHeading] using anyway p layered
  | some h =>
      have entered := s.layered_enter layered (positive h isHeading)
      simpa [Searcher.advance, isHeading] using anyway (s.enter h p) entered

/-- A scorer that gives no negative scores, nor anything that is no number. -/
def Scored (s : Searcher Binary64) : Prop :=
  ∀ text term score, s.scorer text term = some score → Binary64.le .zero score = true

theorem nonnegative_of_score? {s : Searcher Binary64} (scored : Scored s) {text : Text}
    {score : Binary64} (found : s.score? text = some score) : Binary64.le .zero score = true := by
  have points : ∀ point ∈ s.query.fuzzy.filterMap (s.scorer text),
      Binary64.le .zero point = true := by
    intro point member
    obtain ⟨term, -, isPoint⟩ := List.mem_filterMap.mp member
    exact scored text term point isPoint
  have sum : ∀ {points : List Binary64} {start : Binary64},
      (∀ point ∈ points, Binary64.le .zero point = true) → Binary64.le .zero start = true →
        Binary64.le .zero (points.foldl (· + ·) start) = true := by
    intro points
    induction points with
    | nil => exact fun _ nonnegative => nonnegative
    | cons point points induction =>
        intro start all nonnegative
        rw [List.forall_mem_cons] at all
        exact induction all.2 (Binary64.nonnegative_add nonnegative all.1)
  unfold Searcher.score? at found
  dsimp only at found
  split at found
  · cases found
  · rw [← Option.some.inj found]
    exact sum points (by decide)

theorem remade_of_hitAt? {s : Searcher Binary64} (scored : Scored s)
    (notBlank : s.path.isAllBlank = false) {e : Entry} (numbered : 1 ≤ e.number)
    {hit : Hit Binary64} (found : s.hitAt? e p = some hit) : hit.remade = .passed hit := by
  unfold Searcher.hitAt? at found
  split at found
  · cases found
  · unfold Searcher.hit? at found
    dsimp only at found
    split at found
    · obtain ⟨score, isScore, rfl⟩ := Option.map_eq_some_iff.mp found
      exact Hit.remade_eq (nonnegative_of_score? scored isScore) numbered notBlank
    · cases found

theorem scan_eq {s : Searcher Binary64} (scored : Scored s) (notBlank : s.path.isAllBlank = false)
    (layered : p.Layered) {entries : List Entry} (numbered : ∀ e ∈ entries, 1 ≤ e.number)
    (positive : ∀ e ∈ entries, ∀ h, e.heading = some h → 1 ≤ h.depth) :
    ∃ hits, scan s p entries = .ok hits ∧ (s.scan p entries).1 = .passed hits := by
  -- A layered chain has a last heading behind each heading, so the criteria find one.
  induction entries generalizing p with
  | nil => exact ⟨[], rfl, rfl⟩
  | cons e rest induction =>
      rw [List.forall_mem_cons] at numbered positive
      obtain ⟨hits, strict, running⟩ :=
        induction (layered_advance s layered positive.1) numbered.2 positive.2
      rw [scan, Searcher.scan, advance_eq s layered positive.1]
      cases found : s.hitAt? e (s.advance p e) with
      | none => exact ⟨hits, by simp [found, strict], by simp [running]⟩
      | some hit =>
          refine ⟨hit :: hits, ?_, ?_⟩
          · simp [found, strict, remade_of_hitAt? scored notBlank numbered.1 found]
          · simp [running, Searcher.checkedPath_of_not_blank notBlank]

end Search

/-- Whatever a document holds, the search comes to its end without a fault, and the strict search
finds what the search finds. -/
theorem search_eq_ok (s : Searcher Binary64) (lines : List Text)
    (notBlank : s.path.isAllBlank = false) (scored : Scored s) :
    ∃ hits, search s lines = .ok hits ∧ s.search lines = .passed hits := by
  have enough : (Cursor.ofLines lines).upcoming.length ≤ lines.length := by simp
  have numbered : ∀ e ∈ entriesOf s.kind lines, 1 ≤ e.number := by
    intro e member
    rw [entriesOf_eq_map, List.mem_map] at member
    obtain ⟨index, -, rfl⟩ := member
    exact Nat.succ_pos index
  have positive : ∀ e ∈ entriesOf s.kind lines, ∀ h, e.heading = some h → 1 ≤ h.depth :=
    fun _ member _ isHeading => depth_pos_of_mem_entriesOf member isHeading
  obtain ⟨hits, strict, running⟩ :=
    scan_eq scored notBlank Position.layered_start numbered positive
  refine ⟨hits, ?_, running⟩
  rw [search, entries_eq s.kind enough]
  exact strict

/-- A search with a condition on priorities, which compares numerals as numbers. -/
def belowTen : Searcher Binary64 where
  query := ⟨"plan".toList, [], [], [], ["plan".toList]⟩
  criteria := { below := some ⟨"10".toList⟩ }
  scorer := Scorer.occurrences

/-- Text above the first heading, digits of another script, a label with a dotted capital, a
day that does not exist, and a drawer that is not closed. -/
def oddLines : List Text :=
  ["plan", "** [#٣] plan", "DEADLİNE: <2021-08-28>", "* [#9] plan", "scheduled: <2021-02-30>",
    ":PROPERTIES:", ":K: plan"].map String.toList

theorem search_belowTen_oddLines :
    belowTen.path.isAllBlank = false ∧ Scored belowTen ∧
      (∃ hits, search belowTen oddLines = .ok hits ∧ belowTen.search oddLines = .passed hits) ∧
      (belowTen.search oddLines).toExcept.toOption.map (·.map (·.line)) = some [2, 3, 4] := by
  have notBlank : belowTen.path.isAllBlank = false := by decide
  have scored : Scored belowTen := by
    intro text term score found
    simp only [belowTen, Scorer.occurrences] at found
    split at found
    · cases found
    · rw [← Option.some.inj found]
      exact Binary64.nonnegative_ofRatio _ _
  exact ⟨notBlank, scored, search_eq_ok belowTen oddLines notBlank scored, by decide +kernel⟩

end Strict

end OutlineSearch

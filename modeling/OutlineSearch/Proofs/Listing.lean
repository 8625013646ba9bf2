import OutlineSearch.Proofs.Digits
import OutlineSearch.Search.Listing

/-!
# What can be read off a listing

Colors only add control sequences to a listing: without these it is the listing in no color.
And where a NUL stands between path and line number, both can be read off the line of a hit,
whatever titles and content it has.
-/

namespace OutlineSearch

/-! ## Without colors -/

namespace Color

/-- The number of characters up to the end of a control sequence whose codes begin the text. -/
def codesLength? : Text → Option Nat
  | [] => none
  | c :: rest =>
    if c = 'm' then some 1
    else if c.isDigit || c = ';' then (codesLength? rest).map (· + 1)
    else none

/-- The length of the control sequence that the text begins with, if there is one: an escape,
a bracket, and codes with semicolons between them up to an `m`. -/
def sequenceLength? : Text → Option Nat
  | first :: '[' :: rest => if first = escape then (codesLength? rest).map (· + 2) else none
  | _ => none

/-- The text without control sequences after the first `skip` characters. -/
def removeAfter : Nat → Text → Text
  | _, [] => []
  | skip + 1, _ :: rest => removeAfter skip rest
  | 0, c :: rest =>
    match sequenceLength? (c :: rest) with
    | some length => removeAfter (length - 1) rest
    | none => c :: removeAfter 0 rest

/-- The text without control sequences. -/
def remove (text : Text) : Text := removeAfter 0 text

theorem removeAfter_append (skipped rest : Text) :
    removeAfter skipped.length (skipped ++ rest) = remove rest := by
  induction skipped with
  | nil => rfl
  | cons c more induction => exact induction

theorem sequenceLength?_of_ne {c : Char} (plain : c ≠ escape) (rest : Text) :
    sequenceLength? (c :: rest) = none := by
  unfold sequenceLength?
  split
  · rename_i first codes same
    obtain rfl : c = first := (List.cons.inj same).1
    exact if_neg plain
  · rfl

theorem codesLength?_append {code : Text} (digits : ∀ c ∈ code, c.isDigit = true)
    (rest : Text) : codesLength? (code ++ 'm' :: rest) = some (code.length + 1) := by
  induction code with
  | nil => rfl
  | cons c more induction =>
      have digit := digits c List.mem_cons_self
      have notEnd : c ≠ 'm' := by
        rintro rfl
        cases digit
      have later := induction fun d member => digits d (List.mem_cons_of_mem c member)
      simp [codesLength?, notEnd, digit, later]

theorem remove_sequence {code : String} (digits : ∀ c ∈ code.toList, c.isDigit = true)
    (rest : Text) : remove (sequence code ++ rest) = remove rest := by
  have shape : sequence code ++ rest = escape :: '[' :: (code.toList ++ 'm' :: rest) := by
    simp [sequence]
  have tail : ('[' :: (code.toList ++ ['m'])).length = code.toList.length + 2 := by simp
  have dropped := removeAfter_append ('[' :: (code.toList ++ ['m'])) rest
  rw [tail] at dropped
  rw [shape, remove, removeAfter, sequenceLength?, if_pos rfl, codesLength?_append digits,
    ← dropped]
  simp

/-- Texts of which the first shows the second once the control sequences are gone, whatever
stands behind them. -/
def Shows (painted plain : Text) : Prop :=
  ∀ rest, remove (painted ++ rest) = plain ++ remove rest

namespace Shows

theorem append {painted plain other otherPlain : Text} (first : Shows painted plain)
    (second : Shows other otherPlain) : Shows (painted ++ other) (plain ++ otherPlain) := by
  intro rest
  rw [List.append_assoc, first, second, List.append_assoc]

/-- A text without escapes shows itself. -/
theorem self {text : Text} (plain : escape ∉ text) : Shows text text := by
  intro rest
  induction text with
  | nil => rfl
  | cons c more induction =>
      rw [List.mem_cons, not_or] at plain
      rw [List.cons_append, remove, removeAfter, sequenceLength?_of_ne (Ne.symm plain.1)]
      exact congrArg (c :: ·) (induction plain.2)

theorem sequence {code : String} (digits : ∀ c ∈ code.toList, c.isDigit = true) :
    Shows (sequence code) [] := remove_sequence digits

theorem paint {text : Text} (c : Color) (plain : escape ∉ text) :
    Shows (c.paint text) text := by
  have digits : ∀ d ∈ c.code.toList, d.isDigit = true := by
    cases c <;> simp [code]
  have start : Shows (Color.sequence c.code) [] := .sequence digits
  have stop : Shows (Color.sequence "0") [] := .sequence (by simp)
  unfold Color.paint
  split
  · rename_i empty
    rw [List.isEmpty_iff] at empty
    rw [empty]
    exact .self List.not_mem_nil
  · simpa using (start.append (.self plain)).append stop

theorem join {painted plain : Text → Text} {separator otherSeparator : Text}
    (between : Shows separator otherSeparator) {pieces : List Text}
    (each : ∀ piece ∈ pieces, Shows (painted piece) (plain piece)) :
    Shows (Text.join separator (pieces.map painted))
      (Text.join otherSeparator (pieces.map plain)) := by
  induction pieces with
  | nil => exact .self List.not_mem_nil
  | cons first rest induction =>
      have here := each first List.mem_cons_self
      have later := induction fun piece member => each piece (List.mem_cons_of_mem first member)
      cases rest with
      | nil => exact here
      | cons second rest => exact (here.append between).append later

theorem remove_eq {painted plain : Text} (all : Shows painted plain) :
    remove painted = plain := by
  have whole := all []
  rwa [List.append_nil, remove, remove, removeAfter, List.append_nil] at whole

end Shows

end Color

/-- A hit that brings no escapes of its own into a listing. -/
structure Hit.WithoutEscape {σ : Type} (h : Hit σ) : Prop where
  path : Color.escape ∉ h.path
  titles : ∀ title ∈ h.titles, Color.escape ∉ title
  content : Color.escape ∉ h.content

instance {σ : Type} (h : Hit σ) : Decidable h.WithoutEscape :=
  decidable_of_iff (Color.escape ∉ h.path ∧ (∀ title ∈ h.titles, Color.escape ∉ title) ∧
      Color.escape ∉ h.content)
    ⟨fun ⟨path, titles, content⟩ => ⟨path, titles, content⟩,
      fun plain => ⟨plain.path, plain.titles, plain.content⟩⟩

namespace Layout

variable {σ : Type}

/-- The same layout with colors or without. -/
def withColor (l : Layout) (color : Bool) : Layout := { l with color := color }

theorem escape_notMem_ofNat (n : Nat) : Color.escape ∉ Text.ofNat n := by
  intro member
  have digit := Text.isDigit_of_mem_ofNat member
  revert digit
  decide

section Shows

variable (l : Layout)

theorem shows_paint (c : Color) {text : Text} (plain : Color.escape ∉ text) :
    Color.Shows ((l.withColor true).paint c text) ((l.withColor false).paint c text) :=
  .paint c plain

theorem shows_colon : Color.Shows (l.withColor true).colon (l.withColor false).colon :=
  l.shows_paint .white (by decide)

theorem shows_lineText (line : Nat) :
    Color.Shows ((l.withColor true).lineText line) ((l.withColor false).lineText line) := by
  have number := l.shows_paint .green (escape_notMem_ofNat line)
  have nul : Color.Shows [Char.ofNat 0] [Char.ofNat 0] := .self (by decide)
  cases numbers : l.showLineNumbers with
  | false =>
      simp only [lineText, withColor, numbers]
      exact .self List.not_mem_nil
  | true =>
      cases nulSeparator : l.nullSeparator with
      | false =>
          simpa [lineText, withColor, numbers, nulSeparator] using l.shows_colon.append number
      | true => simpa [lineText, withColor, numbers, nulSeparator] using nul.append number

theorem shows_titlesText (separator : Color.escape ∉ l.separator) {titles : List Text}
    (plain : ∀ title ∈ titles, Color.escape ∉ title) :
    Color.Shows ((l.withColor true).titlesText titles)
      ((l.withColor false).titlesText titles) := by
  have between := l.shows_paint .white separator
  have joined := Color.Shows.join between
    fun title member => l.shows_paint .blue (plain title member)
  cases headings : l.showHeadings && !titles.isEmpty with
  | false =>
      simp only [titlesText, withColor, headings]
      exact .self List.not_mem_nil
  | true =>
      simp only [titlesText, withColor, headings, if_true]
      exact l.shows_colon.append joined

theorem shows_render (separator : Color.escape ∉ l.separator) {h : Hit σ}
    (plain : h.WithoutEscape) :
    Color.Shows ((l.withColor true).render h) ((l.withColor false).render h) :=
  ((((l.shows_paint .magenta plain.path).append (l.shows_lineText h.line)).append
    (l.shows_titlesText separator plain.titles)).append l.shows_colon).append
      (.self plain.content)

end Shows

theorem renderAll_eq (l : Layout) (hits : List (Hit σ)) :
    l.renderAll hits = (hits.take (l.count.getD hits.length)).map l.render := by
  unfold renderAll
  cases l.count with
  | none => rw [Option.getD_none, List.take_length]
  | some count => rfl

/-- Without control sequences a listing in color is, line by line, the listing in no color. -/
theorem remove_renderAll (l : Layout) (hits : List (Hit σ))
    (separator : Color.escape ∉ l.separator) (plain : ∀ h ∈ hits, h.WithoutEscape) :
    ((l.withColor true).renderAll hits).map Color.remove =
      (l.withColor false).renderAll hits := by
  rw [renderAll_eq, renderAll_eq, List.map_map]
  apply List.map_congr_left
  intro h shown
  exact (l.shows_render separator (plain h (List.mem_of_mem_take shown))).remove_eq

/-- Two of three hits, one of them without titles and one with an empty title, an empty
separator, and text that looks like a control sequence without its escape. -/
theorem remove_renderAll_of_emptyTitle :
    let l : Layout := { separator := [], nullSeparator := true, count := some 2 }
    let hits : List (Hit Nat) :=
      [⟨0, 12, "a.org".toList, ["one".toList, [], "[35m".toList], "x:y".toList, false⟩,
        ⟨0, 3, "b.org".toList, [], [], true⟩, ⟨0, 4, "b.org".toList, [], "z".toList, false⟩]
    Color.escape ∉ l.separator ∧ (∀ h ∈ hits, h.WithoutEscape) ∧
      ((l.withColor true).renderAll hits).map Color.remove =
        ["a.org\x0012:one[35m:x:y".toList, "b.org\x003:".toList] ∧
      ((l.withColor true).renderAll hits).map Color.remove =
        (l.withColor false).renderAll hits := by
  intro l hits
  have separator : Color.escape ∉ l.separator := List.not_mem_nil
  have plain : ∀ h ∈ hits, h.WithoutEscape := by decide
  have same := remove_renderAll l hits separator plain
  refine ⟨separator, plain, ?_, same⟩
  rw [same]
  decide

/-! ## Where a NUL stands behind the path -/

/-- Path, number of the line and the rest of a line that shows them with a NUL in between. -/
def readNumbered? (text : Text) : Option (Text × Nat × Text) :=
  match text.dropWhile (· != Char.ofNat 0) with
  | [] => none
  | _ :: behind =>
    some (text.takeWhile (· != Char.ofNat 0),
      Text.digitsValue (behind.takeWhile (·.isDigit)), behind.dropWhile (·.isDigit))

/-- What stands behind the number of the line. -/
def remainder (l : Layout) (h : Hit σ) : Text := l.titlesText h.titles ++ l.colon ++ h.content

section Numbered

variable {l : Layout} (numbers : l.showLineNumbers = true) (nul : l.nullSeparator = true)
  (plain : l.color = false)

include plain in
theorem colon_of_plain : l.colon = [':'] := by
  simp [colon, paint, plain]

include plain in
/-- A colon separates the number of the line from what stands behind it. -/
theorem head?_remainder (h : Hit σ) : (l.remainder h).head? = some ':' := by
  unfold remainder titlesText
  rw [colon_of_plain plain]
  split <;> rfl

include numbers nul plain in
theorem render_of_numbered (h : Hit σ) :
    l.render h = h.path ++ Char.ofNat 0 :: (Text.ofNat h.line ++ l.remainder h) := by
  simp [render, remainder, lineText, paint, numbers, nul, plain]

include numbers nul plain in
theorem readNumbered?_render {h : Hit σ} (path : Char.ofNat 0 ∉ h.path) :
    readNumbered? (l.render h) = some (h.path, h.line, l.remainder h) := by
  have inPath : ∀ c ∈ h.path, (c != Char.ofNat 0) = true := by
    intro c member
    exact bne_iff_ne.mpr fun isNul => path (isNul ▸ member)
  have digits : ∀ c ∈ Text.ofNat h.line, c.isDigit = true :=
    fun _ => Text.isDigit_of_mem_ofNat
  obtain ⟨rest, shape⟩ := List.head?_eq_some_iff.mp (head?_remainder plain h)
  rw [render_of_numbered numbers nul plain, readNumbered?, List.dropWhile_append_of_pos inPath,
    List.takeWhile_append_of_pos inPath, shape]
  simp [List.takeWhile_append_of_pos digits, List.dropWhile_append_of_pos digits,
    Text.digitsValue_ofNat]

end Numbered

/-- Where a NUL stands behind a path without NULs, path, number of the line and the rest can be read
off the line of a hit in no color.  So hits with the same line have the same path and number, and
the same content where no titles are shown. -/
theorem render_readable {l : Layout} (numbers : l.showLineNumbers = true)
    (nul : l.nullSeparator = true) (plain : l.color = false) :
    (∀ h : Hit σ, Char.ofNat 0 ∉ h.path →
      readNumbered? (l.render h) = some (h.path, h.line, l.remainder h)) ∧
    ∀ a b : Hit σ, Char.ofNat 0 ∉ a.path → Char.ofNat 0 ∉ b.path → l.render a = l.render b →
      a.path = b.path ∧ a.line = b.line ∧ l.remainder a = l.remainder b ∧
        (l.showHeadings = false → a.content = b.content) := by
  refine ⟨fun h path => readNumbered?_render numbers nul plain path, ?_⟩
  intro a b pathA pathB same
  have read := readNumbered?_render numbers nul plain pathA
  rw [same, readNumbered?_render numbers nul plain pathB] at read
  simp only [Option.some.injEq, Prod.mk.injEq] at read
  obtain ⟨path, line, rest⟩ := read
  refine ⟨path.symm, line.symm, rest.symm, fun noHeadings => ?_⟩
  have content : ∀ h : Hit σ, l.remainder h = ':' :: h.content := by
    intro h
    simp [remainder, titlesText, noHeadings, colon_of_plain plain]
  rw [content, content] at rest
  exact (List.cons.inj rest).2.symm

/-- Hits with different titles and contents on the same line, in which colons, digits and a NUL
stand behind the number.  Without titles their lines differ. -/
theorem render_readable_of_colons :
    let l : Layout := { color := false, nullSeparator := true }
    let a : Hit Nat := ⟨0, 12, "a:1.org".toList, ["3:4".toList], "\x005:6".toList, false⟩
    let b : Hit Nat := ⟨0, 12, "a:1.org".toList, ["3".toList], "4:\x005:6".toList, false⟩
    l.render a = l.render b ∧ readNumbered? (l.render a) = some (a.path, a.line, l.remainder a) ∧
      a.path = b.path ∧ a.line = b.line ∧ l.remainder a = l.remainder b ∧
      { l with showHeadings := false }.render a ≠ { l with showHeadings := false }.render b := by
  intro l a b
  have same : l.render a = l.render b := by decide
  have path : Char.ofNat 0 ∉ a.path := by decide
  obtain ⟨readable, determined⟩ := render_readable (σ := Nat) (l := l) rfl rfl rfl
  obtain ⟨samePath, sameLine, sameRest, -⟩ := determined a b path path same
  refine ⟨same, readable a path, samePath, sameLine, sameRest, fun sameToo => ?_⟩
  have untitled := render_readable (σ := Nat) (l := { l with showHeadings := false }) rfl rfl rfl
  have sameContent : a.content = b.content := (untitled.2 a b path path sameToo).2.2.2 rfl
  exact absurd sameContent (by decide)

end Layout

end OutlineSearch

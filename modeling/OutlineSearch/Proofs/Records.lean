import OutlineSearch.Proofs.HeadingLine
import OutlineSearch.Search.Hit

/-!
# Records pass their own checks

A record is made from values that its check may refuse.  The values that are read off a
document are never refused, and the record that is made from them holds them as they are.
-/

namespace OutlineSearch

namespace Checked

variable {α β : Type}

@[simp] theorem map_passed (f : α → β) (a : α) : f <$> passed a = passed (f a) := rfl

@[simp] theorem passed_seq (f : α → β) (a : α) : passed f <*> passed a = passed (f a) := rfl

@[simp] theorem inside_passed (part : Text) (a : α) : (passed a).inside part = passed a := rfl

@[simp] theorem andThen_passed (a : α) (f : α → Checked β) : (passed a).andThen f = f a := rfl

end Checked

namespace Field

theorem nonemptyText_text {text : Text} (nonempty : text ≠ []) :
    nonemptyText (.text text) = .passed text := by
  simp [nonemptyText, Field.text, nonempty]

theorem integerFrom_int {bound n : Nat} (above : bound ≤ n) :
    integerFrom bound (.int n) = .passed n := by
  simp [integerFrom, integer, above]

theorem texts_texts (texts : List Text) :
    Field.texts (.list (texts.map .text)) = .passed texts := by
  have items : ∀ index, Checked.itemsFrom text index (texts.map .text) = .passed texts := by
    induction texts with
    | nil => exact fun _ => rfl
    | cons t texts induction =>
        intro index
        rw [List.map_cons, Checked.itemsFrom, induction]
        rfl
  exact items 0

end Field

namespace Data

theorem sameKey_ofString (first second : String) :
    sameKey (ofString first) (ofString second) = decide (first = second) := by
  simp [sameKey, ofString, String.toList_inj]

@[simp] theorem lookup?_nil (name : String) : lookup? name [] = none := rfl

@[simp] theorem lookup?_cons (name key : String) (value : Data) (entries : List (Data × Data)) :
    lookup? name ((ofString key, value) :: entries) =
      if key = name then some value else lookup? name entries := by
  by_cases same : key = name
  · simp [lookup?, sameKey_ofString, same]
  · simp [lookup?, sameKey_ofString, same]

end Data

namespace Todo

/-- The state with a word, as its check makes it. -/
def remade (t : Todo) : Checked Todo := check (.text t.word)

theorem remade_eq {t : Todo} (nonempty : t.word ≠ []) : t.remade = .passed t := by
  simp [remade, check, Field.nonemptyText_text nonempty]

end Todo

namespace Priority

/-- The priority with a token, as its check makes it. -/
def remade (p : Priority) : Checked Priority := check (.text p.token)

theorem remade_eq {p : Priority} (nonempty : p.token ≠ []) : p.remade = .passed p := by
  simp [remade, check, Field.nonemptyText_text nonempty]

end Priority

namespace Timestamp

/-- The timestamp with these values, as its check makes it. -/
def remade (t : Timestamp) : Checked Timestamp :=
  check t.plan (.bool t.isActive) (some t.start) t.finish
    (match t.interval with
      | some interval => .text interval
      | none => .null)

/-- The span of a timestamp never goes beyond its day. -/
theorem remade_eq (t : Timestamp) : t.remade = .passed t := by
  obtain ⟨plan, isActive, start, finish, interval⟩ := t
  have sameDay : ((finish.map (Moment.mk start.date)).all fun moment =>
      moment.date = start.date) = true := by
    cases finish <;> simp
  have clocks : (finish.map (Moment.mk start.date)).map (·.clock) = finish := by
    cases finish <;> rfl
  cases interval <;>
    simp [remade, check, Timestamp.finish, sameDay, clocks, Field.bool, Field.optional, Field.text]

end Timestamp

namespace Heading

/-- The values of a heading's fields. -/
def fields (h : Heading) : List (Data × Data) :=
  [(.ofString "line_number", .int h.line), (.ofString "depth", .int h.depth),
    (.ofString "content", .text h.title), (.ofString "tags", .list (h.tags.map .text))]

/-- What holds of a heading that has been read off its line alone. -/
structure IsPlain (h : Heading) : Prop where
  depth : 1 ≤ h.depth
  tags : distinct h.tags = h.tags
  properties : h.properties = []
  todo : ∀ t, h.todo = some t → t.word ≠ []
  priority : ∀ p, h.priority = some p → p.token ≠ []

theorem distinctAux_distinctAux {seen before : List Text} (earlier : ∀ t ∈ before, t ∈ seen)
    (texts : List Text) :
    distinctAux before (distinctAux seen texts) = distinctAux seen texts := by
  induction texts generalizing seen before with
  | nil => rfl
  | cons t texts induction =>
      by_cases isSeen : t ∈ seen
      · simp only [distinctAux, List.contains_iff_mem, isSeen, if_true]
        exact induction earlier
      · have isNew : t ∉ before := fun member => isSeen (earlier t member)
        have more : ∀ u ∈ t :: before, u ∈ t :: seen := by
          intro u member
          rcases List.mem_cons.mp member with rfl | inBefore
          · exact List.mem_cons_self
          · exact List.mem_cons_of_mem t (earlier u inBefore)
        simp only [distinctAux, List.contains_iff_mem, isSeen, isNew, if_false, induction more]

theorem distinct_distinct (texts : List Text) : distinct (distinct texts) = distinct texts :=
  distinctAux_distinctAux (by simp) texts

theorem word_ne_nil_of_takeTodo {text : Text} {t : Todo} (found : (takeTodo text).1 = some t) :
    t.word ≠ [] := by
  unfold takeTodo at found
  split at found
  · dsimp only at found
    split at found
    · cases found
    · rename_i nonempty
      rw [← Option.some.inj found]
      simpa using nonempty
  · cases found

theorem token_ne_nil_of_takePriority {text : Text} {p : Priority}
    (found : (takePriority text).1 = some p) : p.token ≠ [] := by
  unfold takePriority at found
  split at found
  · split at found
    · dsimp only at found
      split at found
      · cases found
      · rename_i nonempty
        rw [← Option.some.inj found]
        simpa using nonempty
    · cases found
  · cases found

theorem isPlain_of_ofLine? {kind : OutlineKind} {number : Nat} {line : Text} {h : Heading}
    (read : ofLine? kind number line = some h) : h.IsPlain ∧ h.line = number := by
  have depth := depth_pos_of_ofLine? read
  unfold ofLine? at read
  split at read
  · rename_i rest _
    simp only at read
    split at read
    · cases read
    · obtain rfl := Option.some.inj read
      refine ⟨⟨depth, distinct_distinct _, rfl, fun t found => ?_, fun p found => ?_⟩, rfl⟩
      · exact word_ne_nil_of_takeTodo found
      · exact token_ne_nil_of_takePriority found
  · cases read

/-- The heading with these values, as its check makes it. -/
def remade (h : Heading) : Checked Heading := check h.fields h.todo h.priority h.timestamp

theorem remade_eq {h : Heading} (plain : h.IsPlain) (first : 1 ≤ h.line) :
    h.remade = .passed h := by
  obtain ⟨line, depth, title, tags, properties, todo, priority, timestamp⟩ := h
  obtain ⟨positive, distinctTags, rfl, -, -⟩ := plain
  simp only at *
  simp [remade, check, fields, Field.withDefault, Field.required, Field.text, Field.texts_texts,
    Field.integerFrom_int first, Field.integerFrom_int positive, distinctTags]

end Heading

namespace Hit

/-- The values of a hit's fields. -/
def fields (h : Hit Binary64) : List (Data × Data) :=
  [(.ofString "score", .float h.score), (.ofString "line_number", .int h.line),
    (.ofString "file_path", .text h.path), (.ofString "header_chain", .list (h.titles.map .text)),
    (.ofString "content", .text h.content), (.ofString "is_header_line", .bool h.isHeading)]

/-- The hit with these values, as its check makes it. -/
def remade (h : Hit Binary64) : Checked (Hit Binary64) := check h.fields

theorem checkPath_text {path : Text} (solid : path.isAllBlank = false) :
    checkPath (.text path) = .passed path := by
  have nonempty : path ≠ [] := by
    rintro rfl
    cases solid
  simp [checkPath, Field.nonemptyText_text nonempty, solid]

theorem remade_eq {h : Hit Binary64} (score : Binary64.le .zero h.score = true)
    (first : 1 ≤ h.line) (path : h.path.isAllBlank = false) : h.remade = .passed h := by
  have checkedScore : Field.nonnegative (.float h.score) = .passed h.score := by
    simp [Field.nonnegative, Field.number, score]
  simp [remade, check, fields, Field.withDefault, Field.required, Field.text, Field.bool,
    Field.texts_texts, Field.integerFrom_int first, checkPath_text path, checkedScore]

end Hit

end OutlineSearch

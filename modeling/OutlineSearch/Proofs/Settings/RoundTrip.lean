import OutlineSearch.Proofs.FileText
import OutlineSearch.Proofs.Settings.Stability
import OutlineSearch.Proofs.Utf8
import OutlineSearch.Proofs.Yaml.Writing
import OutlineSearch.Settings.File

/-!
# Settings files are read back

The text of a settings file has only visible characters, spaces and line feeds, so no line
terminator in it is changed when its bytes are read.  The text is read back as the data that was
written, whatever texts, numbers and truth values it holds, and settings that stand a second
check are made from the data again.  Nothing is written if a number has more digits than numbers
are written with.
-/

namespace OutlineSearch

/-! ## Sections -/

/-- No score but a finite one is let pass. -/
theorem Matching.finite_of_check {d : Data} {m : Matching} (accepted : check d = .passed m) :
    ∃ negative significand exponent standard,
      m.cutoff = .finite negative significand exponent standard := by
  obtain ⟨notAbove, notBelow⟩ := bounds_of_check accepted
  cases shape : m.cutoff with
  | finite negative significand exponent standard =>
      exact ⟨negative, significand, exponent, standard, rfl⟩
  | nan =>
      rw [shape] at notAbove
      cases notAbove
  | infinite negative =>
      rw [shape] at notAbove notBelow
      cases negative with
      | false => cases notAbove
      | true => cases notBelow

namespace Settings

open Yaml (Section IsLeaf IsFieldValue)

/-- The fields of a section and their values. -/
def fieldsOf : Data → List (Text × Data)
  | .map entries => entries.filterMap fun
    | (.text name, value) => some (name, value)
    | _ => none
  | _ => []

/-- A section with the name and the comment of a heading. -/
def sectionOf (heading : String × String) (d : Data) : Section :=
  ⟨' ' :: heading.2.toList, heading.1.toList, fieldsOf d⟩

/-- The sections of a settings file. -/
def sections (s : Settings) : List Section :=
  sectionComments.zipWith sectionOf
    [s.discovery.toData, s.matching.toData, s.layout.toData, s.limits.toData, s.logging.toData]

/-- The integers among the settings. -/
def numbers (s : Settings) : List Nat :=
  s.limits.workers :: s.limits.maxBytes :: s.layout.count.toList

theorem toData_eq (s : Settings) : s.toData = .map (Yaml.sectionsData s.sections) := rfl

theorem sectionsData_sections (s : Settings) : Yaml.sectionsData s.sections =
    [(.ofString "discovery", s.discovery.toData), (.ofString "search", s.matching.toData),
      (.ofString "output", s.layout.toData), (.ofString "limits", s.limits.toData),
      (.ofString "logging", s.logging.toData)] := rfl

variable {limit : Option Nat}

theorem proper_sectionOf {heading : String × String} {d : Data} (fields : List String)
    (names : (fieldsOf d).map Prod.fst = fields.map String.toList)
    (comment : heading.2.toList.all (decide <| Yaml.IsInline ·) = true)
    (keys : (heading.1 :: fields).all (fun name => Yaml.isKeyName name.toList) = true)
    (someFields : fields ≠ []) (distinct : fields.Nodup)
    (values : ∀ field ∈ fieldsOf d, IsFieldValue limit field.2) :
    (sectionOf heading d).Proper limit := by
  rw [List.all_cons, Bool.and_eq_true] at keys
  have areKeys : ∀ name ∈ (fieldsOf d).map Prod.fst, Yaml.isKeyName name = true := by
    rw [names, List.forall_mem_map]
    exact List.all_eq_true.mp keys.2
  refine ⟨?_, keys.1, ?_, ?_, fun field member => ⟨?_, values field member⟩⟩
  · exact List.forall_mem_cons.mpr ⟨by decide, fun c member =>
      of_decide_eq_true (List.all_eq_true.mp comment c member)⟩
  · rintro none
    rw [sectionOf] at none
    dsimp only at none
    rw [none] at names
    exact someFields (List.map_eq_nil_iff.mp names.symm)
  · change ((fieldsOf d).map Prod.fst).Nodup
    rw [names]
    exact distinct.map fun _ _ => String.toList_inj.mp
  · exact areKeys field.1 (List.mem_map_of_mem member)

theorem isFieldValue_texts (texts : List Text) : IsFieldValue limit (.list (texts.map .text)) := by
  refine .list fun d member => ?_
  obtain ⟨t, -, rfl⟩ := List.mem_map.mp member
  exact .text t

theorem areValues_discovery (d : Discovery) :
    ∀ field ∈ fieldsOf d.toData, IsFieldValue limit field.2 := by
  simp [fieldsOf, Discovery.toData, Data.ofString, isFieldValue_texts,
    IsFieldValue.leaf (IsLeaf.bool _)]

theorem areValues_matching {m : Matching} (cutoff : IsLeaf limit (.float m.cutoff)) :
    ∀ field ∈ fieldsOf m.toData, IsFieldValue limit field.2 := by
  simp [fieldsOf, Matching.toData, Data.ofString, IsFieldValue.leaf cutoff,
    IsFieldValue.leaf (IsLeaf.bool _)]

theorem areValues_layout {l : Layout} (count : ∀ n ∈ l.count, IsLeaf limit (.int n)) :
    ∀ field ∈ fieldsOf l.toData, IsFieldValue limit field.2 := by
  cases shape : l.count with
  | none =>
      simp [fieldsOf, Layout.toData, Data.ofString, shape, IsFieldValue.leaf (IsLeaf.bool _),
        IsFieldValue.leaf (IsLeaf.text _), IsFieldValue.leaf IsLeaf.null]
  | some n =>
      simp [fieldsOf, Layout.toData, Data.ofString, shape, IsFieldValue.leaf (IsLeaf.bool _),
        IsFieldValue.leaf (IsLeaf.text _), IsFieldValue.leaf (count n shape)]

theorem areValues_limits {l : Limits} (workers : IsLeaf limit (.int l.workers))
    (maxBytes : IsLeaf limit (.int l.maxBytes)) :
    ∀ field ∈ fieldsOf l.toData, IsFieldValue limit field.2 := by
  simp [fieldsOf, Limits.toData, Data.ofString, IsFieldValue.leaf workers,
    IsFieldValue.leaf maxBytes]

theorem areValues_logging (l : Logging) :
    ∀ field ∈ fieldsOf l.toData, IsFieldValue limit field.2 := by
  simp [fieldsOf, Logging.toData, Data.ofString, IsFieldValue.leaf (IsLeaf.text _)]

theorem proper_sections {s : Settings} (cutoff : IsLeaf limit (.float s.matching.cutoff))
    (fits : ∀ most ∈ limit, ∀ n ∈ s.numbers, (Text.ofNat n).length ≤ most) :
    ∀ x ∈ s.sections, x.Proper limit := by
  have isLeaf {n : Nat} (member : n ∈ s.numbers) : IsLeaf limit (.int n) :=
    .int fun most bounded => fits most bounded n member
  simp only [sections, sectionComments, List.zipWith_cons_cons, List.zipWith_nil_left,
    List.forall_mem_cons]
  refine ⟨?_, ?_, ?_, ?_, ?_, nofun⟩
  · exact proper_sectionOf Discovery.fields rfl (by decide) (by decide +kernel) (by decide)
      (by decide) (areValues_discovery s.discovery)
  · exact proper_sectionOf Matching.fields rfl (by decide) (by decide +kernel) (by decide)
      (by decide) (areValues_matching cutoff)
  · exact proper_sectionOf Layout.fields rfl (by decide) (by decide +kernel) (by decide) (by decide)
      (areValues_layout fun n member => isLeaf (by simp [numbers, Option.mem_def.mp member]))
  · exact proper_sectionOf Limits.fields rfl (by decide) (by decide +kernel) (by decide) (by decide)
      (areValues_limits (isLeaf (by simp [numbers])) (isLeaf (by simp [numbers])))
  · exact proper_sectionOf Logging.fields rfl (by decide) (by decide +kernel) (by decide)
      (by decide) (areValues_logging s.logging)

theorem sectionLines_eq {heading : String × String} {entries : List (Data × Data)} {d : Data}
    (found : Data.lookup? heading.1 entries = some d) (isMap : d = (sectionOf heading d).data)
    (proper : (sectionOf heading d).Proper limit) :
    sectionLines entries heading.1 heading.2 = (sectionOf heading d).lines := by
  have text : Yaml.render [(.ofString heading.1, d)] = (sectionOf heading d).text := by
    rw [← Yaml.render_section proper, ← isMap]
    rfl
  rw [sectionLines, found]
  dsimp only
  rw [text]
  rfl

/-- The text of settings is the text of their sections. -/
theorem dataText_sectionsData {s : Settings} (proper : ∀ x ∈ s.sections, x.Proper limit) :
    dataText (Yaml.sectionsData s.sections) =
      Text.join ['\n'] (headLines ++ s.sections.flatMap Section.lines) := by
  simp only [sections, sectionComments, List.zipWith_cons_cons, List.zipWith_nil_left,
    List.forall_mem_cons] at proper
  obtain ⟨discovery, matching, layout, limits, logging, -⟩ := proper
  rw [dataText, sectionsData_sections]
  congr 2
  simp only [sections, sectionComments, List.zipWith_cons_cons, List.zipWith_nil_left,
    List.flatMap_cons, List.flatMap_nil]
  rw [sectionLines_eq (by simp) rfl discovery, sectionLines_eq (by simp) rfl matching,
    sectionLines_eq (by simp) rfl layout, sectionLines_eq (by simp) rfl limits,
    sectionLines_eq (by simp) rfl logging]

/-! ## Reading -/

theorem isIdle_headLines : ∀ line ∈ headLines, Yaml.IsIdle line := by
  have comment {t : Text} (visible : t.all (decide <| Yaml.IsInline ·) = true) :
      Yaml.IsIdle ('#' :: t) :=
    .inr ⟨t, rfl, fun c member => of_decide_eq_true (List.all_eq_true.mp visible c member)⟩
  simp only [headLines, List.forall_mem_cons]
  exact ⟨comment (by decide), comment (by decide), .inl rfl, nofun⟩

/-- The text of a file without a carriage return, which is not blank, is read as it is. -/
theorem readData_of_isSimple {disk : Disk} {path content : Text} {entries : List (Data × Data)}
    (written : disk.read path = .ok (Utf8.encode content)) (simple : Yaml.IsSimple content)
    (solid : content.isAllBlank = false)
    (loaded : Yaml.load content = .ok (some (.map entries))) :
    readData disk path = .plain (.ok entries) := by
  have noReturn : '\r' ∉ content := fun member => absurd (simple '\r' member) (by decide)
  rw [readData, written]
  dsimp only
  rw [Utf8.decode_encode]
  dsimp only
  rw [Text.normalizeNewlines_of_notMem noReturn, dataOf, solid, loaded]
  rfl

/-- Settings are read back from a file with their data if their numbers can be written. -/
theorem readData_dataText {s : Settings} {disk : Disk} {path : Text}
    (again : check s.toData = .passed s) (fits : ∀ n ∈ s.numbers, Text.fits n = true)
    (written : disk.read path = .ok (Utf8.encode (dataText (Yaml.sectionsData s.sections)))) :
    readData disk path = .plain (.ok (Yaml.sectionsData s.sections)) := by
  obtain ⟨negative, significand, exponent, standard, cutoff⟩ :=
    Matching.finite_of_check (isChecked_of_check again).matching
  have leaf : IsLeaf (some Text.maxDigits) (.float s.matching.cutoff) := by
    rw [cutoff]
    exact .float negative standard
  have proper : ∀ x ∈ s.sections, x.Proper (some Text.maxDigits) :=
    proper_sections leaf fun most bounded n member => by
      cases bounded
      exact of_decide_eq_true (fits n member)
  obtain ⟨first, rest, shape⟩ : ∃ first rest, s.sections = first :: rest := ⟨_, _, rfl⟩
  have text : dataText (Yaml.sectionsData s.sections) = Yaml.documentText headLines first rest := by
    rw [dataText_sectionsData proper, shape, Yaml.join_sectionLines]
  have distinct : (s.sections.map Section.name).Nodup := by
    have names : s.sections.map Section.name = fields.map String.toList := rfl
    rw [names]
    exact List.Nodup.map (fun _ _ => String.toList_inj.mp) (by decide)
  rw [shape] at proper distinct
  have each := List.forall_mem_cons.mp proper
  have loaded := Yaml.load_documentText isIdle_headLines proper distinct
  have simple := Yaml.isSimple_documentText isIdle_headLines each.1 each.2
  rw [← shape, ← text] at loaded
  rw [← text] at simple
  have solid : (dataText (Yaml.sectionsData s.sections)).isAllBlank = false := by
    rw [text]
    rfl
  exact readData_of_isSimple written simple solid loaded

/-! ## Numbers that are too long -/

theorem fitsEach_texts (texts : List Text) : Data.fitsEach (texts.map .text) = true := by
  induction texts with
  | nil => rfl
  | cons t texts induction => simpa [Data.fitsEach, Data.fits] using induction

theorem fits_discovery (d : Discovery) : d.toData.fits = true := by
  simp [Discovery.toData, Data.ofString, Data.fits, Data.fitsEntries, fitsEach_texts]

theorem fits_matching (m : Matching) : m.toData.fits = true := by
  simp [Matching.toData, Data.ofString, Data.fits, Data.fitsEntries]

theorem fits_layout_iff (l : Layout) :
    l.toData.fits = true ↔ ∀ n ∈ l.count, Text.fits n = true := by
  cases count : l.count <;>
    simp [Layout.toData, Data.ofString, Data.fits, Data.fitsEntries, count]

theorem fits_limits_iff (l : Limits) :
    l.toData.fits = true ↔ Text.fits l.workers = true ∧ Text.fits l.maxBytes = true := by
  simp [Limits.toData, Data.ofString, Data.fits, Data.fitsEntries]

theorem fits_logging (l : Logging) : l.toData.fits = true := by
  simp [Logging.toData, Data.ofString, Data.fits, Data.fitsEntries]

/-- The integers of the sections are the numbers among the settings. -/
theorem all_sectionFits_iff (s : Settings) :
    (sectionComments.all fun (name, _) => sectionFits (Yaml.sectionsData s.sections) name) = true ↔
      ∀ n ∈ s.numbers, Text.fits n = true := by
  rw [sectionsData_sections]
  simp [sectionComments, sectionFits, fits_discovery, fits_matching, fits_layout_iff,
    fits_limits_iff, fits_logging, numbers]
  tauto

theorem render_eq (s : Settings) : s.render =
    if ∀ n ∈ s.numbers, Text.fits n = true then .ok (dataText (Yaml.sectionsData s.sections))
    else .error {} := by
  rw [render, toData_eq]
  dsimp only
  rw [writtenText]
  simp only [all_sectionFits_iff]

/-- Settings that stand a second check are written, and read back as they were from any file with
their text, exactly if none of their numbers has more digits than numbers are written with. -/
theorem render_reads_back_iff {s : Settings} (again : check s.toData = .passed s) :
    (∃ text, s.render = .ok text ∧ ∀ disk path, disk.read path = .ok (Utf8.encode text) →
      ∃ entries, s.toData = .map entries ∧ readData disk path = .plain (.ok entries) ∧
        build (.map entries) = .ok s) ↔ ∀ n ∈ s.numbers, n < 10 ^ Text.maxDigits := by
  simp only [← Text.fits_iff_lt]
  constructor
  · rintro ⟨text, rendered, -⟩
    by_contra long
    rw [render_eq, if_neg long] at rendered
    cases rendered
  · intro fits
    refine ⟨_, by rw [render_eq, if_pos fits], fun disk path written => ?_⟩
    refine ⟨_, toData_eq s, readData_dataText again fits written, ?_⟩
    rw [← toData_eq, build, again]
    rfl

/-- Settings whose texts need quotes. -/
def quotedSettings : Settings :=
  { discovery := { skippedFolders := ["[a]".toList, "null".toList] }
    layout := { separator := " #: ".toList, count := some 12 }
    logging := { format := "it's\n\"1\" ".toList } }

/-- A disk with a single file. -/
def diskWith (name : Text) (content : List UInt8) : Disk :=
  ⟨.folder [(name, .file content)], [], []⟩

/-- Settings that are the defaults where they are checked stand another check. -/
theorem check_of_defaults {s : Settings}
    (org : s.discovery.orgExtensions = ({} : Discovery).orgExtensions)
    (markdown : s.discovery.markdownExtensions = ({} : Discovery).markdownExtensions)
    (matching : s.matching = {}) (limits : s.limits = {}) : check s.toData = .passed s := by
  have kept : Discovery.AreKept s.discovery.orgExtensions ∧
      Discovery.AreKept s.discovery.markdownExtensions := by
    rw [org, markdown]
    exact ⟨Discovery.areKept_of_normal (by decide +kernel) rfl,
      Discovery.areKept_of_normal (by decide +kernel) rfl⟩
  have noData : Matching.check (.map []) = .passed s.matching := by
    rw [matching]
    rfl
  have noLimits : Limits.check (.map []) = .passed s.limits := by
    rw [limits]
    rfl
  have checked : s.IsChecked :=
    ⟨⟨kept.1, kept.2⟩, Matching.check_toData noData, Limits.check_toData noLimits⟩
  refine (outcomes_of_isChecked checked []).same.mpr ?_
  rw [Discovery.extensions, org, markdown]
  decide +kernel

theorem check_quotedSettings : check quotedSettings.toData = .passed quotedSettings :=
  check_of_defaults rfl rfl rfl rfl

theorem read_diskWith (content : List UInt8) :
    (diskWith "a".toList content).read "/a".toList = .ok content := rfl

/-- The texts are read back with their spaces, quotes and line feeds. -/
theorem render_reads_back_quoted :
    check quotedSettings.toData = .passed quotedSettings ∧
    ∃ text, quotedSettings.render = .ok text ∧ ∃ entries, quotedSettings.toData = .map entries ∧
      readData (diskWith "a".toList (Utf8.encode text)) "/a".toList = .plain (.ok entries) ∧
      build (.map entries) = .ok quotedSettings := by
  have short : ∀ n ∈ quotedSettings.numbers, n < 10 ^ Text.maxDigits := by decide +kernel
  obtain ⟨text, rendered, reads⟩ := (render_reads_back_iff check_quotedSettings).mpr short
  exact ⟨check_quotedSettings, text, rendered, reads _ _ (read_diskWith _)⟩

/-- The defaults, but for a number of results with one digit too many. -/
def longSettings : Settings := { layout := { count := some (10 ^ Text.maxDigits) } }

theorem check_longSettings : check longSettings.toData = .passed longSettings :=
  check_of_defaults rfl rfl rfl rfl

/-- Settings that stand a second check need not be written. -/
theorem long_count_is_not_written :
    ¬∀ s : Settings, check s.toData = .passed s →
      ∃ text, s.render = .ok text ∧ ∀ disk path, disk.read path = .ok (Utf8.encode text) →
        ∃ entries, s.toData = .map entries ∧ readData disk path = .plain (.ok entries) ∧
          build (.map entries) = .ok s := by
  intro total
  obtain ⟨text, rendered, -⟩ := total longSettings check_longSettings
  have long : ¬∀ n ∈ longSettings.numbers, Text.fits n = true := by
    intro fits
    have least := (Text.fits_iff_lt _).mp (fits (10 ^ Text.maxDigits) (by decide +kernel))
    exact Nat.lt_irrefl _ least
  rw [render_eq, if_neg long] at rendered
  cases rendered

end Settings

end OutlineSearch

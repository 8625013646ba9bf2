import OutlineSearch.Text.Blank
import OutlineSearch.Text.Case

/-!
# Lower case is final

A text in lower case is its own lower case: no run of the mapping to lower case leads to a
character that a run begins with again, and a final sigma stays one.  The mapping neither makes
nor removes blanks and points.
-/

namespace OutlineSearch.Text

/-! ## The table -/

/-- Whether no image of a run is one of the code points `first`, `first + step`, up to `last`.
It is enough that the images lie outside of them, or between them. -/
def imagesAvoid (run : Nat × Nat × Nat × Int) (first last step : Nat) : Bool :=
  match run with
  | (low, high, stride, shift) =>
    Nat.blt ((high : Int) + shift).toNat first || Nat.blt last ((low : Int) + shift).toNat
      || ((Nat.beq stride 2 || Nat.beq low high) && Nat.beq step 2
        && Nat.beq ((((low : Int) + shift).toNat + first) % 2) 1)

theorem images_avoid_runs :
    (toLowerRuns.all fun run => toLowerRuns.all fun (first, last, step, _) =>
      imagesAvoid run first last step) = true := by
  decide +kernel

/-- What is neither made nor changed: the point, the capital letters of ASCII, and blanks. -/
def keptRanges : List (Nat × Nat) := (46, 46) :: (65, 90) :: blankRanges

theorem images_avoid_kept :
    (toLowerRuns.all fun run => keptRanges.all fun (first, last) =>
      imagesAvoid run first last 1) = true := by
  decide +kernel

theorem images_are_chars :
    (toLowerRuns.all fun (low, high, _, shift) =>
      decide (0 ≤ (low : Int) + shift ∧ (high : Int) + shift < 0x110000 ∧
        ((high : Int) + shift < 0xD800 ∨ 0xDFFF < (low : Int) + shift))) = true := by
  decide +kernel

theorem toNat_ofNat_of_isValidChar {n : Nat} (valid : n.isValidChar) :
    (Char.ofNat n).toNat = n := by
  have same : Char.ofNat n = Char.ofNatAux n valid := dif_pos valid
  rw [same]
  rfl

/-- A run that counts a code point up, and the image of it. -/
theorem exists_run_of_shiftIn? {runs : List (Nat × Nat × Nat × Int)} {code image : Nat}
    (shifted : shiftIn? runs code = some image) :
    ∃ low high stride shift, (low, high, stride, shift) ∈ runs ∧ low ≤ code ∧ code ≤ high ∧
      (code - low) % stride = 0 ∧ image = ((code : Int) + shift).toNat := by
  obtain ⟨run, member, found⟩ := List.exists_of_findSome?_eq_some shifted
  obtain ⟨low, high, stride, shift⟩ := run
  dsimp only at found
  split at found
  · rename_i counted
    simp only [Bool.and_eq_true, decide_eq_true_eq, beq_iff_eq] at counted
    exact ⟨low, high, stride, shift, member, counted.1.1, counted.1.2, counted.2,
      (Option.some.inj found).symm⟩
  · cases found

theorem not_mem_of_imagesAvoid {low high stride first last step code : Nat} {shift : Int}
    (avoid : imagesAvoid (low, high, stride, shift) first last step = true)
    (positive : 0 ≤ (low : Int) + shift) (above : low ≤ code) (below : code ≤ high)
    (counted : (code - low) % stride = 0) :
    ¬(first ≤ ((code : Int) + shift).toNat ∧ ((code : Int) + shift).toNat ≤ last ∧
      (((code : Int) + shift).toNat - first) % step = 0) := by
  rintro ⟨notBefore, notBehind, hit⟩
  simp only [imagesAvoid, Bool.or_eq_true, Bool.and_eq_true, Nat.blt_eq,
    Nat.beq_eq] at avoid
  obtain (before | behind) | ⟨⟨spread, rfl⟩, odd⟩ := avoid
  · omega
  · omega
  · have even : (code - low) % 2 = 0 := by
      rcases spread with rfl | rfl
      · exact counted
      · have same : code = low := by omega
        simp [same]
    omega

section Image

variable {code image : Nat} (shifted : shiftIn? toLowerRuns code = some image)
include shifted

theorem shiftIn?_image : shiftIn? toLowerRuns image = none := by
  obtain ⟨low, high, stride, shift, member, above, below, counted, rfl⟩ :=
    exists_run_of_shiftIn? shifted
  have positive := (of_decide_eq_true (List.all_eq_true.mp images_are_chars _ member)).1
  cases again : shiftIn? toLowerRuns ((code : Int) + shift).toNat with
  | none => rfl
  | some other =>
      obtain ⟨first, last, step, _, otherMember, inside⟩ := exists_run_of_shiftIn? again
      have avoid :=
        List.all_eq_true.mp (List.all_eq_true.mp images_avoid_runs _ member) _ otherMember
      exact (not_mem_of_imagesAvoid avoid positive above below counted
        ⟨inside.1, inside.2.1, inside.2.2.1⟩).elim

theorem image_notMem_kept {first last : Nat} (kept : (first, last) ∈ keptRanges) :
    ¬(first ≤ image ∧ image ≤ last) := by
  obtain ⟨low, high, stride, shift, member, above, below, counted, rfl⟩ :=
    exists_run_of_shiftIn? shifted
  have positive := (of_decide_eq_true (List.all_eq_true.mp images_are_chars _ member)).1
  have avoid := List.all_eq_true.mp (List.all_eq_true.mp images_avoid_kept _ member) _ kept
  rintro ⟨notBefore, notBehind⟩
  exact not_mem_of_imagesAvoid avoid positive above below counted
    ⟨notBefore, notBehind, Nat.mod_one _⟩

theorem toNat_ofNat_image : (Char.ofNat image).toNat = image := by
  obtain ⟨low, high, stride, shift, member, above, below, counted, rfl⟩ :=
    exists_run_of_shiftIn? shifted
  obtain ⟨positive, small, valid⟩ :=
    of_decide_eq_true (List.all_eq_true.mp images_are_chars _ member)
  apply toNat_ofNat_of_isValidChar
  unfold Nat.isValidChar
  dsimp only at *
  omega

end Image

/-! ## Characters -/

theorem ascii_toLower (n : Nat) (ascii : n < 128) :
    ((Char.ofNat n).toLower).toNat < 128 ∧
      (Char.ofNat n).toLower.toLower = (Char.ofNat n).toLower ∧
      ((Char.ofNat n).toLower = '.' → Char.ofNat n = '.') ∧
      isBlank (Char.ofNat n).toLower = isBlank (Char.ofNat n) := by
  revert n
  decide +kernel

theorem toLower_eq_self {c : Char} (notCapital : ¬(65 ≤ c.toNat ∧ c.toNat ≤ 90)) :
    c.toLower = c := by
  have capital : ¬(c.val ≥ 65 ∧ c.val ≤ 90) := by
    simpa [UInt32.le_iff_toNat_le] using notCapital
  exact dif_neg capital

/-- A character is mapped to itself, or to the image of a run, or it is an ASCII letter. -/
theorem lowerChar_cases (c : Char) :
    (c.toNat < 128 ∧ lowerChar c = c.toLower) ∨ lowerChar c = c ∨
      ∃ image, shiftIn? toLowerRuns c.toNat = some image ∧ lowerChar c = Char.ofNat image := by
  unfold lowerChar
  split
  · rename_i ascii
    exact Or.inl ⟨ascii, rfl⟩
  · cases shifted : shiftIn? toLowerRuns c.toNat with
    | none => exact Or.inr (Or.inl (by simp))
    | some image => exact Or.inr (Or.inr ⟨image, rfl, rfl⟩)

theorem lowerChar_lowerChar (c : Char) : lowerChar (lowerChar c) = lowerChar c := by
  obtain ⟨ascii, lowered⟩ | same | ⟨image, shifted, lowered⟩ := lowerChar_cases c
  · obtain ⟨asciiToo, final, -, -⟩ := ascii_toLower c.toNat ascii
    rw [Char.ofNat_toNat] at asciiToo final
    rw [lowered, lowerChar, if_pos asciiToo, final]
  · rw [same, same]
  · have code := toNat_ofNat_image shifted
    rw [lowered]
    unfold lowerChar
    split
    · apply toLower_eq_self
      rw [code]
      exact image_notMem_kept shifted (by simp [keptRanges])
    · rw [code, shiftIn?_image shifted]
      simp

theorem eq_point_of_lowerChar {c : Char} (point : lowerChar c = '.') : c = '.' := by
  obtain ⟨ascii, lowered⟩ | same | ⟨image, shifted, lowered⟩ := lowerChar_cases c
  · have kept := (ascii_toLower c.toNat ascii).2.2.1
    rw [Char.ofNat_toNat] at kept
    exact kept (lowered ▸ point)
  · exact same ▸ point
  · have code := toNat_ofNat_image shifted
    rw [← lowered, point] at code
    have kept : (46, 46) ∈ keptRanges := by simp [keptRanges]
    exact (image_notMem_kept shifted kept
      (by rw [← code]; decide)).elim

theorem isBlank_of_lowerChar {c : Char} (blank : isBlank (lowerChar c) = true) :
    isBlank c = true := by
  obtain ⟨ascii, lowered⟩ | same | ⟨image, shifted, lowered⟩ := lowerChar_cases c
  · have kept := (ascii_toLower c.toNat ascii).2.2.2
    rw [Char.ofNat_toNat] at kept
    rw [← kept, ← lowered, blank]
  · rwa [same] at blank
  · have code := toNat_ofNat_image shifted
    rw [lowered, isBlank, code, inRanges, List.any_eq_true] at blank
    obtain ⟨⟨first, last⟩, member, inside⟩ := blank
    simp only [Bool.and_eq_true, decide_eq_true_eq] at inside
    exact (image_notMem_kept shifted (List.mem_cons_of_mem _ (List.mem_cons_of_mem _ member))
      inside).elim

/-! ## Texts -/

/-- What a character becomes, wherever it stands: characters that are in lower case, of which the
last is a blank or the first a point only if the character is. -/
theorem exists_lowerAux_cons (c : Char) (before rest : Text) :
    ∃ image last, lowerAux before (c :: rest) = image ++ last :: lowerAux (c :: before) rest ∧
      (∀ d ∈ image ++ [last], lowerChar d = d) ∧ (isBlank last = true → isBlank c = true) ∧
      ((image ++ [last]).head? = some '.' → c = '.') := by
  have sigmas : lowerChar 'ς' = 'ς' ∧ lowerChar 'σ' = 'σ' ∧ isBlank 'ς' = false ∧
      isBlank 'σ' = false := by
    decide +kernel
  have dotted : lowerChar 'i' = 'i' ∧ lowerChar (Char.ofNat 0x307) = Char.ofNat 0x307 ∧
      isBlank (Char.ofNat 0x307) = false := by
    decide +kernel
  rw [lowerAux]
  by_cases sigma : c = 'Σ'
  · rw [if_pos sigma]
    split
    · exact ⟨[], 'ς', rfl, by simp [sigmas], by simp [sigmas], by simp⟩
    · exact ⟨[], 'σ', rfl, by simp [sigmas], by simp [sigmas], by simp⟩
  · rw [if_neg sigma]
    by_cases dot : c = 'İ'
    · rw [if_pos dot]
      exact ⟨['i'], Char.ofNat 0x307, rfl, by simp [dotted], by simp [dotted], by simp⟩
    · rw [if_neg dot]
      refine ⟨[], lowerChar c, rfl, ?_, isBlank_of_lowerChar, ?_⟩
      · simpa using lowerChar_lowerChar c
      · simpa using eq_point_of_lowerChar

theorem lowerChar_of_mem_lowerAux {before text : Text} {d : Char}
    (member : d ∈ lowerAux before text) : lowerChar d = d := by
  induction text generalizing before with
  | nil => cases member
  | cons c rest induction =>
      obtain ⟨image, last, split, final, -, -⟩ := exists_lowerAux_cons c before rest
      rw [split, List.append_cons, List.mem_append] at member
      rcases member with here | later
      · exact final d here
      · exact induction later

theorem lowerChar_of_mem_lower {text : Text} {d : Char} (member : d ∈ lower text) :
    lowerChar d = d :=
  lowerChar_of_mem_lowerAux member

theorem lowerAux_eq_self {text : Text} (final : ∀ d ∈ text, lowerChar d = d) (before : Text) :
    lowerAux before text = text := by
  have capitals : lowerChar 'Σ' ≠ 'Σ' ∧ lowerChar 'İ' ≠ 'İ' := by decide +kernel
  induction text generalizing before with
  | nil => rfl
  | cons c rest induction =>
      rw [List.forall_mem_cons] at final
      have notSigma : c ≠ 'Σ' := by
        rintro rfl
        exact capitals.1 final.1
      have notDotted : c ≠ 'İ' := by
        rintro rfl
        exact capitals.2 final.1
      rw [lowerAux, if_neg notSigma, if_neg notDotted, final.1, induction final.2]
      rfl

theorem lower_eq_self {text : Text} (final : ∀ d ∈ text, lowerChar d = d) : lower text = text :=
  lowerAux_eq_self final []

theorem head?_lower_eq_point {text : Text} (point : (lower text).head? = some '.') :
    text.head? = some '.' := by
  cases text with
  | nil => cases point
  | cons c rest =>
      obtain ⟨image, last, split, -, -, kept⟩ := exists_lowerAux_cons c [] rest
      rw [lower, split, List.append_cons, List.head?_append] at point
      cases first : (image ++ [last]).head? with
      | none => simp at first
      | some d =>
          rw [first] at point
          rw [kept (first.trans point), List.head?_cons]

theorem getLast?_lowerAux {before text : Text} (solid : ∀ d ∈ text.getLast?, isBlank d = false) :
    ∀ d ∈ (lowerAux before text).getLast?, isBlank d = false := by
  induction text generalizing before with
  | nil => exact solid
  | cons c rest induction =>
      obtain ⟨image, last, split, -, blank, -⟩ := exists_lowerAux_cons c before rest
      rw [split, List.append_cons]
      cases rest with
      | nil =>
          have solidChar := solid c rfl
          intro d member
          obtain rfl : last = d := by simpa [lowerAux] using member
          rw [Bool.eq_false_iff]
          intro isBlankLast
          rw [blank isBlankLast] at solidChar
          cases solidChar
      | cons next rest =>
          have ends : ∀ d ∈ (lowerAux (c :: before) (next :: rest)).getLast?, isBlank d = false :=
            induction (by simpa using solid)
          have nonempty : (lowerAux (c :: before) (next :: rest)).getLast?.isSome := by
            obtain ⟨image, final, split, -, -, -⟩ := exists_lowerAux_cons next (c :: before) rest
            simp [split]
          obtain ⟨final, isLast⟩ := Option.isSome_iff_exists.mp nonempty
          intro d member
          rw [List.getLast?_append, isLast, Option.some_or] at member
          exact ends d (isLast.trans member)

theorem getLast?_lower {text : Text} (solid : ∀ d ∈ text.getLast?, isBlank d = false) :
    ∀ d ∈ (lower text).getLast?, isBlank d = false :=
  getLast?_lowerAux solid

end OutlineSearch.Text

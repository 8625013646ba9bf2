import OutlineSearch.Text.Utf8

/-!
# Bytes of a text

The bytes that a text is written as are read back as the text.  Every character is written as one
well-formed sequence, which a reader takes as one piece whatever bytes stand behind it.
-/

namespace OutlineSearch.Utf8

theorem toNat_ofNat {n : Nat} (small : n < 256) : (UInt8.ofNat n).toNat = n := by
  rw [UInt8.toNat_ofNat']
  omega

theorem toNat_continuation (code : Nat) : (continuation code).toNat = 0x80 + code % 64 :=
  toNat_ofNat (by omega)

theorem isContinuation_iff (b : UInt8) :
    isContinuation b = true ↔ 0x80 ≤ b.toNat ∧ b.toNat < 0xC0 := by
  simp only [isContinuation, Bool.and_eq_true, decide_eq_true_eq, UInt8.le_iff_toNat_le,
    UInt8.lt_iff_toNat_lt]
  exact Iff.rfl

theorem isContinuation_continuation (code : Nat) : isContinuation (continuation code) = true := by
  rw [isContinuation_iff, toNat_continuation]
  omega

theorem push_continuation (front code : Nat) :
    push front (continuation code) = front * 64 + code % 64 := by
  have value := toNat_continuation code
  unfold push
  omega

/-- The bounds on the second byte of a sequence. -/
theorem isSecond_iff (first second : UInt8) : isSecond first second = true ↔
    isContinuation second = true ∧
      (first.toNat = 0xE0 → 0xA0 ≤ second.toNat) ∧ (first.toNat = 0xED → second.toNat < 0xA0) ∧
      (first.toNat = 0xF0 → 0x90 ≤ second.toNat) ∧ (first.toNat = 0xF4 → second.toNat < 0x90) := by
  have is : ∀ b : UInt8, (first != b) = true ↔ first.toNat ≠ b.toNat := by
    intro b
    rw [bne_iff_ne, Ne, Ne, UInt8.toNat_inj]
  simp only [isSecond, Bool.and_eq_true, Bool.or_eq_true, is, decide_eq_true_eq,
    UInt8.le_iff_toNat_le, UInt8.lt_iff_toNat_lt, and_assoc, ne_eq, ← Decidable.imp_iff_not_or]
  exact Iff.rfl

theorem isSecond_continuation {first : UInt8} {code : Nat}
    (notOverlong : first.toNat = 0xE0 → 0x20 ≤ code % 64)
    (noSurrogate : first.toNat = 0xED → code % 64 < 0x20)
    (notOverlongToo : first.toNat = 0xF0 → 0x10 ≤ code % 64)
    (notTooLarge : first.toNat = 0xF4 → code % 64 < 0x10) :
    isSecond first (continuation code) = true := by
  rw [isSecond_iff, toNat_continuation]
  exact ⟨isContinuation_continuation code, by omega, by omega, by omega, by omega⟩

/-! ## One character -/

theorem readTail_cons (front width missing code : Nat) (rest : List UInt8) :
    readTail front width (missing + 1) (continuation code :: rest) =
      readTail (front * 64 + code % 64) (width + 1) missing rest := by
  rw [readTail, if_pos (isContinuation_continuation code), push_continuation]

theorem readSequence_cons {first : UInt8} {front size code : Nat} (rest : List UInt8)
    (second : isSecond first (continuation code) = true) :
    readSequence first front size (continuation code :: rest) =
      readTail (front * 64 + code % 64) 2 (size - 2) rest := by
  rw [readSequence, if_pos second, push_continuation]

/-- The code of a character is no surrogate and not too large. -/
theorem toNat_valid (c : Char) : c.toNat < 0xD800 ∨ 0xDFFF < c.toNat ∧ c.toNat < 0x110000 :=
  c.valid

/-- What the first byte of a sequence says about it. -/
theorem readPiece_of_toNat {first : UInt8} {rest : List UInt8} {n : Nat}
    (value : first.toNat = n) : readPiece first rest =
      if n < 0x80 then ⟨.ok (Char.ofNat n), 1⟩
      else if n < 0xC2 then ⟨.error .badStart, 1⟩
      else if n < 0xE0 then readSequence first (n - 0xC0) 2 rest
      else if n < 0xF0 then readSequence first (n - 0xE0) 3 rest
      else if n < 0xF5 then readSequence first (n - 0xF0) 4 rest
      else ⟨.error .badStart, 1⟩ := by
  subst value
  simp only [readPiece, UInt8.lt_iff_toNat_lt]
  rfl

theorem readPiece_one {code : Nat} (most : code < 0x80) (rest : List UInt8) :
    readPiece (UInt8.ofNat code) rest = ⟨.ok (Char.ofNat code), 1⟩ := by
  rw [readPiece_of_toNat (toNat_ofNat (by omega)), if_pos most]

theorem readPiece_two {code : Nat} (least : 0x80 ≤ code) (most : code < 0x800)
    (rest : List UInt8) :
    readPiece (UInt8.ofNat (0xC0 + code / 64)) (continuation code :: rest) =
      ⟨.ok (Char.ofNat code), 2⟩ := by
  have start := toNat_ofNat (n := 0xC0 + code / 64) (by omega)
  have second : isSecond (UInt8.ofNat (0xC0 + code / 64)) (continuation code) = true :=
    isSecond_continuation (by omega) (by omega) (by omega) (by omega)
  have number : (0xC0 + code / 64 - 0xC0) * 64 + code % 64 = code := by omega
  rw [readPiece_of_toNat start, if_neg (by omega), if_neg (by omega), if_pos (by omega),
    readSequence_cons rest second, number, Nat.sub_self, readTail]

theorem readPiece_three {code : Nat} (least : 0x800 ≤ code) (most : code < 0x10000)
    (noSurrogate : code < 0xD800 ∨ 0xDFFF < code) (rest : List UInt8) :
    readPiece (UInt8.ofNat (0xE0 + code / 4096))
        (continuation (code / 64) :: continuation code :: rest) =
      ⟨.ok (Char.ofNat code), 3⟩ := by
  have start := toNat_ofNat (n := 0xE0 + code / 4096) (by omega)
  have second : isSecond (UInt8.ofNat (0xE0 + code / 4096)) (continuation (code / 64)) = true :=
    isSecond_continuation (by omega) (by omega) (by omega) (by omega)
  have number : ((0xE0 + code / 4096 - 0xE0) * 64 + code / 64 % 64) * 64 + code % 64 = code := by
    omega
  rw [readPiece_of_toNat start, if_neg (by omega), if_neg (by omega), if_neg (by omega),
    if_pos (by omega), readSequence_cons _ second, readTail_cons, number, readTail]

theorem readPiece_four {code : Nat} (least : 0x10000 ≤ code) (most : code < 0x110000)
    (rest : List UInt8) :
    readPiece (UInt8.ofNat (0xF0 + code / 262144))
        (continuation (code / 4096) :: continuation (code / 64) :: continuation code :: rest) =
      ⟨.ok (Char.ofNat code), 4⟩ := by
  have start := toNat_ofNat (n := 0xF0 + code / 262144) (by omega)
  have second :
      isSecond (UInt8.ofNat (0xF0 + code / 262144)) (continuation (code / 4096)) = true :=
    isSecond_continuation (by omega) (by omega) (by omega) (by omega)
  have number : (((0xF0 + code / 262144 - 0xF0) * 64 + code / 4096 % 64) * 64 +
      code / 64 % 64) * 64 + code % 64 = code := by
    omega
  rw [readPiece_of_toNat start, if_neg (by omega), if_neg (by omega), if_neg (by omega),
    if_neg (by omega), if_pos (by omega), readSequence_cons _ second, readTail_cons,
    readTail_cons, number, readTail]

/-- A character is read as one piece from the bytes that it is written as. -/
theorem readPiece_encodeChar (c : Char) : ∃ first tail, encodeChar c = first :: tail ∧
    ∀ rest, readPiece first (tail ++ rest) = ⟨.ok c, tail.length + 1⟩ := by
  have valid := toNat_valid c
  unfold encodeChar
  dsimp only
  split
  · rename_i most
    refine ⟨_, [], rfl, fun rest => ?_⟩
    rw [readPiece_one most, Char.ofNat_toNat]
    rfl
  split
  · refine ⟨_, _, rfl, fun rest => ?_⟩
    rw [List.singleton_append, readPiece_two (by omega) (by omega), Char.ofNat_toNat]
    rfl
  split
  · refine ⟨_, _, rfl, fun rest => ?_⟩
    rw [List.cons_append, List.singleton_append,
      readPiece_three (by omega) (by omega) (by omega), Char.ofNat_toNat]
    rfl
  · refine ⟨_, _, rfl, fun rest => ?_⟩
    rw [List.cons_append, List.cons_append, List.singleton_append,
      readPiece_four (by omega) (by omega), Char.ofNat_toNat]
    rfl

/-! ## Texts -/

theorem piecesAfter_append (skipped rest : List UInt8) :
    piecesAfter skipped.length (skipped ++ rest) = pieces rest := by
  induction skipped with
  | nil => rfl
  | cons b more induction => exact induction

/-- A text is read as one piece for each of its characters. -/
theorem pieces_encode (text : Text) :
    pieces (encode text) = text.map fun c => ⟨.ok c, (encodeChar c).length⟩ := by
  induction text with
  | nil => rfl
  | cons c rest induction =>
      obtain ⟨first, tail, written, read⟩ := readPiece_encodeChar c
      have bytes : encode (c :: rest) = first :: (tail ++ encode rest) := by
        rw [encode, List.flatMap_cons, written]
        rfl
      rw [bytes, pieces, piecesAfter, read]
      simp only [Nat.add_sub_cancel, piecesAfter_append, induction, List.map_cons, written,
        List.length_cons]

theorem decodeLenient_encode (text : Text) : decodeLenient (encode text) = text := by
  rw [decodeLenient, pieces_encode, List.map_map]
  exact List.map_id text

/-- A text is read back from its bytes by a reader that stops at defects, too. -/
theorem decode_encode (text : Text) : decode (encode text) = .ok text := by
  have read : ∀ position, decodePieces position (encode text)
      (text.map fun c => ⟨.ok c, (encodeChar c).length⟩) = .ok text := by
    induction text with
    | nil => exact fun _ => rfl
    | cons c rest induction =>
        intro position
        have behind : (encode (c :: rest)).drop (encodeChar c).length = encode rest := by
          rw [encode, List.flatMap_cons, List.drop_left]
          rfl
        simp only [List.map_cons, decodePieces, behind, induction]
        rfl
  rw [decode, pieces_encode, read]

end OutlineSearch.Utf8

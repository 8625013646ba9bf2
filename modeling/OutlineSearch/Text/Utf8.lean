import OutlineSearch.Text.Basic

/-!
# UTF-8

Writing text as bytes, and reading bytes as text.  A reader meets a defect where the
bytes form no character; it covers the longest beginning of a well-formed sequence, or
one byte where there is none.  A lenient reader puts U+FFFD in the place of each defect,
a strict one stops at the first.
-/

namespace OutlineSearch.Utf8

/-- Why bytes form no character. -/
inductive Flaw where
  /-- No sequence begins with this byte. -/
  | badStart
  /-- The sequence is broken off by a byte that cannot continue it. -/
  | badContinuation
  /-- The input ends inside the sequence. -/
  | truncated
deriving Repr, DecidableEq

/-- What the next bytes hold: a character or a flaw, and the number of bytes it covers. -/
structure Piece where
  /-- The character, or why there is none. -/
  content : Except Flaw Char
  /-- How many bytes belong to it. -/
  width : Nat

def isContinuation (b : UInt8) : Bool := 0x80 ≤ b && b < 0xC0

/-- The six bits that a continuation byte adds to a code. -/
def push (code : Nat) (b : UInt8) : Nat := code * 64 + (b.toNat - 0x80)

/-- The second byte of a sequence is bounded more narrowly after some first bytes: no
overlong forms, no surrogates, nothing above U+10FFFF. -/
def isSecond (first second : UInt8) : Bool :=
  isContinuation second
    && (first != 0xE0 || 0xA0 ≤ second) && (first != 0xED || second < 0xA0)
    && (first != 0xF0 || 0x90 ≤ second) && (first != 0xF4 || second < 0x90)

/-- Reads on after `width` good bytes of a sequence that still needs `missing` bytes. -/
def readTail (code width : Nat) : Nat → List UInt8 → Piece
  | 0, _ => ⟨.ok (Char.ofNat code), width⟩
  | _ + 1, [] => ⟨.error .truncated, width⟩
  | missing + 1, b :: rest =>
    if isContinuation b then readTail (push code b) (width + 1) missing rest
    else ⟨.error .badContinuation, width⟩

/-- Reads a sequence of `size` bytes whose first byte contributes `code`. -/
def readSequence (first : UInt8) (code size : Nat) : List UInt8 → Piece
  | [] => ⟨.error .truncated, 1⟩
  | second :: rest =>
    if isSecond first second then readTail (push code second) 2 (size - 2) rest
    else ⟨.error .badContinuation, 1⟩

/-- What the bytes `first :: rest` begin with. -/
def readPiece (first : UInt8) (rest : List UInt8) : Piece :=
  if first < 0x80 then ⟨.ok (Char.ofNat first.toNat), 1⟩
  else if first < 0xC2 then ⟨.error .badStart, 1⟩
  else if first < 0xE0 then readSequence first (first.toNat - 0xC0) 2 rest
  else if first < 0xF0 then readSequence first (first.toNat - 0xE0) 3 rest
  else if first < 0xF5 then readSequence first (first.toNat - 0xF0) 4 rest
  else ⟨.error .badStart, 1⟩

/-- The pieces of `bytes` after the first `skip` bytes. -/
def piecesAfter : Nat → List UInt8 → List Piece
  | _, [] => []
  | skip + 1, _ :: rest => piecesAfter skip rest
  | 0, b :: rest =>
    let piece := readPiece b rest
    piece :: piecesAfter (piece.width - 1) rest

def pieces (bytes : List UInt8) : List Piece := piecesAfter 0 bytes

/-- The character that stands for a defect. -/
def replacement : Char := Char.ofNat 0xFFFD

/-- Reads bytes as text and puts U+FFFD in the place of each defect. -/
def decodeLenient (bytes : List UInt8) : Text :=
  (pieces bytes).map fun piece => piece.content.toOption.getD replacement

/-- Where bytes stop being UTF-8. -/
structure Defect where
  /-- Why no character is found there. -/
  flaw : Flaw
  /-- Offset of the first byte concerned. -/
  position : Nat
  /-- The number of bytes concerned. -/
  width : Nat
  /-- The first byte concerned. -/
  byte : UInt8
deriving Repr, DecidableEq

/-- Reads pieces as text from byte offset `position` on; `bytes` are those not yet read. -/
def decodePieces (position : Nat) (bytes : List UInt8) : List Piece → Except Defect Text
  | [] => .ok []
  | piece :: rest =>
    match piece.content with
    | .ok c => (c :: ·) <$> decodePieces (position + piece.width) (bytes.drop piece.width) rest
    | .error flaw => .error ⟨flaw, position, piece.width, bytes.headD 0⟩

/-- Reads bytes as text and stops at the first defect. -/
def decode (bytes : List UInt8) : Except Defect Text :=
  decodePieces 0 bytes (pieces bytes)

def Flaw.message : Flaw → String
  | .badStart => "invalid start byte"
  | .badContinuation => "invalid continuation byte"
  | .truncated => "unexpected end of data"

def Defect.message (d : Defect) : String :=
  let why := d.flaw.message
  let first := d.position
  if d.width ≤ 1 then
    let digits := String.ofList (Nat.toDigits 16 d.byte.toNat)
    s!"'utf-8' codec can't decode byte 0x{digits} in position {first}: {why}"
  else
    let last := d.position + d.width - 1
    s!"'utf-8' codec can't decode bytes in position {first}-{last}: {why}"

/-- A byte that carries the six lowest bits of a code. -/
def continuation (code : Nat) : UInt8 := UInt8.ofNat (0x80 + code % 64)

def encodeChar (c : Char) : List UInt8 :=
  let code := c.toNat
  if code < 0x80 then [UInt8.ofNat code]
  else if code < 0x800 then [UInt8.ofNat (0xC0 + code / 64), continuation code]
  else if code < 0x10000 then
    [UInt8.ofNat (0xE0 + code / 4096), continuation (code / 64), continuation code]
  else
    [UInt8.ofNat (0xF0 + code / 262144), continuation (code / 4096),
      continuation (code / 64), continuation code]

def encode (text : Text) : List UInt8 := text.flatMap encodeChar

end OutlineSearch.Utf8

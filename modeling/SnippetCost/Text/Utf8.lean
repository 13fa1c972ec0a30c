import SnippetCost.Text.Quoted

/-!
# UTF-8

`encode` writes characters as bytes.  `decode` reads bytes as a list of *pieces*: characters, and
maximal bad sequences.  A bad sequence is the longest run of bytes that could still have begun a
character, so each stands for exactly one mistake.  What to do with bad sequences is a choice of
three: refuse the text at the first (`decodeStrict`), show a replacement character for each
(`decodeReplacing`), or keep each of their bytes as a lone surrogate (`decodeEscaping`).
-/

namespace SnippetCost.Text

/-! ## Writing -/

/-- The bytes of one character. -/
def encodeChar (c : Char) : List UInt8 :=
  let n := c.toNat
  if n < 0x80 then [UInt8.ofNat n]
  else if n < 0x800 then [UInt8.ofNat (0xC0 + n / 64), UInt8.ofNat (0x80 + n % 64)]
  else if n < 0x10000 then
    [UInt8.ofNat (0xE0 + n / 4096), UInt8.ofNat (0x80 + n / 64 % 64), UInt8.ofNat (0x80 + n % 64)]
  else
    [UInt8.ofNat (0xF0 + n / 262144), UInt8.ofNat (0x80 + n / 4096 % 64),
     UInt8.ofNat (0x80 + n / 64 % 64), UInt8.ofNat (0x80 + n % 64)]

/-- The bytes of a text. -/
def encode (cs : List Char) : List UInt8 :=
  cs.flatMap encodeChar

/-! ## Reading -/

/-- What is wrong with a bad sequence. -/
inductive Malformation where
  /-- No character begins with this byte. -/
  | startByte
  /-- The byte behind the sequence does not continue it. -/
  | continuationByte
  /-- The text ends inside a character. -/
  | endOfData
  deriving DecidableEq, Repr

/-- How a malformation is put into words. -/
def Malformation.reason : Malformation → String
  | .startByte => "invalid start byte"
  | .continuationByte => "invalid continuation byte"
  | .endOfData => "unexpected end of data"

/-- A piece of a text in bytes. -/
inductive Piece where
  | char (c : Char)
  | bad (bytes : List UInt8) (malformation : Malformation)
  deriving DecidableEq, Repr

/-- Where the reader stands: between characters; or inside one, with its bits so far, the number of
bytes owed, the bounds of the next one, and the bytes read, last one first. -/
inductive DecodeState where
  | between
  | within (bits owed least greatest : Nat) (read : List UInt8)
  deriving DecidableEq, Repr

/-- The state after the first byte of a character, and the piece that is complete with it.  The bounds
of the second byte leave out overlong forms, surrogates and numbers beyond the last code point. -/
def leadByte (b : UInt8) : List Piece × DecodeState :=
  let n := b.toNat
  if n < 0x80 then ([.char (Char.ofNat n)], .between)
  else if n < 0xC2 then ([.bad [b] .startByte], .between)
  else if n < 0xE0 then ([], .within (n - 0xC0) 1 0x80 0xBF [b])
  else if n < 0xF0 then
    ([], .within (n - 0xE0) 2 (if n = 0xE0 then 0xA0 else 0x80) (if n = 0xED then 0x9F else 0xBF) [b])
  else if n < 0xF5 then
    ([], .within (n - 0xF0) 3 (if n = 0xF0 then 0x90 else 0x80) (if n = 0xF4 then 0x8F else 0xBF) [b])
  else ([.bad [b] .startByte], .between)

/-- One byte: the pieces it completes and the state behind it.  A byte that does not continue the
character being read ends it as a bad sequence and is then read afresh. -/
def decodeStep : DecodeState → UInt8 → List Piece × DecodeState
  | .between, b => leadByte b
  | .within bits owed least greatest read, b =>
    if least ≤ b.toNat ∧ b.toNat ≤ greatest then
      let bits := bits * 64 + b.toNat % 64
      if owed = 1 then ([.char (Char.ofNat bits)], .between)
      else ([], .within bits (owed - 1) 0x80 0xBF (b :: read))
    else
      let (pieces, state) := leadByte b
      (.bad read.reverse .continuationByte :: pieces, state)

/-- The pieces of the bytes that follow a state. -/
def decodeFrom : DecodeState → List UInt8 → List Piece
  | .between, [] => []
  | .within _ _ _ _ read, [] => [.bad read.reverse .endOfData]
  | state, b :: bs =>
    let (pieces, next) := decodeStep state b
    pieces ++ decodeFrom next bs

/-- The pieces of a text in bytes. -/
def decode (bytes : List UInt8) : List Piece :=
  decodeFrom .between bytes

/-! ## Three ways with bad sequences -/

/-- The first bad sequence of a text, and how many bytes stand before it. -/
structure DecodeError where
  position : Nat
  bytes : List UInt8
  malformation : Malformation
  deriving DecidableEq, Repr

/-- The message about a text that is not valid. -/
def DecodeError.message (e : DecodeError) : String :=
  match e.bytes with
  | [b] =>
    "'utf-8' codec can't decode byte 0x" ++ String.ofList (hexDigits 2 b.toNat) ++ " in position " ++
      toString e.position ++ ": " ++ e.malformation.reason
  | bytes =>
    "'utf-8' codec can't decode bytes in position " ++ toString e.position ++ "-" ++
      toString (e.position + bytes.length - 1) ++ ": " ++ e.malformation.reason

/-- The characters of pieces none of which is bad; `position` bytes stand before them. -/
def charsOfPieces (position : Nat) : List Piece → Except DecodeError (List Char)
  | [] => .ok []
  | .bad bytes malformation :: _ => .error ⟨position, bytes, malformation⟩
  | .char c :: pieces =>
    (charsOfPieces (position + (encodeChar c).length) pieces).map (c :: ·)

/-- Refuses a text with a bad sequence. -/
def decodeStrict (bytes : List UInt8) : Except DecodeError (List Char) :=
  charsOfPieces 0 (decode bytes)

/-- Each bad sequence becomes one replacement character. -/
def decodeReplacing (bytes : List UInt8) : List Char :=
  (decode bytes).map fun
    | .char c => c
    | .bad _ _ => '\uFFFD'

/-- A code point: a character, or one of the 2048 surrogates, counted from the first. -/
inductive CodePoint where
  | scalar (c : Char)
  | surrogate (offset : Fin 2048)
  deriving DecidableEq, Repr

/-- The code point with a number; numbers beyond the last code point give the replacement character. -/
def CodePoint.ofNat (n : Nat) : CodePoint :=
  if h : 0xD800 ≤ n ∧ n < 0xE000 then .surrogate ⟨n - 0xD800, by omega⟩
  else if n < 0x110000 then .scalar (Char.ofNat n)
  else .scalar '\uFFFD'

/-- The lone surrogate that keeps a byte: the byte's number above the first trailing surrogate. -/
def CodePoint.ofByte (b : UInt8) : CodePoint :=
  .surrogate ⟨0x400 + b.toNat, by have := b.toNat_lt; omega⟩

/-- Each byte of a bad sequence becomes one lone surrogate. -/
def decodeEscaping (bytes : List UInt8) : List CodePoint :=
  (decode bytes).flatMap fun
    | .char c => [.scalar c]
    | .bad bytes _ => bytes.map CodePoint.ofByte

end SnippetCost.Text

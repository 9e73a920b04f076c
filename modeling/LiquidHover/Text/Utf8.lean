/-
**UTF-8.** Bytes are read from left to right, one sequence at a time. A sequence that breaks off is
given up where it breaks off, so what is refused is as long as it could have been valid and no
longer.

* `decodePieces` — the characters of a row of bytes, with `none` for every broken sequence.
* `decode?` — the text of bytes that are valid throughout.
* `decodeLossy` — the text with U+FFFD for every broken sequence.
* `dropMark` — a text without the byte order mark in front of it.
-/
import LiquidHover.Text.Hex

namespace LiquidHover.Text

/-- How a sequence goes on after its first byte: the bits of the first byte, the bounds of the second
byte, and the number of bytes to come. -/
structure Lead where
  bits : Nat
  low : Nat
  high : Nat
  following : Nat

/-- What a first byte announces. -/
def leadOf? (byte : UInt8) : Option Lead :=
  let code := byte.toNat
  if code < 0x80 then some ⟨code, 0x80, 0xBF, 0⟩
  else if code < 0xC2 then none
  else if code < 0xE0 then some ⟨code - 0xC0, 0x80, 0xBF, 1⟩
  else if code = 0xE0 then some ⟨0, 0xA0, 0xBF, 2⟩
  else if code = 0xED then some ⟨13, 0x80, 0x9F, 2⟩
  else if code < 0xF0 then some ⟨code - 0xE0, 0x80, 0xBF, 2⟩
  else if code = 0xF0 then some ⟨0, 0x90, 0xBF, 3⟩
  else if code < 0xF4 then some ⟨code - 0xF0, 0x80, 0xBF, 3⟩
  else if code = 0xF4 then some ⟨4, 0x80, 0x8F, 3⟩
  else none

/-- The code point of a sequence and the bytes after it, or none and the bytes from where it breaks
off. -/
def decodeRest (bits low high : Nat) : (following : Nat) → List UInt8 → Option Nat × List UInt8
  | 0, rest => (some bits, rest)
  | _ + 1, [] => (none, [])
  | following + 1, byte :: rest =>
    if low ≤ byte.toNat ∧ byte.toNat ≤ high then
      decodeRest (bits * 64 + byte.toNat % 64) 0x80 0xBF following rest
    else (none, byte :: rest)

theorem length_decodeRest (bits low high following : Nat) (bytes : List UInt8) :
    (decodeRest bits low high following bytes).2.length ≤ bytes.length := by
  fun_induction decodeRest bits low high following bytes <;> simp_all
  omega

/-- The first sequence of a row of bytes and the bytes after it. -/
def decodeFirst (byte : UInt8) (rest : List UInt8) : Option Char × List UInt8 :=
  match leadOf? byte with
  | none => (none, rest)
  | some lead =>
    let (code, after) := decodeRest lead.bits lead.low lead.high lead.following rest
    (code.bind charOf?, after)

theorem length_decodeFirst (byte : UInt8) (rest : List UInt8) :
    (decodeFirst byte rest).2.length ≤ rest.length := by
  unfold decodeFirst
  split
  · exact Nat.le_refl _
  · exact length_decodeRest ..

/-- The characters of a row of bytes, with `none` for every broken sequence. -/
def decodePieces (bytes : List UInt8) : List (Option Char) :=
  match bytes with
  | [] => []
  | byte :: rest => (decodeFirst byte rest).1 :: decodePieces (decodeFirst byte rest).2
termination_by bytes.length
decreasing_by
  have shorter := length_decodeFirst byte rest
  simp only [List.length_cons]
  omega

/-- The text of bytes that are valid throughout. -/
def decode? (bytes : List UInt8) : Option (List Char) := (decodePieces bytes).mapM id

/-- The text of bytes, with U+FFFD for every broken sequence. -/
def decodeLossy (bytes : List UInt8) : List Char :=
  (decodePieces bytes).map (·.getD '\uFFFD')

/-- A text without the byte order mark in front of it. A second mark stays. -/
def dropMark : List Char → List Char
  | '\uFEFF' :: text => text
  | text => text

/-- The bytes of a text. -/
def encode (text : List Char) : List UInt8 := (String.ofList text).toUTF8.toList

end LiquidHover.Text

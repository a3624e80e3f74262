/-!
# Text in bytes

Bytes that may not be UTF-8, read with a replacement character for every longest piece that begins a
character and does not finish it, and for every byte that begins none.
-/

namespace ApiContract.Text

/-- The character that stands for malformed bytes. -/
def replacement : Char := '\ufffd'

/-- How many bytes follow a first byte, and the range of the second one. -/
def utf8Lead? (b : Nat) : Option (Nat × Nat × Nat) :=
  if 0xC2 ≤ b ∧ b ≤ 0xDF then some (1, 0x80, 0xBF)
  else if b = 0xE0 then some (2, 0xA0, 0xBF)
  else if b = 0xED then some (2, 0x80, 0x9F)
  else if 0xE1 ≤ b ∧ b ≤ 0xEF then some (2, 0x80, 0xBF)
  else if b = 0xF0 then some (3, 0x90, 0xBF)
  else if b = 0xF4 then some (3, 0x80, 0x8F)
  else if 0xF1 ≤ b ∧ b ≤ 0xF3 then some (3, 0x80, 0xBF)
  else none

/-- The bits that a first byte gives to its character. -/
def utf8LeadBits (count b : Nat) : Nat :=
  if count = 1 then b - 0xC0 else if count = 2 then b - 0xE0 else b - 0xF0

/-- Reads bytes; `pending` holds how many bytes a character still needs, the range of the next one
and the bits so far. -/
def decodeLossyAux : (pending : Option (Nat × Nat × Nat × Nat)) → List Nat → List Char
  | none, [] => []
  | some _, [] => [replacement]
  | none, b :: bs => decodeFirst b bs
  | some (need, low, high, bits), b :: bs =>
    if low ≤ b ∧ b ≤ high then
      let bits := bits * 64 + (b - 0x80)
      if need ≤ 1 then Char.ofNat bits :: decodeLossyAux none bs
      else decodeLossyAux (some (need - 1, 0x80, 0xBF, bits)) bs
    else replacement :: decodeFirst b bs
where
  /-- Reads a byte that begins a character, and those behind it. -/
  decodeFirst (b : Nat) (bs : List Nat) : List Char :=
    if b < 0x80 then Char.ofNat b :: decodeLossyAux none bs
    else
      match utf8Lead? b with
      | some (count, low, high) =>
        decodeLossyAux (some (count, low, high, utf8LeadBits count b)) bs
      | none => replacement :: decodeLossyAux none bs

/-- The text of bytes, malformed ones replaced. -/
def decodeLossy (bytes : ByteArray) : String :=
  match String.fromUTF8? bytes with
  | some s => s
  | none => String.ofList (decodeLossyAux none (bytes.data.toList.map UInt8.toNat))

end ApiContract.Text

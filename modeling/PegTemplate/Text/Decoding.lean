/-!
# Bytes as text

* `DecodeFault` : which bytes are no text, and why;
* `decode` : the characters that bytes in UTF-8 encode.

A fault names the first bytes that no character starts with. They end before the byte that is wrong.
-/

namespace PegTemplate

/-- Why bytes are no text. -/
inductive DecodeFault.Cause where
  | start
  | continuation
  | ending
  deriving DecidableEq, Inhabited

/-- Bytes that are no text. -/
structure DecodeFault where
  cause : DecodeFault.Cause
  position : Nat
  /-- How many bytes there are. -/
  length : Nat
  /-- The first of them. -/
  byte : Nat
  deriving DecidableEq, Inhabited

/-- The wording of a cause. -/
def DecodeFault.Cause.message : DecodeFault.Cause → String
  | start => "invalid start byte"
  | continuation => "invalid continuation byte"
  | ending => "unexpected end of data"

/-- Two hexadecimal digits. -/
def byteDigits (b : Nat) : String :=
  String.ofList [Nat.digitChar (b / 16), Nat.digitChar (b % 16)]

/-- The report of bytes that are no text. -/
def DecodeFault.message (f : DecodeFault) : String :=
  let bytes :=
    if f.length = 1 then "byte 0x" ++ byteDigits f.byte ++ " in position " ++ toString f.position
    else "bytes in position " ++ toString f.position ++ "-" ++ toString (f.position + f.length - 1)
  "'utf-8' codec can't decode " ++ bytes ++ ": " ++ f.cause.message

/-- How many bytes follow a first byte, the least and the greatest that the next one may be, and the bits
that the first one gives. -/
def leadOf? (b : Nat) : Option (Nat × Nat × Nat × Nat) :=
  if b < 0x80 then some (0, 0, 0, b)
  else if 0xC2 ≤ b ∧ b < 0xE0 then some (1, 0x80, 0xBF, b - 0xC0)
  else if 0xE0 ≤ b ∧ b < 0xF0 then
    some (2, if b = 0xE0 then 0xA0 else 0x80, if b = 0xED then 0x9F else 0xBF, b - 0xE0)
  else if 0xF0 ≤ b ∧ b < 0xF5 then
    some (3, if b = 0xF0 then 0x90 else 0x80, if b = 0xF4 then 0x8F else 0xBF, b - 0xF0)
  else none

/-- Reads bytes at `position`. `need` more bytes belong to a character whose bytes so far, the first of
which is `first`, are `taken` in number and give `acc`; the next one lies between `low` and `high`. -/
def decodeFrom : (position need low high acc taken first : Nat) → List UInt8 → Except DecodeFault (List Char)
  | _, 0, _, _, _, _, _, [] => .ok []
  | position, _ + 1, _, _, _, taken, first, [] => .error ⟨.ending, position - taken, taken, first⟩
  | position, 0, _, _, _, _, _, b :: bs =>
    match leadOf? b.toNat with
    | none => .error ⟨.start, position, 1, b.toNat⟩
    | some (0, _, _, bits) =>
      (decodeFrom (position + 1) 0 0 0 0 0 0 bs).map (Char.ofNat bits :: ·)
    | some (n + 1, low, high, bits) => decodeFrom (position + 1) (n + 1) low high bits 1 b.toNat bs
  | position, need + 1, low, high, acc, taken, first, b :: bs =>
    if low ≤ b.toNat ∧ b.toNat ≤ high then
      let acc := acc * 64 + (b.toNat - 0x80)
      if need = 0 then (decodeFrom (position + 1) 0 0 0 0 0 0 bs).map (Char.ofNat acc :: ·)
      else decodeFrom (position + 1) need 0x80 0xBF acc (taken + 1) first bs
    else .error ⟨.continuation, position - taken, taken, first⟩

/-- The characters that bytes encode. -/
def decode (bytes : List UInt8) : Except DecodeFault (List Char) := decodeFrom 0 0 0 0 0 0 0 bytes

end PegTemplate

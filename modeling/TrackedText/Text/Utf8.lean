import TrackedText.Text

namespace TrackedText.Utf8

def encode (t : Text) : List UInt8 := t.flatMap String.utf8EncodeChar

/-- Where decoding stopped, and how many bytes of a character were seen there before one that
cannot follow them; no count when the input ended inside a character. -/
structure Fault where
  index : Nat
  count : Option Nat
  deriving DecidableEq, Repr

def Fault.message (f : Fault) : String :=
  match f.count with
  | some n => s!"invalid utf-8 sequence of {n} bytes from index {f.index}"
  | none => s!"incomplete utf-8 byte sequence from index {f.index}"

/-- The shape of a character by its first byte: the bits that byte carries, the bounds of the
second byte, and how many bytes follow that one. The bounds shut out overlong forms, surrogates
and values past the last code point. -/
def lead? (b : Nat) : Option (Nat × Nat × Nat × Nat) :=
  if 0xc2 ≤ b ∧ b ≤ 0xdf then some (b - 0xc0, 0x80, 0xbf, 0)
  else if b = 0xe0 then some (0, 0xa0, 0xbf, 1)
  else if b = 0xed then some (0xd, 0x80, 0x9f, 1)
  else if 0xe1 ≤ b ∧ b ≤ 0xef then some (b - 0xe0, 0x80, 0xbf, 1)
  else if b = 0xf0 then some (0, 0x90, 0xbf, 2)
  else if 0xf1 ≤ b ∧ b ≤ 0xf3 then some (b - 0xf0, 0x80, 0xbf, 2)
  else if b = 0xf4 then some (4, 0x80, 0x8f, 2)
  else none

def follow (value seen : Nat) : List (Nat × Nat) → List UInt8 → Except (Option Nat) (Nat × Nat)
  | [], _ => .ok (value, seen)
  | _ :: _, [] => .error none
  | (lo, hi) :: bounds, b :: bytes =>
    if lo ≤ b.toNat ∧ b.toNat ≤ hi then follow (value * 64 + b.toNat % 64) (seen + 1) bounds bytes
    else .error (some seen)

def front (b : Nat) (bytes : List UInt8) : Except (Option Nat) (Char × Nat) :=
  if b < 0x80 then .ok (Char.ofNat b, 0)
  else match lead? b with
    | none => .error (some 1)
    | some (bits, lo, hi, more) => do
      let (value, seen) ← follow bits 1 ((lo, hi) :: List.replicate more (0x80, 0xbf)) bytes
      return (Char.ofNat value, seen - 1)

/-- Bytes from `index` on; the first `skip` of them belong to a character already read. -/
def decodeFrom (index : Nat) : Nat → List UInt8 → Except Fault Text
  | _, [] => .ok []
  | skip + 1, _ :: bytes => decodeFrom (index + 1) skip bytes
  | 0, b :: bytes =>
    match front b.toNat bytes with
    | .error count => .error ⟨index, count⟩
    | .ok (c, more) => (decodeFrom (index + 1) more bytes).map (c :: ·)

def decode (bytes : List UInt8) : Except Fault Text := decodeFrom 0 0 bytes

end TrackedText.Utf8

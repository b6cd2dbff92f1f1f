/-!
# Texts as bytes

## Main definitions

* `encode` — the bytes of a text.
* `frontUnit` — the character at the front of bytes, or how many bytes there make none.
* `decode?` — the text that bytes stand for.
* `decodeLossy` — the same, with a replacement character for what stands for nothing.
-/

namespace Manifest.Text

/-- The bytes of a list of characters in UTF-8. -/
def encodeChars (cs : List Char) : List UInt8 := (String.ofList cs).toUTF8.toList

/-- The bytes of a text in UTF-8. -/
def encode (s : String) : List UInt8 := s.toUTF8.toList

/-- How many bytes follow a first byte, and the range of the second one. The narrower ranges keep
out overlong forms, surrogates and code points beyond the last one. -/
def leadByte? (b : Nat) : Option (Nat × Nat × Nat) :=
  if 0xC2 ≤ b ∧ b ≤ 0xDF then some (1, 0x80, 0xBF)
  else if b = 0xE0 then some (2, 0xA0, 0xBF)
  else if b = 0xED then some (2, 0x80, 0x9F)
  else if 0xE1 ≤ b ∧ b ≤ 0xEF then some (2, 0x80, 0xBF)
  else if b = 0xF0 then some (3, 0x90, 0xBF)
  else if 0xF1 ≤ b ∧ b ≤ 0xF3 then some (3, 0x80, 0xBF)
  else if b = 0xF4 then some (3, 0x80, 0x8F)
  else none

/-- Reads up to `count` continuation bytes, the first of them from a range, onto the bits `code`.
What is read is the code and how many bytes it took, or that number alone if a byte is wrong. -/
def readContinuation (low high : Nat) : Nat → Nat → List UInt8 → Option Nat × Nat
  | 0, code, _ => (some code, 0)
  | _ + 1, _, [] => (none, 0)
  | count + 1, code, b :: rest =>
    if low ≤ b.toNat ∧ b.toNat ≤ high then
      let r := readContinuation 0x80 0xBF count (code * 64 + b.toNat % 64) rest
      (r.1, r.2 + 1)
    else (none, 0)

/-- The character at the front of bytes, with the number of its bytes. If there is none, the number
is that of the bytes that could begin one, but at least one. -/
def frontUnit (b : UInt8) (rest : List UInt8) : Option Char × Nat :=
  let n := b.toNat
  if n < 0x80 then (some (Char.ofNat n), 1)
  else
    match leadByte? n with
    | none => (none, 1)
    | some (count, low, high) =>
      let lead := if count = 1 then n % 32 else if count = 2 then n % 16 else n % 8
      let r := readContinuation low high count lead rest
      (r.1.map Char.ofNat, r.2 + 1)

/-- The characters of bytes behind the first `skip` of them, where bytes that stand for nothing
give no character. -/
def unitsFrom : Nat → List UInt8 → List (Option Char)
  | _, [] => []
  | skip + 1, _ :: rest => unitsFrom skip rest
  | 0, b :: rest =>
    let u := frontUnit b rest
    u.1 :: unitsFrom (u.2 - 1) rest

/-- The text that bytes stand for, if all of them stand for characters. -/
def decode? (bytes : List UInt8) : Option String :=
  ((unitsFrom 0 bytes).mapM id).map String.ofList

/-- The text that bytes stand for, with the replacement character in place of those that stand for
nothing. -/
def decodeLossy (bytes : List UInt8) : String :=
  String.ofList ((unitsFrom 0 bytes).map fun u => u.getD '\ufffd')

end Manifest.Text

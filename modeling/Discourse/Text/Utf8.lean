/-!
# Bytes of a text

The bytes of UTF-8, and their reading with replacement: where the bytes do not continue a
character, one replacement character stands for the longest run that began one, or for a single
byte that begins none.

* `encode`: the bytes of a text.
* `decode`: the text of some bytes, total.
-/

namespace Discourse.Text

/-- The character that stands for what cannot be read. -/
def replacement : Char := Char.ofNat 0xFFFD

/-- The bytes of one character. -/
def encodeChar (c : Char) : List Nat :=
  let n := c.toNat
  if n < 0x80 then [n]
  else if n < 0x800 then [0xC0 + n / 64, 0x80 + n % 64]
  else if n < 0x10000 then [0xE0 + n / 4096, 0x80 + n / 64 % 64, 0x80 + n % 64]
  else [0xF0 + n / 262144, 0x80 + n / 4096 % 64, 0x80 + n / 64 % 64, 0x80 + n % 64]

/-- The bytes of a text. -/
def encode (cs : List Char) : List Nat := cs.flatMap encodeChar

/-- What a leading byte announces: its share of the code point, how many bytes follow, and the
range of the first of them. -/
def leading? (b : Nat) : Option (Nat × Nat × Nat × Nat) :=
  if 0xC2 ≤ b ∧ b ≤ 0xDF then some (b - 0xC0, 1, 0x80, 0xBF)
  else if b = 0xE0 then some (0, 2, 0xA0, 0xBF)
  else if b = 0xED then some (13, 2, 0x80, 0x9F)
  else if 0xE1 ≤ b ∧ b ≤ 0xEF then some (b - 0xE0, 2, 0x80, 0xBF)
  else if b = 0xF0 then some (0, 3, 0x90, 0xBF)
  else if b = 0xF4 then some (4, 3, 0x80, 0x8F)
  else if 0xF1 ≤ b ∧ b ≤ 0xF3 then some (b - 0xF0, 3, 0x80, 0xBF)
  else none

/-- Where the reading of a character stands: what has been read of it, how many bytes are still
due, and the range of the next one. -/
structure Partial where
  value : Nat
  due : Nat
  low : Nat
  high : Nat

/-- Reads the bytes, `pending` being the character under way. -/
def decodeFrom (pending : Option Partial) : List Nat → List Char
  | [] => if pending.isSome then [replacement] else []
  | b :: bytes =>
    match pending with
    | some p =>
      if p.low ≤ b ∧ b ≤ p.high then
        let value := 64 * p.value + (b - 0x80)
        if p.due ≤ 1 then Char.ofNat value :: decodeFrom none bytes
        else decodeFrom (some ⟨value, p.due - 1, 0x80, 0xBF⟩) bytes
      else if b < 0x80 then replacement :: Char.ofNat b :: decodeFrom none bytes
      else
        match leading? b with
        | some (value, due, low, high) =>
          replacement :: decodeFrom (some ⟨value, due, low, high⟩) bytes
        | none => replacement :: replacement :: decodeFrom none bytes
    | none =>
      if b < 0x80 then Char.ofNat b :: decodeFrom none bytes
      else
        match leading? b with
        | some (value, due, low, high) => decodeFrom (some ⟨value, due, low, high⟩) bytes
        | none => replacement :: decodeFrom none bytes

/-- The text of the bytes. -/
def decode (bytes : List Nat) : List Char := decodeFrom none bytes

end Discourse.Text

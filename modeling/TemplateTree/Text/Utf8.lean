import TemplateTree.Text.Basic

/-!
# Bytes of a text

The encoding of characters in one to four bytes.  Reading is a machine that
takes one byte at a time and yields, for each piece of its input, a character
or the fact that the piece is malformed; a malformed piece ends just before the
first byte that cannot go on.
-/

namespace TemplateTree

abbrev Bytes := List UInt8

namespace Text

def charBytes (c : Char) : Bytes :=
  let n := c.toNat
  if n < 0x80 then [n.toUInt8]
  else if n < 0x800 then [(0xC0 + n / 64).toUInt8, (0x80 + n % 64).toUInt8]
  else if n < 0x10000 then
    [(0xE0 + n / 4096).toUInt8, (0x80 + n / 64 % 64).toUInt8, (0x80 + n % 64).toUInt8]
  else
    [(0xF0 + n / 262144).toUInt8, (0x80 + n / 4096 % 64).toUInt8,
      (0x80 + n / 64 % 64).toUInt8, (0x80 + n % 64).toUInt8]

def toBytes (t : Text) : Bytes :=
  t.flatMap charBytes

/-- What the reader of bytes waits for. -/
inductive ByteState where
  /-- The first byte of a character. -/
  | start
  /-- The next of `left` more bytes, which lies between `low` and `high`. -/
  | more (left code low high : Nat)
  deriving DecidableEq, Repr

/-- What a byte in first position begins. -/
inductive LeadByte where
  | whole (c : Char)
  | opens (state : ByteState)
  | malformed

def leadByte (b : Nat) : LeadByte :=
  if b < 0x80 then .whole (Char.ofNat b)
  else if b < 0xC2 then .malformed
  else if b < 0xE0 then .opens (.more 1 (b - 0xC0) 0x80 0xBF)
  else if b = 0xE0 then .opens (.more 2 0 0xA0 0xBF)
  else if b = 0xED then .opens (.more 2 0xD 0x80 0x9F)
  else if b < 0xF0 then .opens (.more 2 (b - 0xE0) 0x80 0xBF)
  else if b = 0xF0 then .opens (.more 3 0 0x90 0xBF)
  else if b < 0xF4 then .opens (.more 3 (b - 0xF0) 0x80 0xBF)
  else if b = 0xF4 then .opens (.more 3 4 0x80 0x8F)
  else .malformed

/-- The characters that bytes encode, `none` standing for a malformed piece. -/
def scanBytes : ByteState → Bytes → List (Option Char)
  | .start, [] => []
  | .more .., [] => [none]
  | .start, b :: r =>
    match leadByte b.toNat with
    | .whole c => some c :: scanBytes .start r
    | .opens s => scanBytes s r
    | .malformed => none :: scanBytes .start r
  | .more left code low high, b :: r =>
    if low ≤ b.toNat ∧ b.toNat ≤ high then
      let code' := code * 64 + (b.toNat - 0x80)
      if left ≤ 1 then some (Char.ofNat code') :: scanBytes .start r
      else scanBytes (.more (left - 1) code' 0x80 0xBF) r
    else
      none ::
        match leadByte b.toNat with
        | .whole c => some c :: scanBytes .start r
        | .opens s => scanBytes s r
        | .malformed => none :: scanBytes .start r

/-- The text that bytes encode, if no piece is malformed. -/
def ofBytes? (bs : Bytes) : Option Text :=
  (scanBytes .start bs).mapM id

/-- The replacement character, which stands for a malformed piece. -/
def replacement : Char :=
  Char.ofNat 0xFFFD

def ofBytesLossy (bs : Bytes) : Text :=
  (scanBytes .start bs).map fun c => c.getD replacement

end Text

end TemplateTree

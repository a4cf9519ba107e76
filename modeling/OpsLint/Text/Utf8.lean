import OpsLint.Text.Basic

/-!
# UTF-8

Bytes are decoded one at a time. Between characters every byte that can begin one is welcome; within
a character, `Pending` says how many bytes are still to come and between which bounds the next one
has to lie. A byte outside these bounds ends an **ill-formed prefix**: the bytes read so far could
have begun a character and no longer can. The prefix counts as one unreadable place and the byte is
looked at afresh, so that no character after it is lost.

`decode` yields a character or an unreadable place (`none`) for each. `decodeLossy` puts the
replacement character there, and `decode?` refuses the whole.
-/

namespace OpsLint.Utf8

/-- A character of which some bytes have been read. -/
structure Pending where
  /-- The number of bytes still to come. -/
  left : Nat
  /-- The least value of the next byte. -/
  low : Nat
  /-- The greatest value of the next byte. -/
  high : Nat
  /-- The bits read so far. -/
  code : Nat

/-- What has been decoded, last place first, and the character being read. -/
structure State where
  decoded : List (Option Char) := []
  pending : Option Pending := none

/-- Reads a byte between characters. -/
def State.begin (st : State) (b : Nat) : State :=
  let wait (left low high bits : Nat) : State :=
    { st with pending := some { left, low, high, code := bits } }
  if b < 0x80 then { decoded := some (Char.ofNat b) :: st.decoded }
  else if b < 0xc2 then { decoded := none :: st.decoded }
  else if b < 0xe0 then wait 1 0x80 0xbf (b - 0xc0)
  else if b < 0xf0 then
    wait 2 (if b = 0xe0 then 0xa0 else 0x80) (if b = 0xed then 0x9f else 0xbf) (b - 0xe0)
  else if b < 0xf5 then
    wait 3 (if b = 0xf0 then 0x90 else 0x80) (if b = 0xf4 then 0x8f else 0xbf) (b - 0xf0)
  else { decoded := none :: st.decoded }

/-- Reads one byte. -/
def State.read (st : State) (byte : UInt8) : State :=
  let b := byte.toNat
  match st.pending with
  | none => st.begin b
  | some p =>
    if p.low ≤ b && b ≤ p.high then
      let code := p.code * 64 + (b - 0x80)
      if p.left ≤ 1 then { decoded := some (Char.ofNat code) :: st.decoded }
      else { st with pending := some { left := p.left - 1, low := 0x80, high := 0xbf, code } }
    else State.begin { decoded := none :: st.decoded } b

/-- The places of a byte sequence: characters, and `none` for each ill-formed prefix. -/
def decode (bytes : List UInt8) : List (Option Char) :=
  let st := bytes.foldl State.read {}
  (match st.pending with
    | none => st.decoded
    | some _ => none :: st.decoded).reverse

/-- Stands where bytes could not be read. -/
def replacement : Char := Char.ofNat 0xfffd

/-- The text of a byte sequence, with a replacement character for each ill-formed prefix. -/
def decodeLossy (bytes : List UInt8) : Text := (decode bytes).map (·.getD replacement)

/-- The text of a well-formed byte sequence. -/
def decode? (bytes : List UInt8) : Option Text :=
  let places := decode bytes
  if places.all Option.isSome then some (places.filterMap id) else none

/-- A byte sequence without the byte order mark it may begin with. -/
def dropMark : List UInt8 → List UInt8
  | 0xef :: 0xbb :: 0xbf :: bytes => bytes
  | bytes => bytes

end OpsLint.Utf8

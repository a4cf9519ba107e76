import OpsLint.Text.Utf8

/-!
# UTF-8 undone

A text that was written as UTF-8 is read back as it was. The decoder works byte by byte, so the
argument does too: between characters it comes from the bytes of one character back to between
characters, with this character decoded and nothing else changed (`State.foldl_read_encodeChar`).
There are four cases, one for each number of bytes. In the longer ones the bounds for the second
byte matter: they exclude exactly the codes that would have a shorter form and those that are no
characters, and a character has neither.

A text that does not begin with a byte order mark is not shortened by dropping one
(`dropMark_encode`), since no other character has its three bytes.
-/

namespace OpsLint.Utf8

/-- The bytes of a text. -/
def encode (s : Text) : List UInt8 := s.flatMap String.utf8EncodeChar

/-- The character that marks the order of bytes at the start of a text. -/
def mark : Char := Char.ofNat 0xfeff

namespace State

theorem read_ofNat_begin (ds : List (Option Char)) {b : Nat} (hb : b < 256) :
    read { decoded := ds } (UInt8.ofNat b) = begin { decoded := ds } b := by
  show begin { decoded := ds } (UInt8.ofNat b).toNat = _
  rw [UInt8.toNat_ofNat', Nat.mod_eq_of_lt hb]

/-- A byte within the bounds is taken into the character being read. -/
theorem read_ofNat_within (ds : List (Option Char)) {left low high code b : Nat} (hb : b < 256)
    (hlow : low ≤ b) (hhigh : b ≤ high) :
    read { decoded := ds, pending := some { left, low, high, code } } (UInt8.ofNat b)
      = if left ≤ 1 then { decoded := some (Char.ofNat (code * 64 + (b - 0x80))) :: ds }
        else { decoded := ds
               pending := some
                { left := left - 1
                  low := 0x80
                  high := 0xbf
                  code := code * 64 + (b - 0x80) } } := by
  unfold read
  rw [UInt8.toNat_ofNat', Nat.mod_eq_of_lt hb]
  exact if_pos (by simp [hlow, hhigh])

/-! What a byte between characters can begin. -/

theorem begin_one (ds : List (Option Char)) {b : Nat} (hb : b < 0x80) :
    begin { decoded := ds } b = { decoded := some (Char.ofNat b) :: ds } :=
  if_pos hb

theorem begin_two (ds : List (Option Char)) {b : Nat} (hlow : 0xc2 ≤ b) (hhigh : b < 0xe0) :
    begin { decoded := ds } b
      = { decoded := ds
          pending := some { left := 1, low := 0x80, high := 0xbf, code := b - 0xc0 } } := by
  unfold begin
  rw [if_neg (by omega), if_neg (by omega), if_pos hhigh]

theorem begin_three (ds : List (Option Char)) {b : Nat} (hlow : 0xe0 ≤ b) (hhigh : b < 0xf0) :
    begin { decoded := ds } b
      = { decoded := ds
          pending := some
            { left := 2
              low := if b = 0xe0 then 0xa0 else 0x80
              high := if b = 0xed then 0x9f else 0xbf
              code := b - 0xe0 } } := by
  unfold begin
  rw [if_neg (by omega), if_neg (by omega), if_neg (by omega), if_pos hhigh]

theorem begin_four (ds : List (Option Char)) {b : Nat} (hlow : 0xf0 ≤ b) (hhigh : b < 0xf5) :
    begin { decoded := ds } b
      = { decoded := ds
          pending := some
            { left := 3
              low := if b = 0xf0 then 0x90 else 0x80
              high := if b = 0xf4 then 0x8f else 0xbf
              code := b - 0xf0 } } := by
  unfold begin
  rw [if_neg (by omega), if_neg (by omega), if_neg (by omega), if_neg (by omega), if_pos hhigh]

/-- **The bytes of a character are read as this character.** -/
theorem foldl_read_encodeChar (ds : List (Option Char)) (c : Char) :
    (String.utf8EncodeChar c).foldl read { decoded := ds } = { decoded := some c :: ds } := by
  have hvalid : c.toNat < 0xd800 ∨ 0xdfff < c.toNat ∧ c.toNat < 0x110000 := c.valid
  have hdone : ∀ {n : Nat}, n = c.toNat →
      ({ decoded := some (Char.ofNat n) :: ds } : State) = { decoded := some c :: ds } := by
    rintro n rfl
    rw [Char.ofNat_toNat]
  unfold String.utf8EncodeChar
  generalize hn : c.val.toNat = n
  replace hn : c.toNat = n := hn
  rw [hn] at hvalid hdone
  dsimp only
  -- one case for each number of bytes; the code is put together from its digits to base 64
  split
  · rw [List.foldl_cons, List.foldl_nil, read_ofNat_begin ds (by omega), begin_one ds (by omega)]
    exact hdone rfl
  · split
    · rw [List.foldl_cons, List.foldl_cons, List.foldl_nil, read_ofNat_begin ds (by omega),
        begin_two ds (by omega) (by omega), read_ofNat_within ds (by omega) (by omega) (by omega)]
      exact hdone (by omega)
    · split
      · rw [List.foldl_cons, List.foldl_cons, List.foldl_cons, List.foldl_nil,
          read_ofNat_begin ds (by omega), begin_three ds (by omega) (by omega),
          read_ofNat_within ds (by omega) (by split <;> omega) (by split <;> omega),
          if_neg (by omega), read_ofNat_within ds (by omega) (by omega) (by omega)]
        exact hdone (by omega)
      · rw [List.foldl_cons, List.foldl_cons, List.foldl_cons, List.foldl_cons, List.foldl_nil,
          read_ofNat_begin ds (by omega), begin_four ds (by omega) (by omega),
          read_ofNat_within ds (by omega) (by split <;> omega) (by split <;> omega),
          if_neg (by omega), read_ofNat_within ds (by omega) (by omega) (by omega),
          if_neg (by omega), read_ofNat_within ds (by omega) (by omega) (by omega)]
        exact hdone (by omega)

theorem foldl_read_encode (ds : List (Option Char)) (s : Text) :
    (encode s).foldl read { decoded := ds } = { decoded := (s.map some).reverse ++ ds } := by
  induction s generalizing ds with
  | nil => rfl
  | cons c s ih =>
    show (String.utf8EncodeChar c ++ encode s).foldl read { decoded := ds } = _
    rw [List.foldl_append, foldl_read_encodeChar, ih, List.map_cons, List.reverse_cons,
      List.append_assoc]
    rfl

end State

/-- **Decoding undoes encoding.** -/
theorem decodeLossy_encode (s : Text) : decodeLossy (encode s) = s := by
  unfold decodeLossy decode
  rw [State.foldl_read_encode]
  show ((s.map some).reverse ++ []).reverse.map (Option.getD · replacement) = s
  rw [List.append_nil, List.reverse_reverse, List.map_map]
  exact List.map_id s

/-- Only the byte order mark has its bytes. -/
theorem eq_mark_of_encodeChar {c : Char} {rest bytes : List UInt8}
    (h : String.utf8EncodeChar c ++ rest = 0xef :: 0xbb :: 0xbf :: bytes) : c = mark := by
  have hvalid : c.toNat < 0xd800 ∨ 0xdfff < c.toNat ∧ c.toNat < 0x110000 := c.valid
  have hbyte : ∀ {n m : Nat}, n < 256 → m < 256 → UInt8.ofNat n = UInt8.ofNat m → n = m := by
    intro n m hn hm heq
    have htoNat := congrArg UInt8.toNat heq
    rwa [UInt8.toNat_ofNat', UInt8.toNat_ofNat', Nat.mod_eq_of_lt hn, Nat.mod_eq_of_lt hm] at htoNat
  unfold String.utf8EncodeChar at h
  generalize hn : c.val.toNat = n at h
  replace hn : c.toNat = n := hn
  rw [hn] at hvalid
  dsimp only at h
  split at h
  · have := hbyte (m := 0xef) (by omega) (by omega) (List.cons.inj h).1
    omega
  · split at h
    · have := hbyte (m := 0xef) (by omega) (by omega) (List.cons.inj h).1
      omega
    · split at h
      · -- three bytes determine the code
        obtain ⟨h₁, h⟩ := List.cons.inj h
        obtain ⟨h₂, h⟩ := List.cons.inj h
        have h₁ := hbyte (m := 0xef) (by omega) (by omega) h₁
        have h₂ := hbyte (m := 0xbb) (by omega) (by omega) h₂
        have h₃ := hbyte (m := 0xbf) (by omega) (by omega) (List.cons.inj h).1
        have hmark : c.toNat = 0xfeff := by omega
        rw [← Char.ofNat_toNat c, hmark]
        rfl
      · have := hbyte (m := 0xef) (by omega) (by omega) (List.cons.inj h).1
        omega

theorem dropMark_encode {s : Text} (hs : s.head? ≠ some mark) : dropMark (encode s) = encode s := by
  unfold dropMark
  split
  · rename_i bytes h
    cases s with
    | nil => exact nomatch h
    | cons c s => exact absurd (congrArg some (eq_mark_of_encodeChar h)) hs
  · rfl

end OpsLint.Utf8

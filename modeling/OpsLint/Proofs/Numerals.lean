import Mathlib.Data.List.Basic
import Mathlib.Data.List.TakeWhile
import OpsLint.Proofs.Characters
import OpsLint.Text.Numeral

/-!
# Reading numerals

A numeral is read if and only if it is not empty, is not too long, and all its digits are decimal
ones (`read_eq_ok_iff`). The first two conditions are about the text as a whole. The third is about
its characters one by one, and it is the only one that a text of digits may miss without being long:
a decorated digit is a digit and has no value.

Among ASCII characters there are no decorated digits, and a numeral of these has its usual value
(`read_of_isDigit`). Whatever has been read is short enough to be written again (`lt_of_read`,
`write_of_lt`).
-/

namespace OpsLint

/-! ## Digits -/

namespace Text

theorem isDigitLike_of_ascii {c : Char} (h : c.toNat < 128) : isDigitLike c = c.isDigit :=
  if_pos h

theorem decimalValue?_of_isDigit {c : Char} (h : c.isDigit = true) :
    decimalValue? c = some (c.toNat - '0'.toNat) := by
  have hcode := toNat_of_isDigit h
  exact (if_pos (by omega)).trans (if_pos h)

/-- No ASCII character is a digit without a value. -/
theorem decimalValue?_ne_none_of_ascii {c : Char} (hascii : c.toNat < 128)
    (h : isDigitLike c = true) : decimalValue? c ≠ none := by
  rw [isDigitLike_of_ascii hascii] at h
  rw [decimalValue?_of_isDigit h]
  exact Option.some_ne_none _

/-- A digit is less than ten. -/
theorem decimalValue?_lt {c : Char} {d : Nat} (h : decimalValue? c = some d) : d < 10 := by
  unfold decimalValue? at h
  split at h
  · split at h
    · rename_i hdigit
      have hcode := toNat_of_isDigit hdigit
      have hd : c.toNat - 48 = d := Option.some.inj h
      omega
    · exact nomatch h
  · obtain ⟨r, -, rfl⟩ := Option.map_eq_some_iff.1 h
    exact Nat.mod_lt _ (by decide)

end Text

namespace Numeral

/-! ## What can be read -/

/-- A character without a value ends the digits early. -/
theorem length_takeWhile_lt {s : Text} (h : ∃ c ∈ s, Text.decimalValue? c = none) :
    ((s.map Text.decimalValue?).takeWhile Option.isSome).length < s.length := by
  have hle := (List.takeWhile_prefix (l := s.map Text.decimalValue?) Option.isSome).length_le
  rw [List.length_map] at hle
  refine Nat.lt_of_le_of_ne hle (fun heq => ?_)
  have hall := (List.takeWhile_prefix (l := s.map Text.decimalValue?) Option.isSome).eq_of_length
    (heq.trans (List.length_map _).symm)
  obtain ⟨c, hc, hnone⟩ := h
  have hsome := List.takeWhile_eq_self_iff.1 hall _ (List.mem_map_of_mem hc)
  rw [hnone] at hsome
  exact Bool.false_ne_true hsome

theorem read_of_decorated {s : Text} (h : ∃ c ∈ s, Text.decimalValue? c = none) :
    ∃ e, read s = .error e := by
  unfold read
  dsimp only
  split
  · exact ⟨_, rfl⟩
  · rw [if_pos (by rw [decide_eq_true (length_takeWhile_lt h), Bool.true_or])]
    exact ⟨_, rfl⟩

theorem read_of_decimal {s : Text} (h : ∀ c ∈ s, Text.decimalValue? c ≠ none) :
    read s = if digitLimit < s.length then .error (.tooLongToRead s.length)
      else if s.isEmpty then .error (.malformed s)
      else .ok (ofDigits (s.filterMap Text.decimalValue?)) := by
  have hall : (s.map Text.decimalValue?).takeWhile Option.isSome = s.map Text.decimalValue? := by
    rw [List.takeWhile_eq_self_iff]
    intro value hvalue
    obtain ⟨c, hc, rfl⟩ := List.mem_map.1 hvalue
    exact Option.isSome_iff_ne_none.2 (h c hc)
  unfold read
  dsimp only
  rw [hall, List.length_map, List.filterMap_map, Function.id_comp,
    decide_eq_false (Nat.lt_irrefl _), Bool.false_or]

/-- **What can be read**: a text that is neither empty nor too long and has decimal digits only. -/
theorem read_eq_ok_iff (s : Text) (n : Nat) :
    read s = .ok n ↔ s ≠ [] ∧ s.length ≤ digitLimit ∧ (∀ c ∈ s, Text.decimalValue? c ≠ none) ∧
      n = ofDigits (s.filterMap Text.decimalValue?) := by
  by_cases hdecimal : ∀ c ∈ s, Text.decimalValue? c ≠ none
  · rw [read_of_decimal hdecimal]
    by_cases hlong : digitLimit < s.length
    · rw [if_pos hlong]
      exact iff_of_false nofun (fun h => absurd h.2.1 (Nat.not_le.2 hlong))
    · rw [if_neg hlong]
      cases s with
      | nil => exact iff_of_false nofun (fun h => h.1 rfl)
      | cons c s =>
        constructor
        · intro h
          exact ⟨List.cons_ne_nil c s, Nat.not_lt.1 hlong, hdecimal, (Except.ok.inj h).symm⟩
        · rintro ⟨-, -, -, rfl⟩
          rfl
  · obtain ⟨e, he⟩ := read_of_decorated (by simpa using hdecimal)
    rw [he]
    exact iff_of_false nofun (fun h => hdecimal h.2.2.1)

/-- **A numeral of ASCII digits has its usual value**. -/
theorem read_of_isDigit {s : Text} (hne : s ≠ []) (hlength : s.length ≤ digitLimit)
    (h : ∀ c ∈ s, c.isDigit = true) : read s = .ok (Nat.ofDigitChars 10 s 0) := by
  have hvalues : s.filterMap Text.decimalValue? = s.map (fun c => c.toNat - '0'.toNat) := by
    rw [← List.filterMap_eq_map]
    exact List.filterMap_congr (fun c hc => Text.decimalValue?_of_isDigit (h c hc))
  refine (read_eq_ok_iff s _).2 ⟨hne, hlength, fun c hc => ?_, ?_⟩
  · rw [Text.decimalValue?_of_isDigit (h c hc)]
    exact Option.some_ne_none _
  · rw [hvalues, ofDigits, List.foldl_map, Nat.ofDigitChars_eq_foldl]

/-! ## What can be written -/

theorem foldl_digits_lt {digits : List Nat} (h : ∀ d ∈ digits, d < 10) (n : Nat) :
    digits.foldl (fun n d => 10 * n + d) n < (n + 1) * Nat.pow 10 digits.length := by
  induction digits generalizing n with
  | nil => exact Nat.lt_of_lt_of_eq (Nat.lt_succ_self n) (Nat.mul_one _).symm
  | cons d digits ih =>
    obtain ⟨hd, hdigits⟩ := List.forall_mem_cons.1 h
    calc (d :: digits).foldl (fun n d => 10 * n + d) n
        < (10 * n + d + 1) * Nat.pow 10 digits.length := ih hdigits (10 * n + d)
      _ ≤ ((n + 1) * 10) * Nat.pow 10 digits.length := Nat.mul_le_mul_right _ (by omega)
      _ = (n + 1) * Nat.pow 10 (d :: digits).length := by
        rw [Nat.mul_assoc, Nat.mul_comm 10, List.length_cons]
        rfl

theorem ofDigits_lt {digits : List Nat} (h : ∀ d ∈ digits, d < 10) {k : Nat}
    (hlength : digits.length ≤ k) : ofDigits digits < Nat.pow 10 k :=
  calc ofDigits digits
      < (0 + 1) * Nat.pow 10 digits.length := foldl_digits_lt h 0
    _ = Nat.pow 10 digits.length := by rw [Nat.zero_add, Nat.one_mul]
    _ ≤ Nat.pow 10 k := Nat.pow_le_pow_right (by decide) hlength

/-- What has been read has no more digits than the limit. -/
theorem lt_of_read {s : Text} {n : Nat} (h : read s = .ok n) : n < Nat.pow 10 digitLimit := by
  obtain ⟨-, hlength, -, rfl⟩ := (read_eq_ok_iff s n).1 h
  have hdigits : ∀ d ∈ s.filterMap Text.decimalValue?, d < 10 := by
    intro d hd
    obtain ⟨c, -, hc⟩ := List.mem_filterMap.1 hd
    exact Text.decimalValue?_lt hc
  exact ofDigits_lt hdigits (Nat.le_trans (List.length_filterMap_le _ s) hlength)

theorem write_of_lt {n : Nat} (h : n < Nat.pow 10 digitLimit) : write n = .ok (Text.ofNat n) :=
  if_pos h

end Numeral

end OpsLint

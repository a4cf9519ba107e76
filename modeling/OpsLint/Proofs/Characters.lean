import Mathlib.Data.List.TakeWhile
import OpsLint.Proofs.Words
import OpsLint.Text.Case
import OpsLint.Text.Identifier

/-!
# Classes of characters

The classes that the readers go by are tests on character codes. Letters and digits lie between the
codes 48 and 122, and no blank does: below them blanks end at the space, and above them they begin
beyond ASCII. So a name ends where a blank begins, and the identifier at the start of an assignment
is the only one that can stand there (`beginsAssignment_iff`).

On ASCII characters, taking small letters is a matter of one character at a time
(`lower_of_ascii`).
-/

namespace OpsLint.Text

/-! ## Codes -/

theorem toNat_of_isDigit {c : Char} (h : c.isDigit = true) : 48 ≤ c.toNat ∧ c.toNat ≤ 57 :=
  Char.isDigit_iff_toNat.1 h

theorem toNat_of_isAlpha {c : Char} (h : c.isAlpha = true) : 65 ≤ c.toNat ∧ c.toNat ≤ 122 := by
  unfold Char.isAlpha Char.isUpper Char.isLower at h
  simp only [Bool.or_eq_true, Bool.and_eq_true, decide_eq_true_eq, ge_iff_le,
    UInt32.le_iff_toNat_le, Char.toNat_val] at h
  change (65 ≤ c.toNat ∧ c.toNat ≤ 90) ∨ (97 ≤ c.toNat ∧ c.toNat ≤ 122) at h
  omega

theorem toNat_of_isAlphanum {c : Char} (h : c.isAlphanum = true) :
    48 ≤ c.toNat ∧ c.toNat ≤ 122 := by
  rw [Char.isAlphanum, Bool.or_eq_true] at h
  obtain h | h := h
  · have hcode := toNat_of_isAlpha h
    omega
  · have hcode := toNat_of_isDigit h
    omega

theorem isDigit_of_isAlpha {c : Char} (h : c.isAlpha = true) : c.isDigit = false := by
  refine eq_false_of_ne_true (fun hdigit => ?_)
  have hletter := toNat_of_isAlpha h
  have hcode := toNat_of_isDigit hdigit
  omega

/-- Nothing between the space and the end of ASCII is blank. -/
theorem isBlank_of_toNat {c : Char} (hlow : 33 ≤ c.toNat) (hhigh : c.toNat < 128) :
    isBlank c = false := by
  simp only [isBlank, Bool.or_eq_false_iff, Bool.and_eq_false_iff, decide_eq_false_iff_not,
    beq_eq_false_iff_ne]
  omega

/-! ## Identifiers -/

theorem isBlank_of_isIdentChar {c : Char} (h : isIdentChar c = true) : isBlank c = false := by
  rw [isIdentChar, Bool.or_eq_true, decide_eq_true_eq] at h
  obtain h | rfl := h
  · have hcode := toNat_of_isAlphanum h
    exact isBlank_of_toNat (by omega) (by omega)
  · rfl

theorem beginsAssignment_cons (c : Char) (s : Text) :
    beginsAssignment (c :: s) = true ↔
      isIdentStart c = true ∧ (trimLeft (s.dropWhile isIdentChar)).head? = some '=' := by
  rw [beginsAssignment, takeIdentifier?]
  by_cases hc : isIdentStart c = true
  · simp [hc]
  · simp [hc]

/-- **An assignment begins with an identifier and an equals sign**, with blanks between them
allowed. -/
theorem beginsAssignment_iff (s : Text) :
    beginsAssignment s = true ↔ ∃ name gap rest, s = name ++ gap ++ '=' :: rest ∧
      isIdentifier name = true ∧ ∀ c ∈ gap, isBlank c = true := by
  constructor
  · intro h
    cases s with
    | nil => exact absurd h Bool.false_ne_true
    | cons c s =>
      obtain ⟨hc, hequals⟩ := (beginsAssignment_cons c s).1 h
      obtain ⟨rest, hrest⟩ := List.head?_eq_some_iff.1 hequals
      refine ⟨c :: s.takeWhile isIdentChar, (s.dropWhile isIdentChar).takeWhile isBlank, rest,
        ?_, ?_, fun d hd => List.mem_takeWhile_imp hd⟩
      · rw [← hrest, trimLeft, List.append_assoc, List.takeWhile_append_dropWhile,
          List.cons_append, List.takeWhile_append_dropWhile]
      · rw [isIdentifier, hc, Bool.true_and, List.all_eq_true]
        exact fun d hd => List.mem_takeWhile_imp hd
  · rintro ⟨name, gap, rest, rfl, hname, hgap⟩
    cases name with
    | nil => exact absurd hname Bool.false_ne_true
    | cons c s =>
      rw [isIdentifier, Bool.and_eq_true, List.all_eq_true] at hname
      -- the identifier ends before the first blank, or before the equals sign
      have hstop : (gap ++ '=' :: rest).dropWhile isIdentChar = gap ++ '=' :: rest := by
        cases gap with
        | nil => exact List.dropWhile_cons_of_neg (by decide)
        | cons d gap =>
          refine List.dropWhile_cons_of_neg (fun hd => ?_)
          have hblank := hgap d List.mem_cons_self
          rw [isBlank_of_isIdentChar hd] at hblank
          exact Bool.false_ne_true hblank
      have hblank : trimLeft gap = [] := (trimLeft_eq_nil_iff gap).2 hgap
      rw [List.append_assoc, List.cons_append, beginsAssignment_cons,
        List.dropWhile_append_of_pos hname.2, hstop, trimLeft_append_of_blank hblank,
        trimLeft_cons_of_not_blank rfl]
      exact ⟨hname.1, rfl⟩

/-! ## Keys -/

theorem isBlank_of_isKeyChar {c : Char} (h : isKeyChar c = true) : isBlank c = false := by
  unfold isKeyChar at h
  simp only [Bool.or_eq_true, decide_eq_true_eq] at h
  rcases h with (h | rfl) | rfl
  · exact isBlank_of_isIdentChar h
  · rfl
  · rfl

theorem isKeyChar_of_isBlank {c : Char} (h : isBlank c = true) : isKeyChar c = false :=
  eq_false_of_ne_true fun hkey => Bool.false_ne_true ((isBlank_of_isKeyChar hkey).symm.trans h)

theorem isKeyChar_of_isIdentStart {c : Char} (h : isIdentStart c = true) : isKeyChar c = true := by
  unfold isIdentStart at h
  unfold isKeyChar isIdentChar Char.isAlphanum
  simp only [Bool.or_eq_true, decide_eq_true_eq] at h ⊢
  exact .inl (.inl (h.imp_left .inl))

/-- All characters of a key are those of keys. -/
theorem forall_isKeyChar {key : Text} (h : isKey key = true) : ∀ c ∈ key, isKeyChar c = true := by
  cases key with
  | nil => exact nofun
  | cons c s =>
    obtain ⟨hc, hs⟩ := Bool.and_eq_true_iff.1 h
    exact List.forall_mem_cons.2 ⟨isKeyChar_of_isIdentStart hc, List.all_eq_true.1 hs⟩

/-- A key ends where another character stands. -/
theorem takeWhile_key_append {key rest : Text} (h : isKey key = true)
    (hrest : ∀ c ∈ rest.head?, isKeyChar c = false) :
    (key ++ rest).takeWhile isKeyChar = key := by
  have hnil : rest.takeWhile isKeyChar = [] := by
    cases rest with
    | nil => rfl
    | cons c s => exact List.takeWhile_cons_of_neg (ne_true_of_eq_false (hrest c rfl))
  rw [List.takeWhile_append_of_pos (forall_isKeyChar h), hnil, List.append_nil]

/-! ## Letter case -/

/-- Only capital letters are changed. -/
theorem isAlpha_of_isLower_toLower {c : Char} (h : c.toLower.isLower = true) :
    c.isAlpha = true := by
  show (c.isUpper || c.isLower) = true
  by_cases hupper : c.val ≥ 'A'.val ∧ c.val ≤ 'Z'.val
  · have hcapital : c.isUpper = true := by
      unfold Char.isUpper
      simpa using hupper
    rw [hcapital, Bool.true_or]
  · have hsame : c.toLower = c := dif_neg hupper
    rw [hsame] at h
    rw [h, Bool.or_true]

theorem lowerAfter_of_ascii {s : Text} (h : ∀ c ∈ s, c.toNat < 128) (before : Text) :
    lowerAfter before s = s.map Char.toLower := by
  induction s generalizing before with
  | nil => rfl
  | cons c s ih =>
    obtain ⟨hc, hs⟩ := List.forall_mem_cons.1 h
    have hsigma : c ≠ 'Σ' := by
      rintro rfl
      exact absurd hc (by decide)
    have hdotted : (c.toNat == 0x130) = false := by
      rw [beq_eq_false_iff_ne]
      omega
    rw [lowerAfter, if_neg hsigma, hdotted, ih hs, smallLetter, if_pos hc]
    rfl

/-- Among ASCII characters, small letters are found one by one. -/
theorem lower_of_ascii {s : Text} (h : ∀ c ∈ s, c.toNat < 128) : lower s = s.map Char.toLower :=
  lowerAfter_of_ascii h []

end OpsLint.Text

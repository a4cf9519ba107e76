import OpsLint.Crontab.Rules
import OpsLint.Proofs.Numerals
import OpsLint.Proofs.Path
import OpsLint.Proofs.Words

/-!
# Answers about schedule fields

The test of a schedule field reads numerals, which can fail, and if it finds a problem it writes
numbers, which can fail as well. It has an answer about every text that is short enough for its
numerals and whose digits all have values (`exists_complaint?`), provided that the bounds of the
field can be written. Every step of the test looks at a part of the field, and a part of a readable
text is readable; and a number that has been read can be written.

Other texts may defeat the test. A text of digits does if it is too long or has a digit without a
value (`exists_error_of_isDigits`).
-/

namespace OpsLint.Crontab

/-! ## Texts whose numerals can be read -/

/-- A text that is short enough for its numerals and has no digits without a value. -/
structure IsReadable (s : Text) : Prop where
  short : s.length ≤ Numeral.digitLimit
  decimal : ∀ c ∈ s, Text.isDigitLike c = true → Text.decimalValue? c ≠ none

theorem IsReadable.sublist {s t : Text} (h : IsReadable s) (ht : t.Sublist s) : IsReadable t where
  short := Nat.le_trans ht.length_le h.short
  decimal := fun c hc => h.decimal c (ht.subset hc)

/-- A text of ASCII characters that is short enough for its numerals. -/
structure IsPlain (s : Text) : Prop where
  short : s.length ≤ Numeral.digitLimit
  ascii : ∀ c ∈ s, c.toNat < 128

instance (s : Text) : Decidable (IsPlain s) :=
  decidable_of_iff (s.length ≤ Numeral.digitLimit ∧ s.all (·.toNat < 128) = true)
    ⟨fun h => ⟨h.1, by simpa using h.2⟩, fun h => ⟨h.short, by simpa using h.ascii⟩⟩

theorem IsPlain.sublist {s t : Text} (h : IsPlain s) (ht : t.Sublist s) : IsPlain t where
  short := Nat.le_trans ht.length_le h.short
  ascii := fun c hc => h.ascii c (ht.subset hc)

theorem IsPlain.isReadable {s : Text} (h : IsPlain s) : IsReadable s where
  short := h.short
  decimal := fun c hc => Text.decimalValue?_ne_none_of_ascii (h.ascii c hc)

/-! ## What the test can say -/

/-- A stop at a problem that can be put in words. -/
inductive FieldStop.IsTold : FieldStop → Prop
  | intro {p : FieldProblem} {message : Text} (h : p.message = .ok message) : IsTold (.problem p)

/-- A step of the test that stops only where it can tell why. -/
def Tells {α : Type} (x : Except FieldStop α) : Prop := ∀ stop, x = .error stop → stop.IsTold

theorem tells_ok {α : Type} (a : α) : Tells (.ok a) := nofun

theorem tells_problem {α : Type} {p : FieldProblem} (message : Text)
    (h : p.message = .ok message) : Tells (.error (.problem p) : Except FieldStop α) := by
  rintro _ ⟨rfl⟩
  exact .intro h

theorem Tells.bind {α β : Type} {x : Except FieldStop α} {f : α → Except FieldStop β} (h : Tells x)
    (hf : ∀ a, x = .ok a → Tells (f a)) : Tells (x >>= f) := by
  cases x with
  | ok a => exact hf a rfl
  | error stop =>
    intro stop' hstop'
    exact h stop' (congrArg Except.error (Except.error.inj hstop'))

theorem tells_forM {α : Type} {f : α → Except FieldStop Unit} {l : List α}
    (h : ∀ x ∈ l, Tells (f x)) : Tells (l.forM f) := by
  induction l with
  | nil => exact tells_ok ()
  | cons x l ih =>
    obtain ⟨hx, hl⟩ := List.forall_mem_cons.1 h
    exact hx.bind (fun _ _ => ih hl)

theorem IsReadable.exists_readNumber {s : Text} (h : IsReadable s)
    (hdigits : Text.isDigits s = true) :
    ∃ n, readNumber s = .ok n ∧ n < Nat.pow 10 Numeral.digitLimit := by
  rw [Text.isDigits, Bool.and_eq_true, List.all_eq_true, Bool.not_eq_true',
    List.isEmpty_eq_false_iff] at hdigits
  have hread := (Numeral.read_eq_ok_iff s _).2
    ⟨hdigits.1, h.short, fun c hc => h.decimal c hc (hdigits.2 c hc), rfl⟩
  refine ⟨_, ?_, Numeral.lt_of_read hread⟩
  rw [readNumber, hread]
  rfl

namespace FieldRange

/-- All numbers that a complaint about a field may have to mention can be written. -/
structure IsWritable (range : FieldRange) : Prop where
  low : range.low < Nat.pow 10 Numeral.digitLimit
  high : range.high < Nat.pow 10 Numeral.digitLimit
  names : ∀ table, range.names = some table → ∀ p ∈ table, p.2 < Nat.pow 10 Numeral.digitLimit

theorem tells_checkStep {step : Text} (h : IsReadable step) : Tells (checkStep step) := by
  unfold checkStep
  by_cases hdigits : Text.isDigits step = true
  · obtain ⟨n, hn, -⟩ := h.exists_readNumber hdigits
    rw [if_pos hdigits, hn]
    show Tells (if n < 1 then _ else _)
    split
    · exact tells_problem _ rfl
    · exact tells_ok ()
  · rw [if_neg hdigits]
    exact tells_problem _ rfl

variable {range : FieldRange} (hrange : range.IsWritable)

include hrange

theorem exists_number? {token : Text} (h : IsReadable token) :
    ∃ found, range.number? token = .ok found ∧
      ∀ n, found = some n → n < Nat.pow 10 Numeral.digitLimit := by
  unfold number?
  by_cases hdigits : Text.isDigits token = true
  · obtain ⟨n, hn, hlt⟩ := h.exists_readNumber hdigits
    rw [if_pos hdigits, hn]
    refine ⟨some n, rfl, fun m hm => ?_⟩
    rw [← Option.some.inj hm]
    exact hlt
  · rw [if_neg hdigits]
    refine ⟨_, rfl, fun n hn => ?_⟩
    obtain ⟨table, htable, hlookup⟩ := Option.bind_eq_some_iff.1 hn
    obtain ⟨before, after, rfl, -⟩ := List.lookup_eq_some_iff.1 hlookup
    exact hrange.names _ htable _ (List.mem_append_right before List.mem_cons_self)

theorem tells_value {token : Text} (h : IsReadable token) : Tells (range.value token) := by
  obtain ⟨found, hfound, hlt⟩ := exists_number? hrange h
  unfold value
  rw [hfound]
  cases found with
  | none => exact tells_problem _ rfl
  | some n =>
    show Tells (if range.low ≤ n ∧ n ≤ range.high then _ else _)
    split
    · exact tells_ok n
    · -- all three numbers of the complaint are short
      refine tells_problem ("value " ++ Text.ofNat n ++ " is outside " ++
        Text.ofNat range.low ++ "-" ++ Text.ofNat range.high) ?_
      rw [FieldProblem.message, Numeral.write_of_lt (hlt n rfl), Numeral.write_of_lt hrange.low,
        Numeral.write_of_lt hrange.high]
      rfl

theorem tells_checkBase {base : Text} (h : IsReadable base) : Tells (range.checkBase base) := by
  unfold checkBase
  split
  · exact tells_ok ()
  · cases hcut : Text.cut? '-' base with
    | none => exact (tells_value hrange h).bind (fun _ _ => tells_ok ())
    | some parts =>
      obtain ⟨hfirst, hlast⟩ := Text.sublist_of_cut? hcut
      refine (tells_value hrange (h.sublist hfirst)).bind (fun m _ => ?_)
      refine (tells_value hrange (h.sublist hlast)).bind (fun n _ => ?_)
      split
      · exact tells_problem _ rfl
      · exact tells_ok ()

theorem tells_checkItem {item : Text} (h : IsReadable item) : Tells (range.checkItem item) := by
  unfold checkItem
  split
  · exact tells_problem _ rfl
  · cases hcut : Text.cut? '/' item with
    | none => exact tells_checkBase hrange h
    | some parts =>
      obtain ⟨hbase, hstep⟩ := Text.sublist_of_cut? hcut
      exact (tells_checkStep (h.sublist hstep)).bind
        (fun _ _ => tells_checkBase hrange (h.sublist hbase))

/-- **There is an answer about every readable text.** -/
theorem exists_complaint? {field : Text} (h : IsReadable field) :
    ∃ answer, range.complaint? field = .ok answer := by
  have htells : Tells (range.check field) := by
    refine tells_forM (fun item hitem => tells_checkItem hrange ?_)
    exact h.sublist (Text.sublist_of_mem_splitOn hitem)
  unfold complaint? problem?
  cases hcheck : range.check field with
  | ok u => exact ⟨none, rfl⟩
  | error stop =>
    cases htells stop hcheck with
    | @intro p message hmessage =>
      refine ⟨some message, ?_⟩
      show (some <$> p.message) = _
      rw [hmessage]
      rfl

omit hrange in
/-- **A text of digits that cannot be read defeats the test**, whatever the field. -/
theorem exists_error_of_isDigits {s : Text} (hdigits : Text.isDigits s = true)
    (h : Numeral.digitLimit < s.length ∨ ∃ c ∈ s, Text.decimalValue? c = none) :
    ∃ e, range.complaint? s = .error e := by
  have hdigit : ∀ c ∈ s, Text.isDigitLike c = true := by
    rw [Text.isDigits, Bool.and_eq_true, List.all_eq_true] at hdigits
    exact hdigits.2
  have hsep : ∀ sep, Text.isDigitLike sep = false → sep ∉ s := by
    intro sep hfalse hmem
    exact Bool.false_ne_true (hfalse.symm.trans (hdigit sep hmem))
  obtain ⟨e, he⟩ : ∃ e, Numeral.read s = .error e := by
    cases hread : Numeral.read s with
    | error e => exact ⟨e, rfl⟩
    | ok n =>
      obtain ⟨-, hlength, hdecimal, -⟩ := (Numeral.read_eq_ok_iff s n).1 hread
      obtain hlong | ⟨c, hc, hnone⟩ := h
      · exact absurd hlength (Nat.not_le.2 hlong)
      · exact absurd hnone (hdecimal c hc)
  -- nothing can be cut off, so that the text is taken for a token as a whole
  have hvalue : range.value s = .error (.numeral e) := by
    rw [value, number?, if_pos hdigits, readNumber, he]
    rfl
  have hne : s ≠ ("*" : Text) := by
    rintro rfl
    exact hsep '*' rfl List.mem_cons_self
  have hempty : ¬ s.isEmpty = true := by
    intro hempty
    rw [List.isEmpty_iff.1 hempty] at hdigits
    exact Bool.false_ne_true hdigits
  have hitem : range.checkItem s = .error (.numeral e) := by
    rw [checkItem, if_neg hempty, (Text.cut?_eq_none_iff '/' s).2 (hsep '/' rfl), checkBase,
      if_neg hne, (Text.cut?_eq_none_iff '-' s).2 (hsep '-' rfl), hvalue]
    rfl
  refine ⟨e, ?_⟩
  rw [complaint?, problem?, check, Text.splitOn_of_not_mem (hsep ',' rfl), List.forM, hitem]
  rfl

end FieldRange

end OpsLint.Crontab

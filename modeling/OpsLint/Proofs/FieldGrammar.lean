import OpsLint.Proofs.Characters
import OpsLint.Proofs.FieldAnswers
import OpsLint.Proofs.LastGiven
import OpsLint.Proofs.Path

/-!
# The grammar of schedule fields

A field is a list of items with commas between them. An item is a base, and may have a step after a
slash. A base is a star, a token, or two tokens with a hyphen between them. A token is a numeral or,
in any letter case, a name, and the number it denotes has to lie within the bounds of the field; the
numbers of a range have to be in order. The grammar (`IsField`) says no more than that.

The test of a field goes about it in another way. It cuts at commas, then at the first slash, then
at the first hyphen, and what is left over it takes for a token. The two agree
(`complaint?_eq_ok_none_iff`), because no separator can occur in what the grammar puts between
separators: a cut at the first one is the only cut there is.
-/

namespace OpsLint.Crontab

/-! ## The grammar -/

/-- One or more digits. -/
def IsNumeral (s : Text) : Prop := s ≠ [] ∧ ∀ c ∈ s, c.isDigit = true

/-- The number that a token denotes. -/
inductive Denotes (names : Option (List (Text × Nat))) : Text → Nat → Prop
  | numeral {s : Text} (h : IsNumeral s) : Denotes names s (Nat.ofDigitChars 10 s 0)
  | name {table : List (Text × Nat)} {s : Text} {n : Nat} (htable : names = some table)
      (h : (s.map Char.toLower, n) ∈ table) : Denotes names s n

namespace FieldRange

variable (range : FieldRange)

/-- What an item is without its step. -/
inductive IsBase : Text → Prop
  | star : IsBase ['*']
  | value {s : Text} {n : Nat} (h : Denotes range.names s n) (hlow : range.low ≤ n)
      (hhigh : n ≤ range.high) : IsBase s
  | interval {s t : Text} {m n : Nat} (hs : Denotes range.names s m)
      (ht : Denotes range.names t n) (hlow : range.low ≤ m) (horder : m ≤ n)
      (hhigh : n ≤ range.high) : IsBase (s ++ '-' :: t)

/-- An item of a field. -/
inductive IsItem : Text → Prop
  | every {base : Text} (h : IsBase range base) : IsItem base
  | step {base step : Text} (h : IsBase range base) (hstep : IsNumeral step)
      (hpos : 1 ≤ Nat.ofDigitChars 10 step 0) : IsItem (base ++ '/' :: step)

/-- **A field**: one or more items, with commas between them. -/
def IsField (field : Text) : Prop :=
  ∃ items, items ≠ [] ∧ (∀ item ∈ items, range.IsItem item) ∧ field = Text.join "," items

end FieldRange

/-! ## Names -/

/-- A table as fields have them: different names in small letters. -/
structure IsNameTable (table : List (Text × Nat)) : Prop where
  letters : ∀ p ∈ table, p.1 ≠ [] ∧ ∀ c ∈ p.1, c.isLower = true
  nodup : (table.map Prod.fst).Nodup

theorem isNameTable_of_all {table : List (Text × Nat)}
    (hletters : table.all (fun p => !p.1.isEmpty && p.1.all Char.isLower) = true)
    (hnodup : (table.map Prod.fst).Nodup) : IsNameTable table where
  letters := by simpa using hletters
  nodup := hnodup

theorem isNameTable_months : IsNameTable months :=
  isNameTable_of_all (by decide +kernel) (by decide +kernel)

theorem isNameTable_days : IsNameTable days :=
  isNameTable_of_all (by decide +kernel) (by decide +kernel)

namespace FieldRange

/-- The names of a field, if it has any, are as names should be. -/
def IsNamed (range : FieldRange) : Prop := ∀ table, range.names = some table → IsNameTable table

/-- No names, the months or the days: what fields have. -/
def HasUsualNames (range : FieldRange) : Prop :=
  range.names = none ∨ range.names = some months ∨ range.names = some days

theorem HasUsualNames.eq_of_some {range : FieldRange} (h : range.HasUsualNames)
    {table : List (Text × Nat)} (htable : range.names = some table) :
    table = months ∨ table = days := by
  obtain h | h | h := h
  · exact nomatch h.symm.trans htable
  · exact .inl (Option.some.inj (htable.symm.trans h))
  · exact .inr (Option.some.inj (htable.symm.trans h))

theorem HasUsualNames.isNamed {range : FieldRange} (h : range.HasUsualNames) : range.IsNamed := by
  intro table htable
  obtain rfl | rfl := h.eq_of_some htable
  · exact isNameTable_months
  · exact isNameTable_days

/-- With short bounds, all numbers that a complaint may have to mention are short. -/
theorem HasUsualNames.isWritable {range : FieldRange} (h : range.HasUsualNames)
    (hlow : range.low < Nat.pow 10 Numeral.digitLimit)
    (hhigh : range.high < Nat.pow 10 Numeral.digitLimit) : range.IsWritable where
  low := hlow
  high := hhigh
  names := by
    intro table htable
    obtain rfl | rfl := h.eq_of_some htable
    · decide +kernel
    · decide +kernel

/-! ## Separators -/

section

variable {range : FieldRange} (hnamed : range.IsNamed)

include hnamed

/-- A token has letters and digits only, and at least one of them. -/
theorem alphanum_of_denotes {s : Text} {n : Nat} (h : Denotes range.names s n) :
    s ≠ [] ∧ ∀ c ∈ s, c.isAlphanum = true := by
  cases h with
  | numeral h =>
    refine ⟨h.1, fun c hc => ?_⟩
    rw [Char.isAlphanum, h.2 c hc, Bool.or_true]
  | name htable h =>
    obtain ⟨hne, hletters⟩ := (hnamed _ htable).letters _ h
    refine ⟨fun hnil => hne (by rw [hnil]; rfl), fun c hc => ?_⟩
    have halpha := Text.isAlpha_of_isLower_toLower (hletters _ (List.mem_map_of_mem hc))
    rw [Char.isAlphanum, halpha, Bool.true_or]

theorem not_mem_of_denotes {s : Text} {n : Nat} (h : Denotes range.names s n) {sep : Char}
    (hsep : sep.isAlphanum = false) : sep ∉ s := by
  intro hmem
  rw [(alphanum_of_denotes hnamed h).2 sep hmem] at hsep
  exact Bool.false_ne_true hsep.symm

theorem not_mem_of_isBase {base : Text} (h : range.IsBase base) {sep : Char}
    (hsep : sep.isAlphanum = false) (hstar : sep ≠ '*') (hhyphen : sep ≠ '-') : sep ∉ base := by
  cases h with
  | star => simpa using hstar
  | value h _ _ => exact not_mem_of_denotes hnamed h hsep
  | interval hs ht _ _ _ =>
    rw [List.mem_append, List.mem_cons, not_or, not_or]
    exact ⟨not_mem_of_denotes hnamed hs hsep, hhyphen, not_mem_of_denotes hnamed ht hsep⟩

theorem ne_nil_of_isBase {base : Text} (h : range.IsBase base) : base ≠ [] := by
  cases h with
  | star => exact List.cons_ne_nil _ _
  | value h _ _ => exact (alphanum_of_denotes hnamed h).1
  | interval _ _ _ _ _ => exact List.append_ne_nil_of_right_ne_nil _ (List.cons_ne_nil _ _)

theorem comma_not_mem_of_isItem {item : Text} (h : range.IsItem item) : ',' ∉ item := by
  cases h with
  | every h => exact not_mem_of_isBase hnamed h rfl (by decide) (by decide)
  | step h hstep _ =>
    rw [List.mem_append, List.mem_cons, not_or, not_or]
    refine ⟨not_mem_of_isBase hnamed h rfl (by decide) (by decide), by decide, fun hmem => ?_⟩
    exact Bool.false_ne_true (hstep.2 _ hmem)

omit hnamed in
/-- Without a hyphen, a base other than the star is a token. -/
theorem isBase_iff_of_no_hyphen {base : Text} (hstar : base ≠ ['*']) (hhyphen : '-' ∉ base) :
    range.IsBase base ↔ ∃ n, Denotes range.names base n ∧ range.low ≤ n ∧ n ≤ range.high := by
  constructor
  · intro h
    cases h with
    | star => exact absurd rfl hstar
    | value h hlow hhigh => exact ⟨_, h, hlow, hhigh⟩
    | interval _ _ _ _ _ => exact absurd (List.mem_append_right _ List.mem_cons_self) hhyphen
  · rintro ⟨n, h, hlow, hhigh⟩
    exact .value h hlow hhigh

theorem isBase_append_iff {first last : Text} (hhyphen : '-' ∉ first) :
    range.IsBase (first ++ '-' :: last) ↔
      ∃ m n, Denotes range.names first m ∧ Denotes range.names last n ∧ range.low ≤ m ∧ m ≤ n ∧
        n ≤ range.high := by
  constructor
  · intro h
    generalize hbase : first ++ '-' :: last = base at h
    cases h with
    | star =>
      have hmem : '-' ∈ ['*'] := hbase ▸ List.mem_append_right _ List.mem_cons_self
      exact absurd hmem (by decide)
    | value h _ _ =>
      have hmem : '-' ∈ base := hbase ▸ List.mem_append_right _ List.mem_cons_self
      exact absurd hmem (not_mem_of_denotes hnamed h rfl)
    | @interval s t m n hs ht hlow horder hhigh =>
      -- there is one way to cut at the first hyphen
      have hcut := (Text.cut?_eq_some_iff '-' _ first last).2 ⟨rfl, hhyphen⟩
      have hhyphen' : '-' ∉ s := not_mem_of_denotes hnamed hs rfl
      rw [hbase, (Text.cut?_eq_some_iff '-' _ s t).2 ⟨rfl, hhyphen'⟩] at hcut
      obtain ⟨rfl, rfl⟩ := Prod.mk.inj (Option.some.inj hcut)
      exact ⟨m, n, hs, ht, hlow, horder, hhigh⟩
  · rintro ⟨m, n, hs, ht, hlow, horder, hhigh⟩
    exact .interval hs ht hlow horder hhigh

omit hnamed in
theorem isItem_iff_of_no_slash {item : Text} (hslash : '/' ∉ item) :
    range.IsItem item ↔ range.IsBase item := by
  constructor
  · intro h
    cases h with
    | every h => exact h
    | step _ _ _ => exact absurd (List.mem_append_right _ List.mem_cons_self) hslash
  · exact .every

theorem isItem_append_iff {base step : Text} (hslash : '/' ∉ base) :
    range.IsItem (base ++ '/' :: step) ↔
      range.IsBase base ∧ IsNumeral step ∧ 1 ≤ Nat.ofDigitChars 10 step 0 := by
  constructor
  · intro h
    generalize hitem : base ++ '/' :: step = item at h
    cases h with
    | every h =>
      have hmem : '/' ∈ item := hitem ▸ List.mem_append_right _ List.mem_cons_self
      exact absurd hmem (not_mem_of_isBase hnamed h rfl (by decide) (by decide))
    | @step base' step' h hstep hpos =>
      have hslash' : '/' ∉ base' := not_mem_of_isBase hnamed h rfl (by decide) (by decide)
      have hcut := (Text.cut?_eq_some_iff '/' _ base step).2 ⟨rfl, hslash⟩
      rw [hitem, (Text.cut?_eq_some_iff '/' _ base' step').2 ⟨rfl, hslash'⟩] at hcut
      obtain ⟨rfl, rfl⟩ := Prod.mk.inj (Option.some.inj hcut)
      exact ⟨h, hstep, hpos⟩
  · rintro ⟨h, hstep, hpos⟩
    exact .step h hstep hpos

/-- Cutting at the commas gives the items. -/
theorem isField_iff (field : Text) :
    range.IsField field ↔ ∀ item ∈ Text.splitOn ',' field, range.IsItem item := by
  rw [Text.splitOn_eq]
  constructor
  · rintro ⟨items, hne, hitems, rfl⟩
    have hcommas : ∀ item ∈ items, ',' ∉ item :=
      fun item hitem => comma_not_mem_of_isItem hnamed (hitems item hitem)
    have hsplit : List.splitOn ',' (Text.join "," items) = items :=
      List.splitOn_intercalate ',' hcommas hne
    rw [hsplit]
    exact hitems
  · intro h
    exact ⟨_, List.splitOn_ne_nil ',' field, h, (List.intercalate_splitOn ',').symm⟩

end

end FieldRange

/-! ## Plain tokens -/

theorem IsPlain.isDigits_iff {s : Text} (h : IsPlain s) :
    Text.isDigits s = true ↔ IsNumeral s := by
  rw [Text.isDigits, Bool.and_eq_true, List.all_eq_true, Bool.not_eq_true',
    List.isEmpty_eq_false_iff]
  refine and_congr_right (fun _ => forall_congr' (fun c => forall_congr' (fun hc => ?_)))
  rw [Text.isDigitLike_of_ascii (h.ascii c hc)]

theorem IsPlain.readNumber_eq {s : Text} (h : IsPlain s) (hnumeral : IsNumeral s) :
    readNumber s = .ok (Nat.ofDigitChars 10 s 0) := by
  rw [readNumber, Numeral.read_of_isDigit hnumeral.1 h.short hnumeral.2]
  rfl

/-! ## What the test accepts -/

/-- The elements of a list pass a test one after another if and only if each of them does. -/
theorem forM_eq_ok_iff {α ε : Type} (f : α → Except ε Unit) (l : List α) :
    l.forM f = .ok () ↔ ∀ x ∈ l, f x = .ok () := by
  induction l with
  | nil => exact iff_of_true rfl nofun
  | cons x l ih =>
    rw [List.forall_mem_cons, ← ih]
    constructor
    · intro h
      obtain ⟨_, hx, hl⟩ := exists_ok_of_bind_ok h
      exact ⟨hx, hl⟩
    · rintro ⟨hx, hl⟩
      show (f x >>= fun _ => l.forM f) = _
      rw [hx]
      exact hl

namespace FieldRange

variable {range : FieldRange}

theorem checkStep_eq_ok_iff {step : Text} (h : IsPlain step) :
    checkStep step = .ok () ↔ IsNumeral step ∧ 1 ≤ Nat.ofDigitChars 10 step 0 := by
  unfold checkStep
  by_cases hdigits : Text.isDigits step = true
  · have hnumeral := h.isDigits_iff.1 hdigits
    rw [if_pos hdigits, h.readNumber_eq hnumeral]
    show (if Nat.ofDigitChars 10 step 0 < 1 then _ else _) = _ ↔ _
    by_cases hzero : Nat.ofDigitChars 10 step 0 < 1
    · rw [if_pos hzero]
      exact iff_of_false nofun (fun h => Nat.not_le.2 hzero h.2)
    · rw [if_neg hzero]
      exact iff_of_true rfl ⟨hnumeral, Nat.not_lt.1 hzero⟩
  · rw [if_neg hdigits]
    exact iff_of_false nofun (fun hstep => hdigits (h.isDigits_iff.2 hstep.1))

theorem value_eq_ok_iff_number? (token : Text) (n : Nat) :
    range.value token = .ok n ↔
      range.number? token = .ok (some n) ∧ range.low ≤ n ∧ n ≤ range.high := by
  unfold value
  cases range.number? token with
  | error stop => exact iff_of_false nofun (fun h => nomatch h.1)
  | ok found =>
    cases found with
    | none => exact iff_of_false nofun (fun h => nomatch h.1)
    | some m =>
      show (if range.low ≤ m ∧ m ≤ range.high then _ else _) = _ ↔ _
      by_cases hbounds : range.low ≤ m ∧ m ≤ range.high
      · rw [if_pos hbounds]
        constructor
        · intro h
          obtain rfl := Except.ok.inj h
          exact ⟨rfl, hbounds⟩
        · rintro ⟨h, -⟩
          exact congrArg _ (Option.some.inj (Except.ok.inj h))
      · rw [if_neg hbounds]
        refine iff_of_false nofun ?_
        rintro ⟨h, hn⟩
        obtain rfl := Option.some.inj (Except.ok.inj h)
        exact hbounds hn

section

variable (hnamed : range.IsNamed)

include hnamed

theorem number?_eq_ok_some_iff {token : Text} (hplain : IsPlain token) (n : Nat) :
    range.number? token = .ok (some n) ↔ Denotes range.names token n := by
  unfold number?
  by_cases hdigits : Text.isDigits token = true
  · have hnumeral := hplain.isDigits_iff.1 hdigits
    rw [if_pos hdigits, hplain.readNumber_eq hnumeral]
    constructor
    · intro h
      obtain rfl := Option.some.inj (Except.ok.inj h)
      exact .numeral hnumeral
    · intro h
      cases h with
      | numeral _ => rfl
      | name htable h =>
        -- a name begins with a letter, and a numeral does not
        obtain ⟨c, s, rfl⟩ := List.exists_cons_of_ne_nil hnumeral.1
        have hlower := ((hnamed _ htable).letters _ h).2 _ List.mem_cons_self
        have hdigit := Text.isDigit_of_isAlpha (Text.isAlpha_of_isLower_toLower hlower)
        rw [hnumeral.2 c List.mem_cons_self] at hdigit
        exact absurd hdigit.symm Bool.false_ne_true
  · rw [if_neg hdigits, Text.lower_of_ascii hplain.ascii]
    constructor
    · intro h
      obtain ⟨table, htable, hlookup⟩ := Option.bind_eq_some_iff.1 (Except.ok.inj h)
      exact .name htable ((Assoc.lookup_eq_some_iff_mem (hnamed table htable).nodup _ n).1 hlookup)
    · intro h
      cases h with
      | numeral h => exact absurd (hplain.isDigits_iff.2 h) hdigits
      | @name table _ _ htable h =>
        rw [htable]
        exact congrArg _ ((Assoc.lookup_eq_some_iff_mem (hnamed table htable).nodup _ n).2 h)

theorem value_eq_ok_iff {token : Text} (hplain : IsPlain token) (n : Nat) :
    range.value token = .ok n ↔
      Denotes range.names token n ∧ range.low ≤ n ∧ n ≤ range.high := by
  rw [value_eq_ok_iff_number?, number?_eq_ok_some_iff hnamed hplain]

theorem checkBase_eq_ok_iff {base : Text} (hplain : IsPlain base) :
    range.checkBase base = .ok () ↔ range.IsBase base := by
  unfold checkBase
  by_cases hstar : base = ("*" : Text)
  · rw [if_pos hstar, hstar]
    exact iff_of_true rfl .star
  · rw [if_neg hstar]
    cases hcut : Text.cut? '-' base with
    | none =>
      rw [isBase_iff_of_no_hyphen hstar ((Text.cut?_eq_none_iff _ _).1 hcut)]
      constructor
      · intro h
        obtain ⟨n, hn, -⟩ := exists_ok_of_bind_ok h
        exact ⟨n, (value_eq_ok_iff hnamed hplain n).1 hn⟩
      · rintro ⟨n, hn⟩
        dsimp only
        rw [(value_eq_ok_iff hnamed hplain n).2 hn]
        rfl
    | some parts =>
      obtain ⟨first, last⟩ := parts
      obtain ⟨hbase, hhyphen⟩ := (Text.cut?_eq_some_iff _ _ _ _).1 hcut
      have hfirst := hplain.sublist (Text.sublist_of_cut? hcut).1
      have hlast := hplain.sublist (Text.sublist_of_cut? hcut).2
      rw [hbase, isBase_append_iff hnamed hhyphen]
      constructor
      · intro h
        obtain ⟨m, hm, h⟩ := exists_ok_of_bind_ok h
        obtain ⟨n, hn, h⟩ := exists_ok_of_bind_ok h
        obtain ⟨hm, hlow, -⟩ := (value_eq_ok_iff hnamed hfirst m).1 hm
        obtain ⟨hn, -, hhigh⟩ := (value_eq_ok_iff hnamed hlast n).1 hn
        have horder : m ≤ n := by
          by_contra hlt
          rw [if_pos (Nat.not_le.1 hlt)] at h
          exact nomatch h
        exact ⟨m, n, hm, hn, hlow, horder, hhigh⟩
      · rintro ⟨m, n, hm, hn, hlow, horder, hhigh⟩
        dsimp only
        rw [(value_eq_ok_iff hnamed hfirst m).2 ⟨hm, hlow, Nat.le_trans horder hhigh⟩,
          (value_eq_ok_iff hnamed hlast n).2 ⟨hn, Nat.le_trans hlow horder, hhigh⟩]
        exact if_neg (Nat.not_lt.2 horder)

theorem checkItem_eq_ok_iff {item : Text} (hplain : IsPlain item) :
    range.checkItem item = .ok () ↔ range.IsItem item := by
  unfold checkItem
  by_cases hempty : item.isEmpty = true
  · rw [if_pos hempty, List.isEmpty_iff.1 hempty, isItem_iff_of_no_slash List.not_mem_nil]
    exact iff_of_false nofun (fun h => ne_nil_of_isBase hnamed h rfl)
  · rw [if_neg hempty]
    cases hcut : Text.cut? '/' item with
    | none =>
      rw [isItem_iff_of_no_slash ((Text.cut?_eq_none_iff _ _).1 hcut)]
      exact checkBase_eq_ok_iff hnamed hplain
    | some parts =>
      obtain ⟨base, step⟩ := parts
      obtain ⟨hitem, hslash⟩ := (Text.cut?_eq_some_iff _ _ _ _).1 hcut
      have hbase := hplain.sublist (Text.sublist_of_cut? hcut).1
      have hstep := hplain.sublist (Text.sublist_of_cut? hcut).2
      rw [hitem, isItem_append_iff hnamed hslash, ← checkBase_eq_ok_iff hnamed hbase,
        ← checkStep_eq_ok_iff hstep]
      constructor
      · intro h
        obtain ⟨_, hok, h⟩ := exists_ok_of_bind_ok h
        exact ⟨h, hok⟩
      · rintro ⟨h, hok⟩
        dsimp only
        rw [hok]
        exact h

/-- **The test accepts what the grammar describes.** -/
theorem check_eq_ok_iff {field : Text} (hplain : IsPlain field) :
    range.check field = .ok () ↔ range.IsField field := by
  rw [check, forM_eq_ok_iff, isField_iff hnamed]
  refine forall_congr' (fun item => forall_congr' (fun hitem => ?_))
  exact checkItem_eq_ok_iff hnamed (hplain.sublist (Text.sublist_of_mem_splitOn hitem))

end

/-- There is nothing to complain of if and only if the test has found nothing. -/
theorem complaint?_eq_ok_none_iff_check (field : Text) :
    range.complaint? field = .ok none ↔ range.check field = .ok () := by
  unfold complaint? problem?
  cases range.check field with
  | ok u => exact iff_of_true rfl rfl
  | error stop =>
    cases stop with
    | numeral e => exact iff_of_false nofun nofun
    | problem p =>
      show (some <$> p.message) = _ ↔ _
      cases p.message with
      | error e => exact iff_of_false nofun nofun
      | ok message => exact iff_of_false nofun nofun

end FieldRange

/-! ## Test and grammar -/

/-- **Fields are tested against the grammar.** On a plain text the test has nothing to complain of
if and only if the text is a field, and it always has an answer as long as the bounds themselves can
be written. -/
theorem complaint?_eq_ok_none_iff (range : FieldRange)
    (hnames : range.names = none ∨ range.names = some months ∨ range.names = some days)
    (field : Text) (hplain : IsPlain field) :
    (range.complaint? field = .ok none ↔ range.IsField field) ∧
      (range.low < Nat.pow 10 Numeral.digitLimit → range.high < Nat.pow 10 Numeral.digitLimit →
        ∃ answer, range.complaint? field = .ok answer) := by
  have husual : range.HasUsualNames := hnames
  refine ⟨?_, fun hlow hhigh => ?_⟩
  · rw [FieldRange.complaint?_eq_ok_none_iff_check,
      FieldRange.check_eq_ok_iff husual.isNamed hplain]
  · exact FieldRange.exists_complaint? (husual.isWritable hlow hhigh) hplain.isReadable

/-- Months by name and by number in one range, a step with a leading zero, and a name in capitals
with a step. -/
theorem complaint?_eq_ok_none_iff_of_mixed_list :
    ({ low := 1, high := 12, names := some months } : FieldRange).IsField "Jan-3,*/05,DEC/2" :=
  (complaint?_eq_ok_none_iff _ (.inr (.inl rfl)) _ (by decide +kernel)).1.1 (by decide +kernel)

end OpsLint.Crontab

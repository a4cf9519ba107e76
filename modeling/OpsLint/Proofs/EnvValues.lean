import Mathlib.Algebra.Ring.Parity
import OpsLint.Env.Basic
import OpsLint.Proofs.Words

/-!
# What values mean

A value is between quotes or bare. What may stand **between quotes** is said here without a scanner
(`Quotable`): a quote of the same sort is escaped wherever it occurs, and the one that closes is
not. A quote is escaped if the run of backslashes in front of it is odd, and only between double
quotes. The scanner goes from left to right with a flag for the character before, and stops after
exactly such a text (`closingQuote?_eq_some_iff`).

There is no problem with what stands after an equals sign if it is bare, or a quotation with nothing
or a comment after it (`valueProblem?_eq_none_iff`). A **bare value** ends before blanks that lead
to a number sign.

What stands after an equals sign **means** a value (`Means`) if there is no problem with it. A
comment after it then makes no difference, as long as there is something in front of the comment
(`Means.append`).
-/

namespace OpsLint.Env

/-! ## Quotations -/

/-- The number of backslashes at the end of a text. -/
def trailingBackslashes (s : Text) : Nat := (s.rtakeWhile (· = '\\')).length

theorem trailingBackslashes_concat (s : Text) (c : Char) :
    trailingBackslashes (s ++ [c]) = if c = '\\' then trailingBackslashes s + 1 else 0 := by
  unfold trailingBackslashes
  by_cases hc : c = '\\'
  · rw [if_pos hc, List.rtakeWhile_concat_pos (· = '\\') s c (by simpa using hc),
      List.length_append, List.length_singleton]
  · rw [if_neg hc, List.rtakeWhile_concat_neg (· = '\\') s c (by simpa using hc), List.length_nil]

/-- What follows the text between two quotes of this sort is escaped. -/
def Escapes (quote : Char) (s : Text) : Prop := quote = '"' ∧ Odd (trailingBackslashes s)

/-- The text can stand between two quotes of this sort: those in it are escaped, and the one after
it is not. -/
structure Quotable (quote : Char) (v : Text) : Prop where
  inside : ∀ p s, v = p ++ quote :: s → Escapes quote p
  after : ¬ Escapes quote v

/-- Whether the next character is escaped, when a text has been read from left to right. -/
def escapedAfter (quote : Char) (escaped : Bool) (s : Text) : Bool :=
  s.foldl (fun escaped c => !escaped && (c = '\\' && quote = '"')) escaped

/-- **The flag counts backslashes.** -/
theorem escapedAfter_iff (quote : Char) (s : Text) :
    escapedAfter quote false s = true ↔ Escapes quote s := by
  induction s using List.reverseRecOn with
  | nil => simp [escapedAfter, Escapes, trailingBackslashes]
  | append_singleton s c ih =>
    have hflag : escapedAfter quote false (s ++ [c])
        = (!escapedAfter quote false s && (c = '\\' && quote = '"')) := List.foldl_append
    unfold Escapes at ih ⊢
    rw [hflag, trailingBackslashes_concat]
    by_cases hc : c = '\\' <;> by_cases hquote : quote = '"' <;>
      simp_all [Nat.odd_add_one, ← Bool.not_eq_true]

theorem closingFrom_cons (quote : Char) (escaped : Bool) (c : Char) (s : Text) :
    closingFrom quote escaped (c :: s)
      = if escaped = false ∧ c = quote then some 0
        else (closingFrom quote (!escaped && (c = '\\' && quote = '"')) s).map (· + 1) := by
  rw [closingFrom]
  cases escaped with
  | true => simp
  | false =>
    by_cases hc : c = '\\' ∧ quote = '"'
    · obtain ⟨rfl, rfl⟩ := hc
      simp
    · have hflag : (decide (c = '\\') && decide (quote = '"')) = false := by simpa using hc
      simp [hflag]

/-- **The scanner stops at the first quote that is not escaped.** -/
theorem closingFrom_eq_some_iff (quote : Char) (escaped : Bool) (s : Text) (n : Nat) :
    closingFrom quote escaped s = some n ↔
      ∃ v rest, s = v ++ quote :: rest ∧ v.length = n ∧
        (∀ p t, v = p ++ quote :: t → escapedAfter quote escaped p = true) ∧
        escapedAfter quote escaped v = false := by
  induction s generalizing escaped n with
  | nil => simp [closingFrom]
  | cons c s ih =>
    rw [closingFrom_cons]
    by_cases hstop : escaped = false ∧ c = quote
    · obtain ⟨rfl, rfl⟩ := hstop
      rw [if_pos ⟨rfl, rfl⟩]
      constructor
      · intro hn
        exact ⟨[], s, rfl, Option.some.inj hn, by simp, rfl⟩
      · rintro ⟨v, rest, hs, rfl, hinside, -⟩
        cases v with
        | nil => rfl
        | cons d v =>
          -- the first character would be a quote that is not escaped
          obtain ⟨rfl, -⟩ := List.cons.inj hs
          exact absurd (hinside [] v rfl) Bool.false_ne_true
    · rw [if_neg hstop, Option.map_eq_some_iff]
      constructor
      · rintro ⟨m, hm, rfl⟩
        obtain ⟨v, rest, rfl, rfl, hinside, hafter⟩ := (ih _ _).1 hm
        refine ⟨c :: v, rest, rfl, rfl, fun p t hp => ?_, hafter⟩
        cases p with
        | nil =>
          obtain ⟨rfl, -⟩ := List.cons.inj hp
          exact eq_true_of_ne_false fun hescaped => hstop ⟨hescaped, rfl⟩
        | cons d p =>
          obtain ⟨rfl, hv⟩ := List.cons.inj hp
          exact hinside p t hv
      · rintro ⟨v, rest, hs, rfl, hinside, hafter⟩
        cases v with
        | nil => exact absurd ⟨hafter, (List.cons.inj hs).1⟩ hstop
        | cons d v =>
          obtain ⟨rfl, rfl⟩ := List.cons.inj hs
          exact ⟨v.length, (ih _ _).2 ⟨v, rest, rfl, rfl,
            fun p t hp => hinside (c :: p) t (congrArg (c :: ·) hp), hafter⟩, rfl⟩

/-- **The closing quote** is the first that what is before it can stand in front of. -/
theorem closingQuote?_eq_some_iff (quote : Char) (s : Text) (n : Nat) :
    closingQuote? (quote :: s) = some n ↔
      ∃ v rest, s = v ++ quote :: rest ∧ v.length + 1 = n ∧ Quotable quote v := by
  show (closingFrom quote false s).map (· + 1) = some n ↔ _
  simp only [Option.map_eq_some_iff, closingFrom_eq_some_iff, escapedAfter_iff,
    ← Bool.not_eq_true]
  constructor
  · rintro ⟨m, ⟨v, rest, hs, rfl, hinside, hafter⟩, rfl⟩
    exact ⟨v, rest, hs, rfl, hinside, hafter⟩
  · rintro ⟨v, rest, hs, rfl, hv⟩
    exact ⟨v.length, ⟨v, rest, hs, rfl, hv.inside, hv.after⟩, rfl⟩

/-- Nothing but blanks, or a comment after blanks. -/
def IsRemark (rest : Text) : Prop :=
  Text.trim rest = [] ∨ (Text.trim rest).head? = some '#'

/-- The text between quotes, with nothing or a comment after them. -/
def IsQuotation (text v : Text) : Prop :=
  ∃ quote rest, text = quote :: (v ++ quote :: rest) ∧ isQuote quote = true ∧ Quotable quote v ∧
    IsRemark rest

theorem IsQuotation.beginsQuoted {text v : Text} (h : IsQuotation text v) :
    beginsQuoted text = true := by
  obtain ⟨quote, rest, rfl, hquote, -⟩ := h
  exact hquote

theorem IsQuotation.closingQuote? {text v : Text} (h : IsQuotation text v) :
    closingQuote? text = some (v.length + 1) := by
  obtain ⟨quote, rest, rfl, -, hv, -⟩ := h
  exact (closingQuote?_eq_some_iff quote _ _).2 ⟨v, rest, rfl, rfl, hv⟩

theorem IsQuotation.unquote {raw v : Text} (h : IsQuotation (Text.trim raw) v) :
    unquote raw = v := by
  unfold Env.unquote
  dsimp only
  rw [if_pos h.beginsQuoted, h.closingQuote?]
  obtain ⟨quote, rest, htext, -⟩ := h
  rw [htext]
  simp

theorem unquote_of_bare {raw : Text} (h : beginsQuoted (Text.trim raw) = false) :
    unquote raw = Text.trimRight (beforeComment (Text.trim raw)) :=
  if_neg (ne_true_of_eq_false h)

theorem isRemark_iff (rest : Text) :
    IsRemark rest ↔ ((Text.trim rest).isEmpty || (Text.trim rest).head? = some '#') = true := by
  simp [IsRemark]

theorem drop_quotation (quote : Char) (v rest : Text) :
    (quote :: (v ++ quote :: rest)).drop (v.length + 1 + 1) = rest := by
  simp

theorem exists_isQuotation_of_valueProblem? {key rawValue : Text}
    (h : valueProblem? key rawValue = none) (hbegins : beginsQuoted (Text.trim rawValue) = true) :
    ∃ v, IsQuotation (Text.trim rawValue) v := by
  unfold valueProblem? at h
  dsimp only at h
  rw [if_pos hbegins] at h
  cases htext : Text.trim rawValue with
  | nil => rw [htext] at hbegins; exact nomatch hbegins
  | cons quote s =>
    rw [htext] at h hbegins
    cases hclosing : closingQuote? (quote :: s) with
    | none => rw [hclosing] at h; exact nomatch h
    | some stop =>
      rw [hclosing] at h
      obtain ⟨v, rest, rfl, rfl, hv⟩ := (closingQuote?_eq_some_iff quote s stop).1 hclosing
      dsimp only at h
      rw [drop_quotation] at h
      refine ⟨v, quote, rest, rfl, hbegins, hv, (isRemark_iff rest).2 ?_⟩
      by_contra hbad
      rw [if_neg hbad] at h
      exact nomatch h

/-- **What can stand after an equals sign**: a bare value or a quotation. -/
theorem valueProblem?_eq_none_iff (key rawValue : Text) :
    valueProblem? key rawValue = none ↔
      beginsQuoted (Text.trim rawValue) = false ∨ ∃ v, IsQuotation (Text.trim rawValue) v := by
  constructor
  · intro h
    by_cases hbegins : beginsQuoted (Text.trim rawValue) = true
    · exact .inr (exists_isQuotation_of_valueProblem? h hbegins)
    · exact .inl (eq_false_of_ne_true hbegins)
  · unfold valueProblem?
    rintro (hbare | ⟨v, hv⟩)
    · exact if_neg (ne_true_of_eq_false hbare)
    · dsimp only
      rw [if_pos hv.beginsQuoted, hv.closingQuote?]
      obtain ⟨quote, rest, htext, -, -, hrest⟩ := hv
      dsimp only
      rw [htext, drop_quotation]
      exact if_pos ((isRemark_iff rest).1 hrest)

/-! ## Bare values -/

/-- Blanks that lead to a number sign. -/
def LeadsToComment (s : Text) : Prop :=
  ∃ c t, s = c :: t ∧ Text.isBlank c = true ∧ (Text.trimLeft t).head? = some '#'

/-- No blank stands in front of a number sign. -/
def Uncommented (v : Text) : Prop :=
  ∀ p c s, v = p ++ c :: '#' :: s → Text.isBlank c = false

theorem LeadsToComment.beforeComment {s : Text} (h : LeadsToComment s) : beforeComment s = [] := by
  obtain ⟨c, t, rfl, hc, ht⟩ := h
  rw [Env.beforeComment, if_pos (by simp [hc, ht])]

theorem leadsToComment_append {gap : Text} (hne : gap ≠ [])
    (hgap : ∀ c ∈ gap, Text.isBlank c = true) (s : Text) : LeadsToComment (gap ++ '#' :: s) := by
  cases gap with
  | nil => exact absurd rfl hne
  | cons b gap =>
    obtain ⟨hb, hgap⟩ := List.forall_mem_cons.1 hgap
    refine ⟨b, gap ++ '#' :: s, rfl, hb, ?_⟩
    rw [Text.trimLeft_append_of_blank ((Text.trimLeft_eq_nil_iff gap).2 hgap)]
    rfl

theorem LeadsToComment.head?_trimLeft {s : Text} (h : LeadsToComment s) :
    (Text.trimLeft s).head? = some '#' := by
  obtain ⟨c, t, rfl, hc, ht⟩ := h
  have htrim : Text.trimLeft (c :: t) = Text.trimLeft t := List.dropWhile_cons_of_pos hc
  rw [htrim, ht]

/-- The last of the blanks stands in front of the number sign. -/
theorem LeadsToComment.not_uncommented {s : Text} (h : LeadsToComment s) : ¬ Uncommented s := by
  obtain ⟨c, t, rfl, hc, ht⟩ := h
  intro hs
  induction t generalizing c with
  | nil => exact nomatch ht
  | cons d t ih =>
    by_cases hd : Text.isBlank d = true
    · have htrim : Text.trimLeft (d :: t) = Text.trimLeft t := List.dropWhile_cons_of_pos hd
      rw [htrim] at ht
      exact ih d hd ht fun p c' s hp => hs (c :: p) c' s (congrArg (c :: ·) hp)
    · rw [Text.trimLeft_cons_of_not_blank (eq_false_of_ne_true hd)] at ht
      obtain rfl := Option.some.inj ht
      exact Bool.false_ne_true ((hs [] c t rfl).symm.trans hc)

/-- **A text without a comment is a value as it stands.** -/
theorem beforeComment_eq_self {v : Text} (h : Uncommented v) : beforeComment v = v := by
  induction v with
  | nil => rfl
  | cons c v ih =>
    have hkeep : ¬ (Text.isBlank c && (Text.trimLeft v).head? = some '#') = true := by
      intro hlead
      rw [Bool.and_eq_true, decide_eq_true_eq] at hlead
      exact LeadsToComment.not_uncommented ⟨c, v, rfl, hlead.1, hlead.2⟩ h
    rw [beforeComment, if_neg hkeep, ih fun p d s hp => h (c :: p) d s (congrArg (c :: ·) hp)]

/-- **A comment makes no difference** after a text that does not end in a blank. -/
theorem beforeComment_append {v tail : Text} (hv : Text.trimRight v = v)
    (htail : LeadsToComment tail) : beforeComment (v ++ tail) = beforeComment v := by
  induction v with
  | nil => exact htail.beforeComment
  | cons c v ih =>
    rw [List.cons_append, beforeComment, beforeComment, ih (Text.trimRight_tail hv)]
    by_cases hblank : Text.trimLeft v = []
    · -- the first character is then the last as well, so it is not blank
      have hnil : v = [] := (Text.trimRight_tail hv).symm.trans
        (List.rdropWhile_eq_nil_iff.2 ((Text.trimLeft_eq_nil_iff v).1 hblank))
      have hc : Text.isBlank c = false := by
        rw [hnil] at hv
        exact eq_false_of_ne_true (List.rdropWhile_eq_self_iff.1 hv (List.cons_ne_nil c []))
      simp [hc]
    · rw [Text.trimLeft_append hblank, List.head?_append_of_ne_nil _ hblank]

/-! ## Meanings -/

/-- **What stands after an equals sign means the value.** -/
structure Means (raw v : Text) (quoted : Bool) : Prop where
  problem : ∀ key, valueProblem? key raw = none
  value : unquote raw = v
  quoted : beginsQuoted (Text.trim raw) = quoted

/-- Whether there is a problem does not depend on the key. -/
theorem means_of_valueProblem? {key raw : Text} (h : valueProblem? key raw = none) :
    Means raw (unquote raw) (beginsQuoted (Text.trim raw)) where
  problem := fun key' =>
    (valueProblem?_eq_none_iff key' raw).2 ((valueProblem?_eq_none_iff key raw).1 h)
  value := rfl
  quoted := rfl

theorem means_true_iff (raw v : Text) : Means raw v true ↔ IsQuotation (Text.trim raw) v := by
  constructor
  · rintro ⟨hproblem, rfl, hquoted⟩
    obtain ⟨v, hv⟩ := exists_isQuotation_of_valueProblem? (hproblem []) hquoted
    rw [hv.unquote]
    exact hv
  · intro h
    exact ⟨fun key => (valueProblem?_eq_none_iff key raw).2 (.inr ⟨v, h⟩), h.unquote,
      h.beginsQuoted⟩

theorem means_false_iff (raw v : Text) :
    Means raw v false ↔ beginsQuoted (Text.trim raw) = false ∧
      Text.trimRight (beforeComment (Text.trim raw)) = v := by
  constructor
  · rintro ⟨-, rfl, hbare⟩
    exact ⟨hbare, (unquote_of_bare hbare).symm⟩
  · rintro ⟨hbare, rfl⟩
    exact ⟨fun key => (valueProblem?_eq_none_iff key raw).2 (.inl hbare), unquote_of_bare hbare,
      hbare⟩

/-- Nothing bare means nothing. -/
theorem Means.eq_nil_iff {raw v : Text} (h : Means raw v false) : v = [] ↔ Text.trim raw = [] := by
  obtain ⟨-, rfl⟩ := (means_false_iff raw v).1 h
  cases htext : Text.trim raw with
  | nil => exact ⟨fun _ => rfl, fun _ => rfl⟩
  | cons c s =>
    have hc : Text.isBlank c = false :=
      Text.isBlank_of_trimLeft_eq_cons ((Text.trimLeft_trim raw).trans htext)
    have hkeep : beforeComment (c :: s) = c :: beforeComment s := if_neg (by simp [hc])
    rw [hkeep, Text.trimRight_cons hc]
    exact ⟨fun hnil => absurd hnil (List.cons_ne_nil _ _), fun hnil =>
      absurd hnil (List.cons_ne_nil _ _)⟩

/-- What can follow a value: nothing, or a comment after blanks. -/
def IsTail (t : Text) : Prop := t = [] ∨ LeadsToComment t

theorem IsTail.isRemark_append {t rest : Text} (ht : IsTail t) (h : IsRemark rest) :
    IsRemark (rest ++ t) := by
  rcases ht with rfl | ht
  · rwa [List.append_nil]
  · unfold IsRemark at h
    by_cases hblank : Text.trimLeft rest = []
    · refine .inr ?_
      rw [Text.head?_trim_eq, Text.trimLeft_append_of_blank hblank, ht.head?_trimLeft]
    · refine .inr ?_
      rw [Text.trim_eq_nil_iff, Text.head?_trim_eq] at h
      rw [Text.head?_trim_eq, Text.trimLeft_append hblank, List.head?_append_of_ne_nil _ hblank]
      exact h.resolve_left hblank

/-- **What follows a value makes no difference** if there is a value. -/
theorem Means.append {raw v t : Text} {quoted : Bool} (h : Means raw v quoted)
    (hne : Text.trim raw ≠ []) (ht : IsTail t) {raw' : Text}
    (htrim : Text.trim raw' = Text.trim raw ++ t) : Means raw' v quoted := by
  cases quoted with
  | true =>
    obtain ⟨quote, rest, htext, hquote, hv, hrest⟩ := (means_true_iff raw v).1 h
    refine (means_true_iff raw' v).2 ⟨quote, rest ++ t, ?_, hquote, hv, ht.isRemark_append hrest⟩
    rw [htrim, htext]
    simp
  | false =>
    obtain ⟨hbare, hvalue⟩ := (means_false_iff raw v).1 h
    refine (means_false_iff raw' v).2 ⟨?_, ?_⟩
    · unfold beginsQuoted at hbare ⊢
      rw [htrim, List.head?_append_of_ne_nil _ hne, hbare]
    · rcases ht with rfl | ht
      · rw [htrim, List.append_nil, hvalue]
      · rw [htrim, beforeComment_append (Text.trimRight_trim raw) ht, hvalue]

end OpsLint.Env

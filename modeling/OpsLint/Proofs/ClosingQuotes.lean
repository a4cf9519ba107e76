import Mathlib.Order.Nat
import OpsLint.Proofs.EnvValues

/-!
# Where a quotation closes

The position of a closing quote is said here by looking at the text as a whole (`ClosesAt`): a quote
of the same sort as the one the text begins with, and between double quotes the run of backslashes
in front of it is even. The scanner, which has only a flag for the character before, finds the least
of these positions, and nothing if and only if there is none (`closingQuote?_exact`).
-/

namespace OpsLint.Env

/-- **A position at which the quotation that a text begins with can close.** -/
structure ClosesAt (text : Text) (i : Nat) : Prop where
  one_le : 1 ≤ i
  lt_length : i < text.length
  same : text[i]? = text[0]?
  even : text[0]? = some '"' → Even (trailingBackslashes (text.take i))

/-- What a text begins with is in none of the runs of backslashes after it. -/
theorem trailingBackslashes_cons {c : Char} (hc : c ≠ '\\') (s : Text) :
    trailingBackslashes (c :: s) = trailingBackslashes s := by
  induction s using List.reverseRecOn with
  | nil => exact (trailingBackslashes_concat [] c).trans (if_neg hc)
  | append_singleton s d ih =>
    rw [← List.cons_append, trailingBackslashes_concat, trailingBackslashes_concat, ih]

theorem not_escapes_iff (quote : Char) (v : Text) :
    ¬ Escapes quote v ↔ (quote = '"' → Even (trailingBackslashes (quote :: v))) := by
  unfold Escapes
  rw [not_and, Nat.not_odd_iff_even]
  refine forall_congr' fun hquote => ?_
  rw [trailingBackslashes_cons (by rw [hquote]; decide)]

/-- What stands around a position at which a quotation can close. -/
theorem closesAt_iff (quote : Char) (s : Text) (i : Nat) :
    ClosesAt (quote :: s) i ↔
      ∃ v rest, s = v ++ quote :: rest ∧ v.length + 1 = i ∧ ¬ Escapes quote v := by
  constructor
  · rintro ⟨hi, hlength, hsame, heven⟩
    obtain ⟨n, rfl⟩ := Nat.exists_eq_add_of_le' hi
    obtain ⟨hn, hget⟩ := List.getElem?_eq_some_iff.1 (show s[n]? = some quote from hsame)
    refine ⟨s.take n, s.drop (n + 1), ?_, ?_, ?_⟩
    · rw [← hget, ← List.drop_eq_getElem_cons hn, List.take_append_drop]
    · rw [List.length_take_of_le (Nat.le_of_lt hn)]
    · exact (not_escapes_iff quote _).2 fun hquote => heven (congrArg some hquote)
  · rintro ⟨v, rest, rfl, rfl, hv⟩
    refine ⟨Nat.le_add_left 1 _, by simp, by simp, fun hquote => ?_⟩
    rw [List.take_succ_cons, List.take_left]
    exact (not_escapes_iff quote v).1 hv (Option.some.inj hquote)

/-- **The scanner finds the first position** at which the quotation can close. -/
theorem closingQuote?_eq_some_iff_isLeast (quote : Char) (s : Text) (n : Nat) :
    closingQuote? (quote :: s) = some n ↔ IsLeast {i | ClosesAt (quote :: s) i} n := by
  rw [closingQuote?_eq_some_iff]
  constructor
  · rintro ⟨v, rest, rfl, rfl, hv⟩
    refine ⟨(closesAt_iff quote _ _).2 ⟨v, rest, rfl, rfl, hv.after⟩, fun j hj => ?_⟩
    obtain ⟨p, t, hsplit, rfl, hp⟩ := (closesAt_iff quote _ _).1 hj
    -- a quote further to the front would be one of those within, which are escaped
    by_contra hlt
    obtain ⟨u, rfl, -⟩ | ⟨u, rfl, hu⟩ := List.append_eq_append_iff.1 hsplit
    · simp at hlt
    · cases u with
      | nil => simp at hlt
      | cons d u =>
        obtain ⟨rfl, -⟩ := List.cons.inj hu
        exact hp (hv.inside p u rfl)
  · rintro ⟨hn, hleast⟩
    obtain ⟨v, rest, rfl, rfl, hv⟩ := (closesAt_iff quote s n).1 hn
    refine ⟨v, rest, rfl, rfl, fun p t hp => ?_, hv⟩
    obtain rfl := hp
    by_contra hescapes
    have hle := hleast ((closesAt_iff quote _ _).2
      ⟨p, t ++ quote :: rest, List.append_assoc _ _ _, rfl, hescapes⟩)
    rw [List.length_append, List.length_cons] at hle
    omega

theorem closingQuote?_eq_none_iff (quote : Char) (s : Text) :
    closingQuote? (quote :: s) = none ↔ ∀ i, ¬ ClosesAt (quote :: s) i := by
  classical
  constructor
  · intro hnone i hi
    have hsome := (closingQuote?_eq_some_iff_isLeast quote s _).2 (Nat.isLeast_find ⟨i, hi⟩)
    rw [hnone] at hsome
    exact nomatch hsome
  · intro h
    refine Option.eq_none_iff_forall_ne_some.2 fun n hn => ?_
    exact h n ((closingQuote?_eq_some_iff_isLeast quote s n).1 hn).1

/-- Between quotes of another sort a backslash is a character like any other. -/
theorem closingFrom_of_ne {quote : Char} (h : quote ≠ '"') (s : Text) :
    closingFrom quote false s = s.idxOf? quote := by
  induction s with
  | nil => rfl
  | cons c s ih =>
    have hflag : (!false && (c = '\\' && quote = '"')) = false := by simp [h]
    rw [closingFrom_cons, hflag, ih, List.idxOf?_cons]
    simp

/-- **The closing quote is found exactly**: at the first position where the quotation can close, or
nowhere if there is none. Unless the text begins with a double quote, this is the next occurrence of
its first character. -/
theorem closingQuote?_exact (quote : Char) (s : Text) :
    (∀ i, closingQuote? (quote :: s) = some i ↔ IsLeast {i | ClosesAt (quote :: s) i} i) ∧
    (closingQuote? (quote :: s) = none ↔ ∀ i, ¬ ClosesAt (quote :: s) i) ∧
    (quote ≠ '"' → closingQuote? (quote :: s) = (s.idxOf? quote).map (· + 1)) := by
  refine ⟨closingQuote?_eq_some_iff_isLeast quote s, closingQuote?_eq_none_iff quote s, fun h => ?_⟩
  rw [closingQuote?, closingFrom_of_ne h]

/-- An escaped quote, and two backslashes in front of the one that closes, which is not the last. In
front of a single quote a backslash does not matter. -/
theorem closingQuote?_exact_of_backslashes :
    IsLeast {i | ClosesAt "\"a\\\"b\\\\\" # \"" i} 7 ∧ closingQuote? "'a\\'b'" = some 3 := by
  refine ⟨((closingQuote?_exact '"' _).1 7).1 (by decide), ?_⟩
  exact ((closingQuote?_exact '\'' _).2.2 (by decide)).trans (by decide)

end OpsLint.Env

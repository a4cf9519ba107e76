import Mathlib.Data.List.Forall2
import Mathlib.Data.List.Nodup
import OpsLint.Report

/-!
# Stable sorting

The result of a run is sorted twice: the reports by their paths, and the diagnostics by file, line,
column and rule. Both sorts are stable, and a few facts about stable sorts carry what is proved
about results.

A list whose keys are pairwise different has **one** sorted arrangement, so it does not matter in
which order its elements have arrived (`mergeSort_eq_of_perm`). A stable sort **commutes with
leaving elements out** (`filter_mergeSort`): the elements that stay keep their order among
themselves, also where their keys are the same. And it **refines the order it finds**
(`pairwise_mergeSort_then`): where the keys do not tell, elements stay as an earlier sort, or the
order of their arrival, has put them. Whatever the keys leave out cannot be seen in the arrangement
at all (`forall₂_mergeSort`).
-/

namespace OpsLint

section

variable {α : Type} {le : α → α → Bool}
variable (trans : ∀ a b c, le a b → le b c → le a c) (total : ∀ a b, le a b || le b a)

include trans total

/-- Sorting one more element puts it behind what it may not precede, and before all the rest. -/
theorem mergeSort_cons_eq_filter (a : α) (l : List α) :
    (a :: l).mergeSort le
      = (l.mergeSort le).filter (!le a ·) ++ a :: (l.mergeSort le).filter (le a ·) := by
  obtain ⟨l₁, l₂, hal, hl, h₁⟩ := List.mergeSort_cons trans total a l
  have hsorted := List.pairwise_mergeSort trans total (a :: l)
  rw [hal] at hsorted
  -- one comparison with `a` tells the two sides of the sorted list apart
  have h₂ : ∀ b ∈ l₂, le a b = true :=
    (List.pairwise_cons.1 (List.pairwise_append.1 hsorted).2.1).1
  have hbefore : (l₁ ++ l₂).filter (!le a ·) = l₁ := by
    rw [List.filter_append, List.filter_eq_self.2 h₁,
      List.filter_eq_nil_iff.2 (fun b hb => by simp [h₂ b hb]), List.append_nil]
  have hafter : (l₁ ++ l₂).filter (le a ·) = l₂ := by
    rw [List.filter_append, List.filter_eq_self.2 h₂,
      List.filter_eq_nil_iff.2 (fun b hb => by simpa using h₁ b hb), List.nil_append]
  rw [hal, hl, hbefore, hafter]

/-- **A stable sort commutes with leaving elements out.** -/
theorem filter_mergeSort (keep : α → Bool) (l : List α) :
    (l.mergeSort le).filter keep = (l.filter keep).mergeSort le := by
  induction l with
  | nil => simp
  | cons a l ih =>
    by_cases ha : keep a = true
    · have hcomm : ∀ q : α → Bool, ((l.mergeSort le).filter q).filter keep
          = ((l.filter keep).mergeSort le).filter q := by
        intro q
        rw [List.filter_filter, ← ih, List.filter_filter]
        exact List.filter_congr (fun b _ => Bool.and_comm _ _)
      rw [mergeSort_cons_eq_filter trans total, List.filter_append, hcomm,
        List.filter_cons_of_pos ha, List.filter_cons_of_pos ha, hcomm,
        ← mergeSort_cons_eq_filter trans total]
    · -- an element that is left out may stand anywhere
      obtain ⟨l₁, l₂, hal, hl, -⟩ := List.mergeSort_cons trans total a l
      rw [hal, List.filter_append, List.filter_cons_of_neg ha, ← List.filter_append, ← hl, ih,
        List.filter_cons_of_neg ha]

end

/-- Of two elements one may stand before the other, whatever they are compared by. -/
theorem isLE_or_isLE_swap {α : Type} (order : α → α → Ordering) [Std.OrientedCmp order] (a b : α) :
    (order a b).isLE || (order b a).isLE := by
  have hswap : order b a = (order a b).swap := Std.OrientedCmp.eq_swap
  rw [hswap]
  cases order a b <;> rfl

/-- **A sort looks at nothing but the order.** Lists that agree element by element, in a sense that
the order cannot tell, still do when they are sorted. -/
theorem forall₂_mergeSort {α β : Type} {R : α → β → Prop} {le : α → α → Bool} {le' : β → β → Bool}
    (hle : ∀ a a' b b', R a a' → R b b' → le a b = le' a' b') {l : List α} {l' : List β}
    (h : List.Forall₂ R l l') : List.Forall₂ R (l.mergeSort le) (l'.mergeSort le') := by
  obtain ⟨hlength, hzip⟩ := List.forall₂_iff_zip.1 h
  -- both sorts are the sort of the pairs, seen from its two sides
  let pairs := (l.zip l').mergeSort fun p q => le p.1 q.1
  have hfst : pairs.map Prod.fst = l.mergeSort le := by
    rw [List.map_mergeSort (s := le) fun _ _ _ _ => rfl, List.map_fst_zip (Nat.le_of_eq hlength)]
  have hsnd : pairs.map Prod.snd = l'.mergeSort le' := by
    rw [List.map_mergeSort (s := le') fun p hp q hq => hle _ _ _ _ (hzip hp) (hzip hq),
      List.map_snd_zip (Nat.le_of_eq hlength.symm)]
  rw [← hfst, ← hsnd, List.forall₂_map_left_iff, List.forall₂_map_right_iff, List.forall₂_same]
  exact fun p hp => hzip (List.mem_mergeSort.1 hp)

/-- **A stable sort refines the order it finds.** Elements that are sorted by `second` and then
stably by a key are sorted by the key first, and by `second` where the key does not tell. -/
theorem pairwise_mergeSort_then {α κ : Type} {order : κ → κ → Ordering} [Std.TransCmp order]
    (key : α → κ) {second : α → α → Ordering} {l : List α}
    (h : l.Pairwise (fun a b => second a b = .lt)) :
    (l.mergeSort (fun a b => (order (key a) (key b)).isLE)).Pairwise
      (fun a b => (order (key a) (key b)).then (second a b) = .lt) := by
  have htrans : ∀ a b c, (order (key a) (key b)).isLE → (order (key b) (key c)).isLE →
      (order (key a) (key c)).isLE :=
    fun a b c hab hbc => Std.TransCmp.isLE_trans hab hbc
  have htotal : ∀ a b, (order (key a) (key b)).isLE || (order (key b) (key a)).isLE :=
    fun a b => isLE_or_isLE_swap order (key a) (key b)
  induction l with
  | nil => rw [List.mergeSort_nil]; exact .nil
  | cons a l ih =>
    obtain ⟨ha, hl⟩ := List.pairwise_cons.1 h
    have hsorted := ih hl
    rw [mergeSort_cons_eq_filter htrans htotal]
    refine List.pairwise_append.2 ⟨hsorted.filter _, List.pairwise_cons.2 ⟨fun b hb => ?_,
      hsorted.filter _⟩, fun b hb c hc => ?_⟩
    · -- what stands after `a` with the same key stood after it before
      obtain ⟨hb, hab⟩ := List.mem_filter.1 hb
      rw [Ordering.then_eq_lt]
      cases hcompare : order (key a) (key b) with
      | lt => exact .inl rfl
      | eq => exact .inr ⟨rfl, ha b (List.mem_mergeSort.1 hb)⟩
      | gt => rw [hcompare] at hab; exact nomatch hab
    · -- what stands before `a` is less, and so is less than all that `a` may precede
      obtain ⟨-, hba⟩ := List.mem_filter.1 hb
      have hlt : order (key b) (key a) = .lt := by
        have hswap : order (key b) (key a) = (order (key a) (key b)).swap :=
          Std.OrientedCmp.eq_swap
        rw [hswap]
        cases hcompare : order (key a) (key b) with
        | gt => rfl
        | lt => rw [hcompare] at hba; exact nomatch hba
        | eq => rw [hcompare] at hba; exact nomatch hba
      rw [Ordering.then_eq_lt]
      rcases List.mem_cons.1 hc with rfl | hc
      · exact .inl hlt
      · exact .inl (Std.TransCmp.lt_of_lt_of_isLE hlt (List.mem_filter.1 hc).2)

/-! ## The two orders of a result -/

namespace FileReport

theorem le_trans (a b c : FileReport) (hab : le a b) (hbc : le b c) : le a c :=
  Std.TransCmp.isLE_trans hab hbc

theorem le_total (a b : FileReport) : le a b || le b a :=
  isLE_or_isLE_swap (compareOn path) a b

/-- **Reports with pairwise different paths have one sorted arrangement.** -/
theorem mergeSort_eq_of_perm {rs rs' : List FileReport} (hperm : rs.Perm rs')
    (hpaths : (rs.map path).Nodup) : rs.mergeSort le = rs'.mergeSort le := by
  have hp := List.mergeSort_perm rs le
  have hp' := List.mergeSort_perm rs' le
  refine List.Perm.eq_of_pairwise (fun a b ha hb hab hba => ?_)
    (List.pairwise_mergeSort le_trans le_total rs) (List.pairwise_mergeSort le_trans le_total rs')
    (hp.trans (hperm.trans hp'.symm))
  -- reports that may stand in either order have one path, and so are one report
  have hsame : a.path = b.path :=
    Std.LawfulEqCmp.eq_of_compare (Std.OrientedCmp.isLE_antisymm hab hba)
  exact List.inj_on_of_nodup_map hpaths (hp.mem_iff.1 ha) ((hperm.trans hp'.symm).mem_iff.2 hb)
    hsame

end FileReport

namespace Diagnostic

instance : Std.TransCmp order :=
  inferInstanceAs (Std.TransCmp (compareLex (compareOn path)
    (compareLex (compareOn line) (compareLex (compareOn column) (compareOn ruleId)))))

theorem le_trans (a b c : Diagnostic) (hab : le a b) (hbc : le b c) : le a c :=
  Std.TransCmp.isLE_trans hab hbc

theorem le_total (a b : Diagnostic) : le a b || le b a :=
  isLE_or_isLE_swap order a b

end Diagnostic

end OpsLint

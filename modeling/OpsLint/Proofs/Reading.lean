import Mathlib.Data.List.Induction
import OpsLint.Reading

/-!
# What a reading keeps

All formats are read by a step on one line, folded over the lines. So what holds of a reading is
proved from what one step does: a property of the state that every step keeps, and a property of the
items that every step makes, hold after any number of lines (`Reading.forall_ofLines`).

Both properties may speak of the lines read so far. Items stay, and the file they are part of grows,
so what is said of an item has to go on holding when there are more lines.

A file can also be cut in two. The second part is then read from the state that the first has led to
(`Reading.items_ofLines_append`), with line numbers that are greater by the length of the first; for
a step that does not care about the numbers themselves this makes no other difference
(`Reading.onward_shift`).

A first use of it is about **line numbers**. A step that takes every number it stores from the state
before it, or from the line it reads, stores only numbers of lines (`Reading.isLineNumber_ofLines`).
If it also completes one thing at a time, things are completed in the order of the lines
(`Reading.pairwise_ofLines`).
-/

namespace OpsLint

namespace Reading

variable {State Item : Type} (step : LineStep State Item) (start : State)

theorem ofLines_concat (lines : List Text) (l : Text) :
    ofLines step start (lines ++ [l]) = next step (ofLines step start lines) l :=
  List.foldl_append

@[simp] theorem count_ofLines (lines : List Text) :
    (ofLines step start lines).count = lines.length := by
  induction lines using List.reverseRecOn with
  | nil => rfl
  | append_singleton lines l ih =>
    rw [ofLines_concat, List.length_append, ← ih]
    rfl

theorem state_ofLines_concat (lines : List Text) (l : Text) :
    (ofLines step start (lines ++ [l])).state
      = (step (lines.length + 1) l (ofLines step start lines).state).1 := by
  rw [ofLines_concat, ← count_ofLines step start lines]
  rfl

/-- A further line adds its items to those before it. -/
theorem items_ofLines_concat (lines : List Text) (l : Text) :
    (ofLines step start (lines ++ [l])).items
      = (ofLines step start lines).items
        ++ (step (lines.length + 1) l (ofLines step start lines).state).2 := by
  rw [ofLines_concat, ← count_ofLines step start lines]
  unfold items next
  dsimp only
  rw [List.reverse_append, List.reverse_reverse]

/-- What a line completes is found in the file. -/
theorem mem_items_of_mem_step {lines before : List Text} {raw : Text}
    (h : before ++ [raw] <+: lines) {item : Item}
    (hitem : item ∈ (step (before.length + 1) raw (ofLines step start before).state).2) :
    item ∈ (ofLines step start lines).items := by
  obtain ⟨rest, rfl⟩ := h
  induction rest using List.reverseRecOn with
  | nil =>
    rw [List.append_nil, items_ofLines_concat]
    exact List.mem_append_right _ hitem
  | append_singleton rest l ih =>
    rw [← List.append_assoc, items_ofLines_concat]
    exact List.mem_append_left _ ih

/-- What is found in a file has been completed by one of its lines. -/
theorem exists_step_of_mem_items {lines : List Text} {item : Item}
    (h : item ∈ (ofLines step start lines).items) :
    ∃ before raw, before ++ [raw] <+: lines ∧
      item ∈ (step (before.length + 1) raw (ofLines step start before).state).2 := by
  induction lines using List.reverseRecOn with
  | nil => exact nomatch h
  | append_singleton lines l ih =>
    rw [items_ofLines_concat] at h
    rcases List.mem_append.1 h with h | h
    · obtain ⟨before, raw, hprefix, hitem⟩ := ih h
      exact ⟨before, raw, hprefix.trans (List.prefix_append lines [l]), hitem⟩
    · exact ⟨lines, l, List.prefix_rfl, h⟩

/-- **What every step keeps holds of a reading.** -/
theorem forall_ofLines (inv : List Text → State → Prop) (good : List Text → Item → Prop)
    (hstart : inv [] start)
    (hmono : ∀ lines l item, good lines item → good (lines ++ [l]) item)
    (hstate : ∀ lines l st, inv lines st → inv (lines ++ [l]) (step (lines.length + 1) l st).1)
    (hitems : ∀ lines l st, inv lines st →
      ∀ item ∈ (step (lines.length + 1) l st).2, good (lines ++ [l]) item)
    (lines : List Text) :
    inv lines (ofLines step start lines).state ∧
      ∀ item ∈ (ofLines step start lines).items, good lines item := by
  induction lines using List.reverseRecOn with
  | nil => exact ⟨hstart, fun item hitem => nomatch hitem⟩
  | append_singleton lines l ih =>
    obtain ⟨hinv, hgood⟩ := ih
    rw [state_ofLines_concat, items_ofLines_concat]
    refine ⟨hstate lines l _ hinv, fun item hitem => ?_⟩
    rcases List.mem_append.1 hitem with hitem | hitem
    · exact hmono lines l item (hgood item hitem)
    · exact hitems lines l _ hinv item hitem

/-- **Reading without a state** is reading the numbered lines one by one. -/
theorem items_ofLines_stateless (read : Nat → Text → Option Item) (lines : List Text) :
    (ofLines (fun line raw (_ : Unit) => ((), (read line raw).toList)) () lines).items
      = (lines.zipIdx 1).filterMap (fun t => read t.2 t.1) := by
  induction lines using List.reverseRecOn with
  | nil => rfl
  | append_singleton lines l ih =>
    have hlast : [(l, lines.length + 1)].filterMap (fun t => read t.2 t.1)
        = (read (lines.length + 1) l).toList := by
      rw [List.filterMap_cons, List.filterMap_nil]
      cases read (lines.length + 1) l <;> rfl
    rw [items_ofLines_concat, ih, List.zipIdx_append, List.filterMap_append, List.zipIdx_singleton,
      Nat.add_comm 1, hlast]

/-! ## Reading on -/

/-- Reads lines from a state on, when so many lines have been read. -/
def onward (count : Nat) (state : State) (lines : List Text) : Reading State Item :=
  lines.foldl (next step) { state, count }

/-- What was found before is kept, and matters to nothing. -/
theorem foldl_next (r : Reading State Item) (lines : List Text) :
    lines.foldl (next step) r
      = { onward step r.count r.state lines with
          found := (onward step r.count r.state lines).found ++ r.found } := by
  unfold onward
  induction lines generalizing r with
  | nil => rfl
  | cons l lines ih =>
    rw [List.foldl_cons, List.foldl_cons, ih (next step r l), ih (next step _ l)]
    simp [next]

theorem state_onward_cons (count : Nat) (st : State) (l : Text) (lines : List Text) :
    (onward step count st (l :: lines)).state
      = (onward step (count + 1) (step (count + 1) l st).1 lines).state := by
  unfold onward
  rw [List.foldl_cons, foldl_next]
  rfl

theorem items_onward_cons (count : Nat) (st : State) (l : Text) (lines : List Text) :
    (onward step count st (l :: lines)).items
      = (step (count + 1) l st).2
        ++ (onward step (count + 1) (step (count + 1) l st).1 lines).items := by
  unfold onward items
  rw [List.foldl_cons, foldl_next]
  simp [next, onward]

theorem state_ofLines_append (a b : List Text) :
    (ofLines step start (a ++ b)).state
      = (onward step a.length (ofLines step start a).state b).state := by
  rw [← count_ofLines step start a]
  unfold ofLines
  rw [List.foldl_append, foldl_next]

/-- **Reading two lists of lines** is reading the second from where the first has led. -/
theorem items_ofLines_append (a b : List Text) :
    (ofLines step start (a ++ b)).items
      = (ofLines step start a).items
        ++ (onward step a.length (ofLines step start a).state b).items := by
  rw [← count_ofLines step start a]
  unfold ofLines items
  rw [List.foldl_append, foldl_next]
  exact List.reverse_append

/-- **A step that does the same further down does so for any number of lines.** What it has to do so
for are the lines yet to be read. -/
theorem onward_shift {step : LineStep State Item} {n : Nat} {shiftState : State → State}
    {shiftItem : Item → Item} (count : Nat)
    (hstep : ∀ line l st, count < line → step (line + n) l (shiftState st)
      = (shiftState (step line l st).1, (step line l st).2.map shiftItem))
    (st : State) (lines : List Text) :
    (onward step (count + n) (shiftState st) lines).state
        = shiftState (onward step count st lines).state ∧
      (onward step (count + n) (shiftState st) lines).items
        = (onward step count st lines).items.map shiftItem := by
  induction lines generalizing count st with
  | nil => exact ⟨rfl, rfl⟩
  | cons l lines ih =>
    have hline : step (count + n + 1) l (shiftState st)
        = (shiftState (step (count + 1) l st).1, (step (count + 1) l st).2.map shiftItem) := by
      rw [Nat.add_right_comm]
      exact hstep (count + 1) l st (Nat.lt_succ_self count)
    obtain ⟨hstate, hitems⟩ := ih (count + 1)
      (fun line l st hline => hstep line l st (Nat.lt_of_succ_lt hline)) (step (count + 1) l st).1
    rw [Nat.add_right_comm] at hstate hitems
    refine ⟨?_, ?_⟩
    · rw [state_onward_cons, state_onward_cons, hline]
      exact hstate
    · rw [items_onward_cons, items_onward_cons, List.map_append, hline]
      exact congrArg _ hitems

/-- What every step keeps that reads a line of some sort holds after lines of this sort. -/
theorem state_ofLines_of_forall (inv : State → Prop) {good : Text → Prop} (hstart : inv start)
    (hstep : ∀ line l st, good l → inv st → inv (step line l st).1) {lines : List Text}
    (hlines : ∀ l ∈ lines, good l) : inv (ofLines step start lines).state := by
  induction lines using List.reverseRecOn with
  | nil => exact hstart
  | append_singleton lines l ih =>
    rw [state_ofLines_concat]
    exact hstep _ l _ (hlines l (by simp)) (ih fun l' hl' => hlines l' (by simp [hl']))

end Reading

/-! ## Line numbers -/

/-- The number of a line of a file with so many lines. -/
def IsLineNumber (count n : Nat) : Prop := 1 ≤ n ∧ n ≤ count

theorem IsLineNumber.mono {count count' n : Nat} (h : IsLineNumber count n)
    (hle : count ≤ count') : IsLineNumber count' n :=
  ⟨h.1, Nat.le_trans h.2 hle⟩

/-- All line numbers in a state and in some items are among given ones. -/
structure DrawnFrom {State Item : Type} (ofState : State → List Nat) (ofItem : Item → List Nat)
    (given : List Nat) (r : State × List Item) : Prop where
  state : ∀ n ∈ ofState r.1, n ∈ given
  items : ∀ item ∈ r.2, ∀ n ∈ ofItem item, n ∈ given

namespace DrawnFrom

variable {State Item : Type} {ofState : State → List Nat} {ofItem : Item → List Nat}
variable {given : List Nat} {st : State}

/-- A line that completes nothing. -/
theorem nothing (hst : ∀ n ∈ ofState st, n ∈ given) : DrawnFrom ofState ofItem given (st, []) :=
  ⟨hst, fun _ hitem => nomatch hitem⟩

/-- A line that completes one item. -/
theorem item {item : Item} (hst : ∀ n ∈ ofState st, n ∈ given)
    (hitem : ∀ n ∈ ofItem item, n ∈ given) : DrawnFrom ofState ofItem given (st, [item]) :=
  ⟨hst, fun _ h => List.mem_singleton.1 h ▸ hitem⟩

end DrawnFrom

namespace Reading

variable {State Item : Type} {step : LineStep State Item} {start : State}
variable {ofState : State → List Nat} {ofItem : Item → List Nat}

/-- **A step that makes up no line number stores numbers of lines only.** -/
theorem isLineNumber_ofLines (hstart : ofState start = [])
    (hstep : ∀ line l st, DrawnFrom ofState ofItem (line :: ofState st) (step line l st))
    (lines : List Text) :
    (∀ n ∈ ofState (ofLines step start lines).state, IsLineNumber lines.length n) ∧
      ∀ item ∈ (ofLines step start lines).items, ∀ n ∈ ofItem item,
        IsLineNumber lines.length n := by
  have hgiven : ∀ count st, (∀ n ∈ ofState st, IsLineNumber count n) →
      ∀ n ∈ (count + 1) :: ofState st, IsLineNumber (count + 1) n := by
    intro count st hst n hn
    rcases List.mem_cons.1 hn with rfl | hn
    · exact ⟨Nat.le_add_left 1 count, Nat.le_refl _⟩
    · exact (hst n hn).mono (Nat.le_succ count)
  refine forall_ofLines step start (fun lines st => ∀ n ∈ ofState st, IsLineNumber lines.length n)
    (fun lines item => ∀ n ∈ ofItem item, IsLineNumber lines.length n) ?_ ?_ ?_ ?_ lines
  · rw [hstart]
    exact fun n hn => nomatch hn
  · exact fun lines l item h n hn => (h n hn).mono (by simp)
  · intro lines l st hst n hn
    rw [List.length_append]
    exact hgiven lines.length st hst n ((hstep _ l st).state n hn)
  · intro lines l st hst item hitem n hn
    rw [List.length_append]
    exact hgiven lines.length st hst n ((hstep _ l st).items item hitem n hn)

/-- The same with what is completed at the end of the file. This may have the number of the last
line, if the state shows by a number of its own that there is one. -/
theorem isLineNumber_append (hstart : ofState start = [])
    (hstep : ∀ line l st, DrawnFrom ofState ofItem (line :: ofState st) (step line l st))
    {lines : List Text} {finished : List Item}
    (hfinished : ∀ item ∈ finished, ∀ n ∈ ofItem item,
      n ∈ ofState (ofLines step start lines).state ∨
        n = lines.length ∧ ∃ k, k ∈ ofState (ofLines step start lines).state)
    {n : Nat} (h : ∃ item ∈ (ofLines step start lines).items ++ finished, n ∈ ofItem item) :
    IsLineNumber lines.length n := by
  obtain ⟨hstate, hitems⟩ := isLineNumber_ofLines hstart hstep lines
  obtain ⟨item, hitem, hn⟩ := h
  rcases List.mem_append.1 hitem with hitem | hitem
  · exact hitems item hitem n hn
  · rcases hfinished item hitem n hn with hn | ⟨rfl, k, hk⟩
    · exact hstate n hn
    · exact ⟨Nat.le_trans (hstate k hk).1 (hstate k hk).2, Nat.le_refl _⟩

end Reading

/-! ## The order of items -/

/-- Of two elements of an ordered list one comes first. -/
theorem eq_or_rel_of_pairwise {α : Type} {R : α → α → Prop} {l : List α} (h : l.Pairwise R)
    {a b : α} (ha : a ∈ l) (hb : b ∈ l) : a = b ∨ R a b ∨ R b a := by
  refine List.Pairwise.forall_of_forall_of_flip (R := fun a b => a = b ∨ R a b ∨ R b a)
    (fun _ _ => .inl rfl) ?_ ?_ ha hb
  · exact h.imp fun hab => .inr (.inl hab)
  · exact h.imp fun hab => .inr (.inr hab)

/-- Every line number in one item is smaller than every line number in another. -/
def Before {Item : Type} (ofItem : Item → List Nat) (a b : Item) : Prop :=
  ∀ m ∈ ofItem a, ∀ n ∈ ofItem b, m < n

namespace Reading

variable {State Item : Type} {step : LineStep State Item} {start : State}
variable {ofState : State → List Nat} {ofItem : Item → List Nat}

/-- **A step that completes one thing at a time completes things in the order of the lines**, and
what is open comes after all of them. -/
theorem pairwise_ofLines (hstart : ofState start = [])
    (hstep : ∀ line l st, DrawnFrom ofState ofItem (line :: ofState st) (step line l st))
    (hone : ∀ line l st, (step line l st).2 = [] ∨
      ∃ item, (step line l st).2 = [item] ∧ ofState (step line l st).1 = [])
    (lines : List Text) :
    (ofLines step start lines).items.Pairwise (Before ofItem) ∧
      ∀ item ∈ (ofLines step start lines).items, ∀ m ∈ ofItem item,
        ∀ n ∈ ofState (ofLines step start lines).state, m < n := by
  induction lines using List.reverseRecOn with
  | nil => exact ⟨.nil, fun item hitem => nomatch hitem⟩
  | append_singleton lines l ih =>
    obtain ⟨hpairwise, hopen⟩ := ih
    obtain ⟨-, hnumbers⟩ := isLineNumber_ofLines hstart hstep lines
    rw [state_ofLines_concat, items_ofLines_concat]
    generalize (ofLines step start lines).state = st at hopen ⊢
    -- whatever a line stores or hands out is after all that was complete before it
    have hlater : ∀ item ∈ (ofLines step start lines).items, ∀ m ∈ ofItem item,
        ∀ n ∈ (lines.length + 1) :: ofState st, m < n := by
      intro item hitem m hm n hn
      rcases List.mem_cons.1 hn with rfl | hn
      · exact Nat.lt_succ_of_le (hnumbers item hitem m hm).2
      · exact hopen item hitem m hm n hn
    have hdrawn := hstep (lines.length + 1) l st
    rcases hone (lines.length + 1) l st with hnone | ⟨item, hitem, hclosed⟩
    · rw [hnone, List.append_nil]
      exact ⟨hpairwise, fun item hitem m hm n hn => hlater item hitem m hm n (hdrawn.state n hn)⟩
    · rw [hclosed]
      refine ⟨List.pairwise_append.2 ⟨hpairwise, ?_, fun a ha b hb m hm n hn => ?_⟩, by simp⟩
      · rw [hitem]
        exact List.pairwise_singleton _ item
      · exact hlater a ha m hm n (hdrawn.items b hb n hn)

end Reading

end OpsLint

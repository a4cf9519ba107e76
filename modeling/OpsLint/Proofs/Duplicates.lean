import OpsLint.Rule.Registry

/-!
# Duplicates are reported exactly

Two rules look for what is defined more than once: keys of an environment file, and targets of a
makefile. Both go through a list and keep the **first** element of each key. The result is the same
as if each element were compared with all those before it (`AreRepeats`): every element whose key
has occurred is reported, once and in its place, together with the first element of this key. So a
key that occurs `n` times is reported `n - 1` times.

Some elements do not count, neither as repeated nor as first ones. In a makefile these are the
targets with two colons.
-/

namespace OpsLint

section

variable {α κ : Type} [BEq κ]

/-- The first of some elements that counts and has a key. -/
def firstOf? (counts : α → Bool) (key : α → κ) (k : κ) (xs : List α) : Option α :=
  xs.find? fun x => counts x && key x == k

/-- **The repeated elements of a list**, each with the first of its key: the elements that count and
have a key which has occurred before, in order. -/
structure AreRepeats (counts : α → Bool) (key : α → κ) (xs : List α) (found : List (α × α)) :
    Prop where
  listed : found = xs.zipIdx.filterMap fun t =>
    if counts t.1 then (firstOf? counts key (key t.1) (xs.take t.2)).map (Prod.mk t.1) else none
  count : ∀ x ∈ xs, counts x = true →
    found.countP (fun t => key t.1 == key x) + 1 = xs.countP fun y => counts y && key y == key x

variable {counts : α → Bool} {key : α → κ}

theorem firstOf?_concat (k : κ) (xs : List α) (x : α) :
    firstOf? counts key k (xs ++ [x])
      = (firstOf? counts key k xs).or (if counts x && key x == k then some x else none) := by
  rw [firstOf?, List.find?_append, List.find?_singleton]
  rfl

/-- An element is looked for among the first elements in place of all. -/
def SameFirsts (counts : α → Bool) (key : α → κ) (firsts before : List α) : Prop :=
  ∀ k, firsts.find? (key · == k) = firstOf? counts key k before

theorem SameFirsts.concat_of_not_counts {firsts before : List α}
    (h : SameFirsts counts key firsts before) {x : α} (hx : counts x = false) :
    SameFirsts counts key firsts (before ++ [x]) := by
  intro k
  rw [firstOf?_concat, hx, h k]
  exact Option.or_none.symm

theorem SameFirsts.concat_of_none {firsts before : List α}
    (h : SameFirsts counts key firsts before) {x : α} (hx : counts x = true) :
    SameFirsts counts key (firsts ++ [x]) (before ++ [x]) := by
  intro k
  rw [firstOf?_concat, hx, Bool.true_and, List.find?_append, List.find?_singleton, h k]

variable [LawfulBEq κ]

theorem SameFirsts.concat_of_some {firsts before : List α}
    (h : SameFirsts counts key firsts before) {x first : α}
    (hfirst : firstOf? counts key (key x) before = some first) :
    SameFirsts counts key firsts (before ++ [x]) := by
  intro k
  rw [firstOf?_concat, h k]
  split
  · rename_i hk
    obtain rfl : key x = k := eq_of_beq (Bool.and_eq_true_iff.1 hk).2
    rw [hfirst]
    rfl
  · exact Option.or_none.symm

/-- **Keeping the first elements is as good as keeping all.** The induction is on the elements to
come; those read so far are held against the first elements among them. -/
theorem repeatsAfter_filter {firsts before : List α} (h : SameFirsts counts key firsts before)
    (xs : List α) :
    repeatsAfter key firsts (xs.filter counts)
      = (xs.zipIdx before.length).filterMap fun t =>
        if counts t.1 then
          (firstOf? counts key (key t.1) ((before ++ xs).take t.2)).map (Prod.mk t.1)
        else none := by
  induction xs generalizing firsts before with
  | nil => rfl
  | cons x xs ih =>
    have hlength : before.length + 1 = (before ++ [x]).length := by simp
    have hsplit : before ++ x :: xs = (before ++ [x]) ++ xs := by simp
    rw [List.zipIdx_cons, List.filterMap_cons]
    dsimp only
    rw [List.take_left, hlength, hsplit]
    cases hx : counts x with
    | false =>
      rw [List.filter_cons_of_neg (ne_true_of_eq_false hx)]
      exact ih (h.concat_of_not_counts hx)
    | true =>
      rw [List.filter_cons_of_pos hx, repeatsAfter, h (key x)]
      cases hfirst : firstOf? counts key (key x) before with
      | none => exact ih (h.concat_of_none hx)
      | some first => exact congrArg ((x, first) :: ·) (ih (h.concat_of_some hfirst))

/-- **How often a key is repeated**: every time, or every time but the first. -/
theorem countP_repeatsAfter (k : κ) (firsts xs : List α) :
    (repeatsAfter key firsts xs).countP (fun t => key t.1 == k)
      = if firsts.any (key · == k) then xs.countP (key · == k) else xs.countP (key · == k) - 1 := by
  induction xs generalizing firsts with
  | nil => exact (ite_self 0).symm
  | cons x xs ih =>
    rw [repeatsAfter]
    cases hfirst : firsts.find? (key · == key x) with
    | some first =>
      have hany : key x = k → firsts.any (key · == k) = true := by
        rintro rfl
        have hkey := List.find?_some hfirst
        exact List.any_eq_true.2 ⟨first, List.mem_of_find?_eq_some hfirst, hkey⟩
      dsimp only
      rw [List.countP_cons, List.countP_cons, ih]
      by_cases hk : key x = k
      · rw [hany hk, if_pos rfl, if_pos rfl]
      · rw [beq_eq_false_iff_ne.2 hk]
        rfl
    | none =>
      dsimp only
      rw [ih, List.any_append, List.any_cons, List.any_nil, Bool.or_false, List.countP_cons]
      by_cases hk : key x = k
      · have hnone : firsts.any (key · == k) = false := by
          rw [← hk, List.any_eq_false]
          exact List.find?_eq_none.1 hfirst
        rw [hnone, hk, beq_self_eq_true]
        rfl
      · rw [beq_eq_false_iff_ne.2 hk, Bool.or_false, if_neg Bool.false_ne_true]
        rfl

/-- **What is repeated among the elements that count.** -/
theorem areRepeats_repeats (counts : α → Bool) (key : α → κ) (xs : List α) :
    AreRepeats counts key xs (repeats key (xs.filter counts)) := by
  have hnone : SameFirsts counts key [] [] := fun _ => rfl
  refine ⟨repeatsAfter_filter hnone xs, fun x hx hcounts => ?_⟩
  have hmem : 0 < (xs.filter counts).countP (key · == key x) :=
    List.countP_pos_iff.2 ⟨x, List.mem_filter.2 ⟨hx, hcounts⟩, beq_self_eq_true _⟩
  have hcount : (xs.filter counts).countP (key · == key x)
      = xs.countP fun y => counts y && key y == key x := by
    rw [List.countP_filter]
    exact List.countP_congr fun y _ => by rw [Bool.and_comm]
  rw [repeats, countP_repeatsAfter, ← hcount]
  exact Nat.sub_add_cancel hmem

end

/-! ## The two rules -/

/-- What is said about an assignment whose key has been assigned before. -/
def Env.duplicateKey (t : Assignment × Assignment) : Finding :=
  { line := t.1.line
    message := "Key '" ++ t.1.key ++ "' is already defined on line " ++ Text.ofNat t.2.line }

/-- What is said about a target that has been defined before. -/
def Makefile.duplicateTarget (t : Target × Target) : Finding :=
  { line := t.1.line
    message := "Target '" ++ t.1.name ++ "' is already defined on line " ++ Text.ofNat t.2.line }

/-- **Duplicates are reported exactly.** The rule about keys reports the assignments whose key has
been assigned before, in order, each on its line and with the line of the first assignment of the
key; the rule about targets does so for the targets with one colon. -/
theorem check_duplicates (context : Rule.Context) :
    (∀ e : Env, ∃ rule found, Registry.standard.get? "env-duplicate-key" = some rule ∧
      AreRepeats (fun _ => true) Env.Assignment.key e.assignments found ∧
      rule.check context (.env e) = .ok (found.map Env.duplicateKey)) ∧
    ∀ m : Makefile, ∃ rule found, Registry.standard.get? "makefile-duplicate-target" = some rule ∧
      AreRepeats (fun t => !t.doubleColon) Makefile.Target.name m.targets found ∧
      rule.check context (.makefile m) = .ok (found.map Makefile.duplicateTarget) := by
  refine ⟨fun e => ⟨_, _, rfl, areRepeats_repeats _ _ _, ?_⟩,
    fun m => ⟨_, _, rfl, areRepeats_repeats _ _ _, rfl⟩⟩
  rw [List.filter_eq_self.2 fun _ _ => rfl]
  rfl

end OpsLint

import Mathlib.Data.List.Nodup
import OpsLint.Proofs.MakefileSeams

/-!
# The layout of a makefile

How the targets, recipes and problems of a makefile lie in its lines. Targets come in the order of
their lines. Those of one line have everything in common but their names, and their recipe lies
between that line and the next target. A recipe line, if it is not on the line of its rule, is a
line of the file that begins with a tab or continues the line before it. Problems are reported in
the order of the lines, each line at most once.

Where no line is continued and nothing is defined, **no recipe line is lost**: a line that begins
with a tab and says something is part of a recipe or is reported, and not both
(`layout_ofLines`).

All this is proved of the items first, which come one by one in the order of the lines
(`pairwise_items`). A target is a rule among the items, with the recipe lines between it and the
next rule (`mem_targetsOf`).
-/

namespace OpsLint.Makefile

/-! ## Items in the order of the lines -/

theorem completes_one {st : State} {line : Nat} {indented : Bool} {text : Text}
    {r : State × List Item} (h : Completes st line indented text r) :
    r.2 = [] ∨ ∃ item, r.2 = [item] ∧ r.1.lineNumbers = [] := by
  cases h with
  | conditional => exact .inl rfl
  | definition => exact .inl rfl
  | passed => exact .inl rfl
  | phony => exact .inr ⟨_, rfl, rfl⟩
  | rule => exact .inr ⟨_, rfl, rfl⟩
  | fault => exact .inr ⟨_, rfl, rfl⟩

/-- **A line completes one thing at a time**, and leaves no line open then. -/
theorem step_completes_one (line : Nat) (raw : Text) (st : State) :
    (step line raw st).2 = [] ∨
      ∃ item, (step line raw st).2 = [item] ∧ (step line raw st).1.lineNumbers = [] := by
  have hfresh : st.phase = .fresh → st.lineNumbers = [] := fun h => by rw [State.lineNumbers, h]
  have hreads := reads_step line raw st
  generalize step line raw st = r at hreads
  cases hreads with
  | skipped => exact .inl rfl
  | endsDefinition => exact .inl rfl
  | recipe => exact .inr ⟨_, rfl, by cases isContinued raw <;> rfl⟩
  | ignored => exact .inl rfl
  | strayRecipe h => exact .inr ⟨_, rfl, hfresh h⟩
  | spacesForTab h => exact .inr ⟨_, rfl, hfresh h⟩
  | continued => exact .inl rfl
  | completed _ _ hr => exact completes_one hr

theorem pairwise_finish (st : State) : st.finish.Pairwise (Before Item.lineNumbers) := by
  unfold State.finish
  split
  · rcases completes_one (completes_complete st _ _ _) with h | ⟨item, h, -⟩
    · rw [h]
      exact .nil
    · rw [h]
      exact List.pairwise_singleton _ item
  · exact .nil

/-- **The items of a makefile come in the order of the lines.** -/
theorem pairwise_items (lines : List Text) : (items lines).Pairwise (Before Item.lineNumbers) := by
  obtain ⟨hread, hopen⟩ := Reading.pairwise_ofLines (rfl : State.lineNumbers {} = [])
    drawnFrom_step step_completes_one lines
  refine List.pairwise_append.2 ⟨hread, pairwise_finish _, fun a ha b hb m hm n hn => ?_⟩
  exact hopen a ha m hm n (mem_lineNumbers_of_mem_finish hb hn)

/-! ## Where items come from -/

/-- The names of a rule are not blank. -/
theorem names_ne_nil_of_ruleLine? {text : Text} {rule : RuleLine} (h : ruleLine? text = some rule) :
    rule.names ≠ [] := by
  obtain ⟨⟨names, doubleColon, rest⟩, hsplit, rfl⟩ := Option.map_eq_some_iff.1 h
  obtain ⟨-, ⟨first, hfirst, hblank⟩, -, -⟩ := (splitRule?_eq_some_iff _ _ _ _).1 hsplit
  obtain ⟨more, rfl⟩ := List.head?_eq_some_iff.1 hfirst
  show Text.words (first :: more) ≠ []
  rw [ne_eq, Text.words_eq_nil_iff, Text.trimLeft_cons_of_not_blank hblank]
  exact List.cons_ne_nil first more

/-- A line of a file that can be part of a recipe, and its number: it begins with a tab, or the line
before it is continued. -/
def IsRecipeLine (lines : List Text) (n : Nat) (raw : Text) : Prop :=
  ∃ before, before ++ [raw] <+: lines ∧ n = before.length + 1 ∧
    (raw.head? = some '\t' ∨ ∃ l, before.getLast? = some l ∧ isContinued l = true)

/-- What an item is made of: a rule has names, and a recipe line is a line of the file. -/
def Item.Sound (lines : List Text) : Item → Prop
  | .rule _ head => head.names ≠ []
  | .recipe n raw => IsRecipeLine lines n raw
  | _ => True

theorem sound_of_completes {st : State} {line : Nat} {indented : Bool} {text : Text}
    {r : State × List Item} (h : Completes st line indented text r) (lines : List Text) :
    ∀ item ∈ r.2, item.Sound lines := by
  cases h with
  | conditional => exact nofun
  | definition => exact nofun
  | passed => exact nofun
  | phony => exact List.forall_mem_singleton.2 trivial
  | rule _ h => exact List.forall_mem_singleton.2 (names_ne_nil_of_ruleLine? h)
  | fault => exact List.forall_mem_singleton.2 trivial

/-- A line is continued as part of a recipe only if it ends in a backslash. -/
def AtContinuation (lines : List Text) (st : State) : Prop :=
  st.phase = .recipe → ∃ l, lines.getLast? = some l ∧ isContinued l = true

theorem atContinuation_step (lines : List Text) (raw : Text) (st : State) :
    AtContinuation (lines ++ [raw]) (step (lines.length + 1) raw st).1 := by
  intro hphase
  have hahead := ahead_step (lines.length + 1) raw st
  rw [hphase] at hahead
  cases hahead with
  | recipe h => exact ⟨raw, by simp, h⟩

theorem sound_step {lines : List Text} {st : State} (hst : AtContinuation lines st) (raw : Text) :
    ∀ item ∈ (step (lines.length + 1) raw st).2, item.Sound (lines ++ [raw]) := by
  have hreads := reads_step (lines.length + 1) raw st
  generalize step (lines.length + 1) raw st = r at hreads
  cases hreads with
  | skipped => exact nofun
  | endsDefinition => exact nofun
  | recipe h =>
    refine List.forall_mem_singleton.2 ⟨lines, List.prefix_rfl, rfl, ?_⟩
    exact h.symm.imp (·.2.1) hst
  | ignored => exact nofun
  | strayRecipe => exact List.forall_mem_singleton.2 trivial
  | spacesForTab => exact List.forall_mem_singleton.2 trivial
  | continued => exact nofun
  | completed _ _ hr => exact sound_of_completes hr _

theorem Item.Sound.append {lines : List Text} {item : Item} (h : item.Sound lines) (l : Text) :
    item.Sound (lines ++ [l]) := by
  cases item with
  | rule line rule => exact h
  | recipe n raw =>
    obtain ⟨before, hprefix, hn, hraw⟩ := h
    exact ⟨before, hprefix.trans (List.prefix_append lines [l]), hn, hraw⟩
  | phony names => trivial
  | fault line problem => trivial

/-- **What the items of a makefile are made of.** -/
theorem sound_of_mem_items {lines : List Text} {item : Item} (h : item ∈ items lines) :
    item.Sound lines := by
  obtain ⟨-, hread⟩ := Reading.forall_ofLines step {} AtContinuation Item.Sound nofun
    (fun lines l item h => h.append l) (fun lines l st _ => atContinuation_step lines l st)
    (fun lines l st hst => sound_step hst l) lines
  rcases List.mem_append.1 h with h | h
  · exact hread item h
  · unfold State.finish at h
    split at h
    · exact sound_of_completes (completes_complete _ _ _ _) lines item h
    · exact nomatch h

/-! ## Rules and their recipes -/

/-- The recipe line that an item is. -/
def Item.recipe? : Item → Option RecipeLine
  | .recipe line raw => some { text := Text.trim raw, line }
  | _ => none

/-- The loose recipe lines are those before the first rule. -/
theorem looseRecipe_eq (items : List Item) :
    looseRecipe items = (items.takeWhile (!·.isRule)).filterMap Item.recipe? := by
  induction items with
  | nil => rfl
  | cons item items ih =>
    unfold looseRecipe at ih ⊢
    cases item with
    | rule line rule => rfl
    | recipe line raw => exact congrArg (_ :: ·) ih
    | phony names => exact ih
    | fault line problem => exact ih

theorem exists_item_of_mem_looseRecipe {items : List Item} {r : RecipeLine}
    (h : r ∈ looseRecipe items) : ∃ raw, .recipe r.line raw ∈ items ∧ r.text = Text.trim raw := by
  rw [looseRecipe_eq] at h
  obtain ⟨item, hitem, hr⟩ := List.mem_filterMap.1 h
  cases item with
  | recipe line raw =>
    rw [← Option.some.inj hr]
    exact ⟨raw, (List.takeWhile_sublist _).subset hitem, rfl⟩
  | _ => exact nomatch hr

theorem pairwise_looseRecipe {items : List Item} (h : items.Pairwise (Before Item.lineNumbers)) :
    (looseRecipe items).Pairwise fun r s => r.line < s.line := by
  rw [looseRecipe_eq]
  refine (h.sublist (List.takeWhile_sublist _)).filterMap _ fun a b hab r hr s hs => ?_
  cases a with
  | recipe line raw =>
    cases b with
    | recipe line' raw' =>
      rw [← Option.some.inj hr, ← Option.some.inj hs]
      exact hab line (List.mem_singleton_self _) line' (List.mem_singleton_self _)
    | _ => exact nomatch hs
  | _ => exact nomatch hr

/-- The recipe line that an item holds, if any. -/
def Item.command : Item → Text
  | .recipe _ raw => Text.trim raw
  | .rule _ head => (head.inline.map fun t => Text.trim t.1).getD []
  | _ => []

theorem inlineRecipe_eq (n : Nat) (rule : RuleLine) :
    inlineRecipe n rule
      = if (Item.command (.rule n rule)).isEmpty then []
        else [⟨Item.command (.rule n rule), n⟩] := by
  unfold inlineRecipe
  cases h : rule.inline with
  | none => simp [Item.command, h]
  | some t => simp [Item.command, h]

/-- The targets of a rule that is followed by given recipe lines. -/
def ruleTargets (line : Nat) (rule : RuleLine) (loose : List RecipeLine) : List Target :=
  rule.names.map fun name => {
    name, line
    prerequisites := rule.prerequisites
    recipe := inlineRecipe line rule ++ loose
    doubleColon := rule.doubleColon }

theorem targetsOf_rule (line : Nat) (rule : RuleLine) (items : List Item) :
    targetsOf (.rule line rule :: items)
      = ruleTargets line rule (looseRecipe items) ++ targetsOf items :=
  rfl

/-- **A target is a rule among the items**, with the recipe lines up to the next rule. -/
theorem mem_targetsOf {items : List Item} {t : Target} (h : t ∈ targetsOf items) :
    ∃ front line rule rest, items = front ++ .rule line rule :: rest ∧
      t ∈ ruleTargets line rule (looseRecipe rest) := by
  induction items with
  | nil => exact nomatch h
  | cons item items ih =>
    have hrest : t ∈ targetsOf items → ∃ front line rule rest,
        item :: items = front ++ .rule line rule :: rest ∧
          t ∈ ruleTargets line rule (looseRecipe rest) := by
      intro h
      obtain ⟨front, line, rule, rest, rfl, ht⟩ := ih h
      exact ⟨item :: front, line, rule, rest, rfl, ht⟩
    cases item with
    | rule line rule =>
      rcases List.mem_append.1 h with h | h
      · exact ⟨[], line, rule, items, rfl, h⟩
      · exact hrest h
    | recipe line raw => exact hrest h
    | phony names => exact hrest h
    | fault line problem => exact hrest h

theorem exists_rule_of_mem_targetsOf {items : List Item} {t : Target} (h : t ∈ targetsOf items) :
    ∃ rule, .rule t.line rule ∈ items := by
  obtain ⟨front, line, rule, rest, rfl, ht⟩ := mem_targetsOf h
  obtain ⟨name, -, rfl⟩ := List.mem_map.1 ht
  exact ⟨rule, List.mem_append_right front List.mem_cons_self⟩

/-- Every rule has a target, to which the recipe on its line belongs. -/
theorem exists_target_of_rule {items : List Item} {n : Nat} {rule : RuleLine}
    (h : .rule n rule ∈ items) (hnames : rule.names ≠ []) :
    ∃ t ∈ targetsOf items, t.line = n ∧ ∀ r ∈ inlineRecipe n rule, r ∈ t.recipe := by
  obtain ⟨front, rest, rfl⟩ := List.append_of_mem h
  obtain ⟨name, hname⟩ := List.exists_mem_of_ne_nil _ hnames
  rw [targetsOf_append front rfl, targetsOf_rule]
  exact ⟨_, List.mem_append_right _ (List.mem_append_left _ (List.mem_map_of_mem hname)), rfl,
    fun r hr => List.mem_append_left _ hr⟩

/-- A recipe line before the first rule is before every target. -/
theorem lt_of_mem_looseRecipe {items : List Item} (h : items.Pairwise (Before Item.lineNumbers))
    {r : RecipeLine} (hr : r ∈ looseRecipe items) {t : Target} (ht : t ∈ targetsOf items) :
    r.line < t.line := by
  induction items with
  | nil => exact nomatch hr
  | cons item items ih =>
    obtain ⟨hfirst, hitems⟩ := List.pairwise_cons.1 h
    cases item with
    | rule line rule => exact nomatch hr
    | recipe line raw =>
      rcases List.mem_cons.1 hr with rfl | hr
      · have ht : t ∈ targetsOf items := ht
        obtain ⟨rule, hrule⟩ := exists_rule_of_mem_targetsOf ht
        exact hfirst _ hrule line (List.mem_singleton_self _) _ (List.mem_singleton_self _)
      · exact ih hitems hr ht
    | phony names => exact ih hitems hr ht
    | fault line problem => exact ih hitems hr ht

/-- How a target lies to one that is listed after it. -/
structure Precedes (t u : Target) : Prop where
  le : t.line ≤ u.line
  shared : t.line = u.line →
    t.prerequisites = u.prerequisites ∧ t.recipe = u.recipe ∧ t.doubleColon = u.doubleColon
  recipe : t.line < u.line → ∀ r ∈ t.recipe, r.line < u.line

/-- **Targets in the order of the lines.** -/
theorem pairwise_targetsOf {items : List Item} (h : items.Pairwise (Before Item.lineNumbers)) :
    (targetsOf items).Pairwise Precedes := by
  induction items with
  | nil => exact .nil
  | cons item items ih =>
    obtain ⟨hfirst, hitems⟩ := List.pairwise_cons.1 h
    cases item with
    | rule line rule =>
      rw [targetsOf_rule]
      refine List.pairwise_append.2 ⟨?_, ih hitems, fun t ht u hu => ?_⟩
      · refine List.pairwise_map.2 (List.pairwise_of_forall fun _ _ => ?_)
        exact ⟨Nat.le_refl line, fun _ => ⟨rfl, rfl, rfl⟩, fun h => absurd h (Nat.lt_irrefl line)⟩
      · obtain ⟨name, -, rfl⟩ := List.mem_map.1 ht
        obtain ⟨rule', hrule'⟩ := exists_rule_of_mem_targetsOf hu
        have hlt : line < u.line :=
          hfirst _ hrule' line (List.mem_singleton_self _) _ (List.mem_singleton_self _)
        refine ⟨Nat.le_of_lt hlt, fun h => absurd h (Nat.ne_of_lt hlt), fun _ r hr => ?_⟩
        rcases List.mem_append.1 hr with hr | hr
        · rwa [line_of_mem_inlineRecipe hr]
        · exact lt_of_mem_looseRecipe hitems hr hu
    | recipe line raw => exact ih hitems
    | phony names => exact ih hitems
    | fault line problem => exact ih hitems

theorem pairwise_inlineRecipe (line : Nat) (rule : RuleLine) :
    (inlineRecipe line rule).Pairwise fun r s => r.line < s.line := by
  unfold inlineRecipe
  split
  · dsimp only
    split
    · exact .nil
    · exact List.pairwise_singleton _ _
  · exact .nil

/-- **The recipe of a target** goes on from the line of its rule. -/
theorem pairwise_recipe {items : List Item} (h : items.Pairwise (Before Item.lineNumbers))
    {t : Target} (ht : t ∈ targetsOf items) :
    (t.recipe.Pairwise fun r s => r.line < s.line) ∧ ∀ r ∈ t.recipe, t.line ≤ r.line := by
  obtain ⟨front, line, rule, rest, rfl, htarget⟩ := mem_targetsOf ht
  obtain ⟨name, -, rfl⟩ := List.mem_map.1 htarget
  obtain ⟨hrule, hrest⟩ := List.pairwise_cons.1 (List.pairwise_append.1 h).2.1
  have hloose : ∀ r ∈ looseRecipe rest, line < r.line := by
    intro r hr
    obtain ⟨raw, hraw, -⟩ := exists_item_of_mem_looseRecipe hr
    exact hrule _ hraw line (List.mem_singleton_self _) _ (List.mem_singleton_self _)
  refine ⟨List.pairwise_append.2 ⟨pairwise_inlineRecipe line rule, pairwise_looseRecipe hrest,
    fun r hr s hs => ?_⟩, fun r hr => ?_⟩
  · rw [line_of_mem_inlineRecipe hr]
    exact hloose s hs
  · rcases List.mem_append.1 hr with hr | hr
    · exact Nat.le_of_eq (line_of_mem_inlineRecipe hr).symm
    · exact Nat.le_of_lt (hloose r hr)

/-- Every recipe line of a target is on the line of its rule, or is an item of its own. -/
theorem exists_item_of_mem_recipe {items : List Item} {t : Target} (ht : t ∈ targetsOf items)
    {r : RecipeLine} (hr : r ∈ t.recipe) :
    r.line = t.line ∨ ∃ raw, .recipe r.line raw ∈ items ∧ r.text = Text.trim raw := by
  obtain ⟨front, line, rule, rest, rfl, htarget⟩ := mem_targetsOf ht
  obtain ⟨name, -, rfl⟩ := List.mem_map.1 htarget
  rcases List.mem_append.1 hr with hr | hr
  · exact .inl (line_of_mem_inlineRecipe hr)
  · obtain ⟨raw, hraw, htext⟩ := exists_item_of_mem_looseRecipe hr
    exact .inr ⟨raw, List.mem_append_right front (List.mem_cons_of_mem _ hraw), htext⟩

theorem pairwise_faults {items : List Item} (h : items.Pairwise (Before Item.lineNumbers)) :
    (items.filterMap Item.fault?).Pairwise fun f g => f.1 < g.1 :=
  h.filterMap _ fun _ _ hab _ hf _ hg =>
    hab _ (line_mem_of_fault? hf) _ (line_mem_of_fault? hg)

/-! ## No recipe line is lost -/

/-- A recipe line is that of a target, or comes before any rule. -/
theorem mem_looseRecipe_or_mem_recipe {items : List Item}
    (hnames : ∀ line rule, .rule line rule ∈ items → rule.names ≠ []) {line : Nat} {raw : Text}
    (h : .recipe line raw ∈ items) :
    ⟨Text.trim raw, line⟩ ∈ looseRecipe items ∨
      ∃ t ∈ targetsOf items, ⟨Text.trim raw, line⟩ ∈ t.recipe := by
  induction items with
  | nil => exact nomatch h
  | cons item items ih =>
    have ih := ih fun line rule hrule => hnames line rule (List.mem_cons_of_mem item hrule)
    cases item with
    | rule line' rule =>
      rcases ih ((List.mem_cons.1 h).resolve_left nofun) with hloose | ⟨t, ht, hr⟩
      · -- the first name of the rule is a target with this recipe line
        obtain ⟨name, hname⟩ := List.exists_mem_of_ne_nil _ (hnames line' rule List.mem_cons_self)
        exact .inr ⟨_, List.mem_append_left _ (List.mem_map_of_mem hname),
          List.mem_append_right _ hloose⟩
      · exact .inr ⟨t, List.mem_append_right _ ht, hr⟩
    | recipe line' raw' =>
      rcases List.mem_cons.1 h with h | h
      · obtain ⟨rfl, rfl⟩ := Item.recipe.inj h
        exact .inl List.mem_cons_self
      · exact (ih h).imp_left (List.mem_cons_of_mem _)
    | phony names => exact ih ((List.mem_cons.1 h).resolve_left nofun)
    | fault line' problem => exact ih ((List.mem_cons.1 h).resolve_left nofun)

/-- **Every recipe line of a makefile has a target.** -/
theorem exists_target_of_recipe {lines : List Text} {line : Nat} {raw : Text}
    (h : .recipe line raw ∈ items lines) :
    ∃ t ∈ (ofLines lines).targets, ∃ r ∈ t.recipe, r.line = line := by
  have hnames : ∀ line rule, .rule line rule ∈ items lines → rule.names ≠ [] :=
    fun _ _ hrule => sound_of_mem_items hrule
  rcases mem_looseRecipe_or_mem_recipe hnames h with hloose | ⟨t, ht, hr⟩
  · rw [looseRecipe_items] at hloose
    exact nomatch hloose
  · exact ⟨t, ht, _, hr, rfl⟩

/-- Items with a line number in common are the same. -/
theorem eq_of_mem_lineNumbers {items : List Item} (h : items.Pairwise (Before Item.lineNumbers))
    {a b : Item} (ha : a ∈ items) (hb : b ∈ items) {n : Nat} (hna : n ∈ a.lineNumbers)
    (hnb : n ∈ b.lineNumbers) : a = b := by
  rcases eq_or_rel_of_pairwise h ha hb with heq | hlt | hlt
  · exact heq
  · exact absurd (hlt n hna n hnb) (Nat.lt_irrefl n)
  · exact absurd (hlt n hnb n hna) (Nat.lt_irrefl n)

/-- Where no line is continued and nothing is defined, every line begins something new. -/
theorem phase_eq_fresh_of_forall {lines : List Text}
    (h : ∀ l ∈ lines, isContinued l = false ∧ ¬ ("define" : Text) <:+: l) :
    (Reading.ofLines step {} lines).state.phase = .fresh := by
  refine phase_eq_fresh (fun l hl => (h l hl).2)
    (fun l hl => (h l (List.mem_of_getLast? hl)).1) (eq_false_of_ne_true fun hopen => ?_)
  rcases List.eq_nil_or_concat' lines with rfl | ⟨front, last, rfl⟩
  · exact Bool.false_ne_true hopen
  · obtain ⟨-, l, hl, htwo⟩ := blank_of_endsOpen (h last (by simp)).1 hopen
    rw [endsInTwoBackslashes, (h l (by simp [hl])).1] at htwo
    exact Bool.false_ne_true htwo

/-- What becomes of a line that begins with a tab and says something. -/
theorem mem_step_of_tab {st : State} (hst : st.phase = .fresh) {raw : Text}
    (htab : raw.head? = some '\t') (hbody : isIgnored (Text.trim raw) = false) (line : Nat) :
    .recipe line raw ∈ (step line raw st).2 ∨ .fault line .strayRecipe ∈ (step line raw st).2 := by
  have hreads := reads_step line raw st
  generalize step line raw st = r at hreads
  have hgives : ∀ {first indented text}, ¬ st.phase.Gives line raw first indented text := by
    intro first indented text hgives
    cases hgives with
    | itself _ hno => exact hno htab
    | joined h => rw [hst] at h; exact nomatch h
  cases hreads with
  | skipped h => rw [hst] at h; exact nomatch h
  | endsDefinition h => rw [hst] at h; exact nomatch h
  | recipe => exact .inl (List.mem_singleton_self _)
  | ignored _ h => rw [hbody] at h; exact nomatch h
  | strayRecipe => exact .inr (List.mem_singleton_self _)
  | spacesForTab _ h => rw [htab] at h; exact nomatch h
  | continued h => exact absurd h hgives
  | completed h => exact absurd h hgives

/-! ## The layout -/

/-- **How targets, recipes and problems lie in the lines of a makefile.** -/
structure Layout (lines : List Text) (m : Makefile) : Prop where
  ordered : m.targets.Pairwise fun t u => t.line ≤ u.line
  shared : ∀ t ∈ m.targets, ∀ u ∈ m.targets, t.line = u.line →
    t.prerequisites = u.prerequisites ∧ t.recipe = u.recipe ∧ t.doubleColon = u.doubleColon
  increasing : ∀ t ∈ m.targets, t.recipe.Pairwise fun r s => r.line < s.line
  fromRule : ∀ t ∈ m.targets, ∀ r ∈ t.recipe, t.line ≤ r.line
  beforeNext : ∀ t ∈ m.targets, ∀ u ∈ m.targets, t.line < u.line → ∀ r ∈ t.recipe, r.line < u.line
  source : ∀ t ∈ m.targets, ∀ r ∈ t.recipe, r.line ≠ t.line →
    ∃ raw, IsRecipeLine lines r.line raw ∧ r.text = Text.trim raw
  faults : m.faults.Pairwise fun f g => f.1 < g.1

/-- A line is part of a recipe. -/
def InRecipe (m : Makefile) (line : Nat) : Prop := ∃ t ∈ m.targets, ∃ r ∈ t.recipe, r.line = line

/-- The number of problems that are reported on a line. -/
def faultCount (m : Makefile) (line : Nat) : Nat := (m.faults.map Prod.fst).count line

theorem exists_fault_of_mem {lines : List Text} {n : Nat}
    (h : n ∈ (ofLines lines).faults.map Prod.fst) : ∃ problem, .fault n problem ∈ items lines := by
  obtain ⟨⟨line, problem⟩, hfault, rfl⟩ := List.mem_map.1 h
  obtain ⟨item, hitem, hsome⟩ := List.mem_filterMap.1 hfault
  cases item with
  | fault line' problem' =>
    obtain ⟨rfl, rfl⟩ := Prod.mk.inj (Option.some.inj hsome)
    exact ⟨problem', hitem⟩
  | _ => exact nomatch hsome

theorem exists_item_of_inRecipe {lines : List Text} {n : Nat} (h : (ofLines lines).InRecipe n) :
    (∃ rule, .rule n rule ∈ items lines) ∨ ∃ raw, .recipe n raw ∈ items lines := by
  obtain ⟨t, ht, r, hr, rfl⟩ := h
  rcases exists_item_of_mem_recipe ht hr with hline | ⟨raw, hraw, -⟩
  · rw [hline]
    exact .inl (exists_rule_of_mem_targetsOf ht)
  · exact .inr ⟨raw, hraw⟩

/-- **A line that begins with a tab and says something is part of a recipe or is reported**, and not
both. -/
theorem inRecipe_or_fault {lines : List Text}
    (h : ∀ l ∈ lines, isContinued l = false ∧ ¬ ("define" : Text) <:+: l)
    {before : List Text} {raw : Text} (hraw : before ++ [raw] <+: lines)
    (htab : raw.head? = some '\t') (hbody : isIgnored (Text.trim raw) = false) :
    (ofLines lines).InRecipe (before.length + 1) ∧
        (ofLines lines).faultCount (before.length + 1) = 0 ∨
      ¬ (ofLines lines).InRecipe (before.length + 1) ∧
        (ofLines lines).faultCount (before.length + 1) = 1 := by
  have hunique : ∀ {a b : Item}, a ∈ items lines → b ∈ items lines →
      before.length + 1 ∈ a.lineNumbers → before.length + 1 ∈ b.lineNumbers → a = b :=
    fun ha hb => eq_of_mem_lineNumbers (pairwise_items lines) ha hb
  have hself : before.length + 1 ∈ [before.length + 1] := List.mem_singleton_self _
  have hfound : ∀ {item : Item}, item ∈ (step (before.length + 1) raw
      (Reading.ofLines step {} before).state).2 → item ∈ items lines :=
    fun hstep => List.mem_append_left _ (Reading.mem_items_of_mem_step step {} hraw hstep)
  have hst := phase_eq_fresh_of_forall fun l hl =>
    h l (hraw.subset (List.mem_append_left [raw] hl))
  rcases mem_step_of_tab hst htab hbody (before.length + 1) with hstep | hstep
  · refine .inl ⟨exists_target_of_recipe (hfound hstep), List.count_eq_zero.2 fun hfault => ?_⟩
    obtain ⟨problem, hproblem⟩ := exists_fault_of_mem hfault
    exact nomatch hunique (hfound hstep) hproblem hself hself
  · have hitem := hfound hstep
    refine .inr ⟨fun hrecipe => ?_, ?_⟩
    · rcases exists_item_of_inRecipe hrecipe with ⟨rule, hrule⟩ | ⟨raw', hraw'⟩
      · exact nomatch hunique hitem hrule hself hself
      · exact nomatch hunique hitem hraw' hself hself
    · refine List.count_eq_one_of_mem ?_ ?_
      · exact List.pairwise_map.2 ((pairwise_faults (pairwise_items lines)).imp Nat.ne_of_lt)
      · exact List.mem_map.2 ⟨_, List.mem_filterMap.2 ⟨_, hitem, rfl⟩, rfl⟩

/-- **The layout of a makefile.** Targets, recipes and problems are in order, and where no line is
continued and nothing is defined, each line that begins with a tab and says something is part of a
recipe or is reported once, and not both. -/
theorem layout_ofLines (lines : List Text) :
    Layout lines (ofLines lines) ∧
      ((∀ l ∈ lines, isContinued l = false ∧ ¬ ("define" : Text) <:+: l) →
        ∀ before raw, before ++ [raw] <+: lines → raw.head? = some '\t' →
          isIgnored (Text.trim raw) = false →
          (ofLines lines).InRecipe (before.length + 1) ∧
              (ofLines lines).faultCount (before.length + 1) = 0 ∨
            ¬ (ofLines lines).InRecipe (before.length + 1) ∧
              (ofLines lines).faultCount (before.length + 1) = 1) := by
  have hitems := pairwise_items lines
  have htargets := pairwise_targetsOf hitems
  refine ⟨?_, fun h before raw hraw htab hbody => inRecipe_or_fault h hraw htab hbody⟩
  constructor
  case ordered => exact htargets.imp fun h => h.le
  case shared =>
    intro t ht u hu hline
    rcases eq_or_rel_of_pairwise htargets ht hu with rfl | h | h
    · exact ⟨rfl, rfl, rfl⟩
    · exact h.shared hline
    · obtain ⟨hneeds, hrecipe, hcolon⟩ := h.shared hline.symm
      exact ⟨hneeds.symm, hrecipe.symm, hcolon.symm⟩
  case increasing => exact fun t ht => (pairwise_recipe hitems ht).1
  case fromRule => exact fun t ht => (pairwise_recipe hitems ht).2
  case beforeNext =>
    intro t ht u hu hline
    rcases eq_or_rel_of_pairwise htargets ht hu with rfl | h | h
    · exact absurd hline (Nat.lt_irrefl _)
    · exact h.recipe hline
    · exact absurd hline (Nat.not_lt_of_le h.le)
  case source =>
    intro t ht r hr hne
    obtain ⟨raw, hraw, htext⟩ := (exists_item_of_mem_recipe ht hr).resolve_left hne
    exact ⟨raw, sound_of_mem_items hraw, htext⟩
  case faults => exact pairwise_faults hitems

/-- A recipe line after its rule, and one after an assignment has ended the rule. -/
theorem layout_ofLines_after_assignment :
    let lines : List Text := ["a b: c", "\tcc -o $@", "CC = gcc", "\techo"]
    Layout lines (ofLines lines) ∧
      (ofLines lines).InRecipe 2 ∧ (ofLines lines).faultCount 2 = 0 ∧
      ¬ (ofLines lines).InRecipe 4 ∧ (ofLines lines).faultCount 4 = 1 := by
  intro lines
  have hplain : ∀ l ∈ lines, isContinued l = false ∧ ¬ ("define" : Text) <:+: l := by
    decide +kernel
  obtain ⟨hlayout, htab⟩ := layout_ofLines lines
  have hsecond := htab hplain ["a b: c"] "\tcc -o $@" (by decide) (by decide) (by decide)
  have hfourth := htab hplain ["a b: c", "\tcc -o $@", "CC = gcc"] "\techo" (by decide) (by decide)
    (by decide)
  have hone : (ofLines lines).faultCount 2 ≠ 1 := by decide +kernel
  have hzero : (ofLines lines).faultCount 4 ≠ 0 := by decide +kernel
  obtain ⟨hrecipe, hnone⟩ := hsecond.resolve_right fun h => hone h.2
  exact ⟨hlayout, hrecipe, hnone, hfourth.resolve_left fun h => hzero h.2⟩

end OpsLint.Makefile

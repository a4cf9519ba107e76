import Mathlib.Data.List.Forall2
import Mathlib.Data.List.Nodup
import OpsLint.Lint

/-!
# Every rule has a block of its own

The diagnostics of a model are blocks, one after another: what its reader found to be wrong, and
then a block for each enabled rule for its kind of file, in the order of the registry. A rule that
fails has a block too, with one diagnostic in it, and the rules after it are run as if it had not.

So the place of a rule can be changed without regard to the others. What stands **in front of** the
block of a rule and what stands **after** it depend on the rules before and after it, and on nothing
about the rule itself. Whether it is left out, replaced by another, made to fail, or enabled,
disabled and graded by other settings, the rest stays as it is (`diagnostics_blocks`). A rule for
another kind of file, and a rule that is disabled, have nothing between the two.

That settings are looked up by the identifiers of rules is where it matters that these differ: to
set something about one rule is to set nothing about another.
-/

namespace OpsLint

/-- A rule that is run on a model. -/
def Rule.AppliesTo (rule : Rule) (settings : Settings) (model : Model) : Prop :=
  rule.kind = model.kind ∧ settings.enables rule = true

instance (rule : Rule) (settings : Settings) (model : Model) :
    Decidable (rule.AppliesTo settings model) :=
  inferInstanceAs (Decidable (_ ∧ _))

/-- What comes of running a rule, which is told its identifier, the path of the file, the severity
that is set for it and the options: all its findings, stamped with the first three; or that it has
failed. -/
inductive Rule.Block (settings : Settings) (path : Text) (model : Model) (rule : Rule) :
    List Diagnostic → Prop
  | found {findings : List Finding}
      (h : rule.check ⟨rule.id, path, settings.severity rule, settings.options⟩ model
        = .ok findings) :
      Block settings path model rule
        (findings.map fun f =>
          { severity := settings.severity rule, path, line := f.line, column := f.column
            ruleId := rule.id, message := f.message })
  | failed {failure : Rule.Failure}
      (h : rule.check ⟨rule.id, path, settings.severity rule, settings.options⟩ model
        = .error failure) :
      Block settings path model rule
        [{ severity := .error, path, line := 0, column := 0, ruleId := ruleErrorId
           message := "Rule '" ++ rule.id ++ "' failed: " ++ failure.message }]

/-- Settings that differ at most in what is set about one rule of a registry. -/
structure Settings.SameButFor (rule : Rule) (registry : Registry) (s s' : Settings) : Prop where
  options : s'.options = s.options
  enables : ∀ r ∈ registry.rules, r.id ≠ rule.id → s'.enables r = s.enables r
  severity : ∀ r ∈ registry.rules, r.id ≠ rule.id → s'.severity r = s.severity r

/-! ## Blocks -/

section

variable (settings : Settings) (path : Text) (model : Model)

theorem Rule.AppliesTo.block_ruleBlock {settings : Settings} {model : Model} {rule : Rule}
    (h : rule.AppliesTo settings model) :
    Block settings path model rule (ruleBlock settings path model rule) := by
  unfold ruleBlock
  rw [if_pos h.2]
  cases hcheck : rule.check (settings.context path rule) model with
  | ok findings => exact .found hcheck
  | error failure => exact .failed hcheck

/-- The blocks of some rules, of which only those for the model count. -/
def blocksOf (rules : List Rule) : List Diagnostic :=
  (rules.filter (·.kind = model.kind)).flatMap (ruleBlock settings path model)

theorem diagnostics_eq_blocksOf (registry : Registry) :
    model.diagnostics settings registry path
      = model.findings.map (·.stamp .error path parseErrorId)
        ++ blocksOf settings path model registry.rules :=
  rfl

theorem blocksOf_append (rules rules' : List Rule) :
    blocksOf settings path model (rules ++ rules')
      = blocksOf settings path model rules ++ blocksOf settings path model rules' := by
  unfold blocksOf
  rw [List.filter_append, List.flatMap_append]

theorem blocksOf_cons (rule : Rule) (rules : List Rule) :
    blocksOf settings path model (rule :: rules)
      = blocksOf settings path model [rule] ++ blocksOf settings path model rules :=
  blocksOf_append settings path model [rule] rules

theorem blocksOf_singleton (rule : Rule) :
    blocksOf settings path model [rule]
      = if rule.AppliesTo settings model then ruleBlock settings path model rule else [] := by
  unfold blocksOf
  by_cases hkind : rule.kind = model.kind
  · by_cases henables : settings.enables rule = true
    · simp [Rule.AppliesTo, hkind, henables]
    · simp [Rule.AppliesTo, hkind, henables, ruleBlock]
  · simp [Rule.AppliesTo, hkind]

/-- **A block for each rule that is run**, in the order of the rules. -/
theorem exists_blocks (rules : List Rule) :
    ∃ blocks, List.Forall₂ (Rule.Block settings path model)
        (rules.filter (·.AppliesTo settings model)) blocks ∧
      blocksOf settings path model rules = blocks.flatten := by
  induction rules with
  | nil => exact ⟨[], .nil, rfl⟩
  | cons rule rules ih =>
    obtain ⟨blocks, hblocks, heq⟩ := ih
    rw [blocksOf_cons, blocksOf_singleton, heq]
    by_cases happlies : rule.AppliesTo settings model
    · rw [if_pos happlies, List.filter_cons_of_pos (by simpa using happlies)]
      exact ⟨_ :: blocks, .cons (happlies.block_ruleBlock path) hblocks, rfl⟩
    · rw [if_neg happlies, List.filter_cons_of_neg (by simpa using happlies)]
      exact ⟨blocks, hblocks, rfl⟩

variable {settings}

/-- What is set about one rule matters to no other. -/
theorem blocksOf_eq_of_sameButFor {rule : Rule} {registry : Registry} {settings' : Settings}
    (h : settings.SameButFor rule registry settings') {rules : List Rule}
    (hrules : ∀ r ∈ rules, r ∈ registry.rules ∧ r.id ≠ rule.id) :
    blocksOf settings' path model rules = blocksOf settings path model rules := by
  unfold blocksOf
  refine List.flatMap_congr fun r hr => ?_
  obtain ⟨hmem, hne⟩ := hrules r (List.mem_filter.1 hr).1
  unfold ruleBlock Settings.context
  rw [h.enables r hmem hne, h.severity r hmem hne, h.options]

end

/-- The rules around a rule have other identifiers. -/
theorem Registry.id_ne_of_mem {registry : Registry} {before after : List Rule} {rule r : Rule}
    (h : registry.rules = before ++ rule :: after) (hr : r ∈ before ∨ r ∈ after) :
    r ∈ registry.rules ∧ r.id ≠ rule.id := by
  have hnodup := registry.nodup
  rw [h, List.map_append, List.map_cons, List.nodup_middle, List.nodup_cons] at hnodup
  rw [h]
  refine ⟨List.mem_append.2 (hr.imp_right (List.mem_cons_of_mem rule)), fun hid => hnodup.1 ?_⟩
  rw [← hid, List.mem_append]
  exact hr.imp List.mem_map_of_mem List.mem_map_of_mem

/-- **Rules are evaluated block by block**, and nothing about a rule matters outside its block. -/
theorem diagnostics_blocks (settings : Settings) (path : Text) (model : Model) :
    (∀ registry : Registry, ∃ blocks,
      List.Forall₂ (Rule.Block settings path model)
        (registry.rules.filter (·.AppliesTo settings model)) blocks ∧
      model.diagnostics settings registry path
        = model.findings.map (·.stamp .error path parseErrorId) ++ blocks.flatten) ∧
    ∀ before after : List Rule, ∃ front back,
      (∀ registry : Registry, registry.rules = before ++ after →
        model.diagnostics settings registry path = front ++ back) ∧
      ∀ (rule : Rule) (registry : Registry), registry.rules = before ++ rule :: after →
        ∀ settings', settings.SameButFor rule registry settings' →
          ∃ own, model.diagnostics settings' registry path = front ++ own ++ back ∧
            (rule.AppliesTo settings' model → rule.Block settings' path model own) ∧
            (¬ rule.AppliesTo settings' model → own = []) := by
  refine ⟨fun registry => ?_, fun before after => ?_⟩
  · obtain ⟨blocks, hblocks, heq⟩ := exists_blocks settings path model registry.rules
    exact ⟨blocks, hblocks, by rw [diagnostics_eq_blocksOf, heq]⟩
  · refine ⟨model.findings.map (·.stamp .error path parseErrorId)
      ++ blocksOf settings path model before, blocksOf settings path model after,
      fun registry h => ?_, fun rule registry h settings' hsame => ?_⟩
    · rw [diagnostics_eq_blocksOf, h, blocksOf_append, List.append_assoc]
    · refine ⟨blocksOf settings' path model [rule], ?_, fun happlies => ?_, fun happlies => ?_⟩
      · -- the other settings are about an identifier that no rule around has
        have hbefore := blocksOf_eq_of_sameButFor path model hsame
          fun r hr => Registry.id_ne_of_mem h (.inl hr)
        have hafter := blocksOf_eq_of_sameButFor path model hsame
          fun r hr => Registry.id_ne_of_mem h (.inr hr)
        rw [diagnostics_eq_blocksOf, h, blocksOf_append, blocksOf_cons, hbefore, hafter,
          List.append_assoc, List.append_assoc]
      · rw [blocksOf_singleton, if_pos happlies]
        exact happlies.block_ruleBlock path
      · rw [blocksOf_singleton, if_neg happlies]

/-- A rule that fails between two others, left out, run and disabled. -/
theorem diagnostics_blocks_of_failing_rule :
    let rule (id : Text) (check : Rule.Check) : Rule :=
      { id, kind := .env, severity := .info, description := "", check }
    let first := rule "first" fun _ _ => .ok [{ line := 1, message := "one" }]
    let failing := rule "failing" fun _ _ => .error (.other "no reason")
    let last := rule "last" fun _ _ => .ok [{ line := 1, message := "two" }]
    let registry : Registry := { rules := [first, failing, last] }
    let off : Settings := { rules := fun _ => [("failing", { enabled := false })] }
    let model : Model := .env (.ofLines ["A=1"])
    ∃ front own back,
      model.diagnostics {} { rules := [first, last] } "a.env" = front ++ back ∧
      model.diagnostics {} registry "a.env" = front ++ own ++ back ∧
      failing.Block {} "a.env" model own ∧
      model.diagnostics off registry "a.env" = front ++ back := by
  intro rule first failing last registry off model
  obtain ⟨front, back, hwithout, hwith⟩ := (diagnostics_blocks {} "a.env" model).2 [first] [last]
  obtain ⟨own, heq, hblock, -⟩ := hwith failing registry rfl {}
    ⟨rfl, fun _ _ _ => rfl, fun _ _ _ => rfl⟩
  obtain ⟨none, heq', -, hnone⟩ := hwith failing registry rfl off ⟨rfl, by decide, by decide⟩
  refine ⟨front, own, back, hwithout { rules := [first, last] } rfl, heq, hblock (by decide), ?_⟩
  rw [heq', hnone (by decide), List.append_nil]

end OpsLint

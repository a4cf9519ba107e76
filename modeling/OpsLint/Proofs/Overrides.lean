import Mathlib.Data.List.Nodup
import OpsLint.Proofs.Drafts
import OpsLint.Proofs.Registration

/-!
# What overrides change

Overrides are applied to a draft in five rounds: rules are disabled, rules are enabled, severities,
options, and what concerns the run as a whole. Each round changes one thing and leaves the others
alone. An override for one half of what is given for a rule keeps the other half, and a rule that
the file does not mention begins with nothing given.

So a draft is looked at through four windows: what is given for a rule, in its two halves, for an
option, and for the run. For each round it is said what it does to what is seen in each window, from
what one of its steps does. `Overrides.rule_apply`, `Overrides.option_apply` and
`Overrides.run_apply` put the rounds together.
-/

namespace OpsLint

namespace Overrides

/-! ## What overrides give -/

/-- What an entry gives for a key. -/
def givenFor {α : Type} (key : Text) (entry : Text × α) : Option α :=
  if entry.1 = key then some entry.2 else none

/-- The severity given for a rule. -/
def severity? (o : Overrides) (id : Text) : Option Value := lastGiven (givenFor id) o.severities

/-- What is given for an option. -/
def option? (o : Overrides) (kind : FileKind) (name : Text) : Option Value :=
  lastGiven (fun part => (givenFor kind.name part).bind (lastGiven (givenFor name))) o.options

/-- What is given for the run as a whole; null gives nothing. -/
def notNull : Option Value → Option Value
  | some .null => none
  | given => given

end Overrides

/-! ## Frames -/

theorem Registry.get?_of_mem {registry : Registry} {r : Rule} (hr : r ∈ registry.rules) :
    registry.get? r.id = some r :=
  registry.get?_eq_some_iff.2 ⟨hr, rfl⟩

@[simp] theorem Noted.value_change {α : Type} (acc : Noted α) (f : α → α) :
    (acc.change f).value = f acc.value := rfl

namespace Draft

theorem sections_modifySection (d : Draft) (kind : FileKind) (f : SectionDraft → SectionDraft)
    (k : FileKind) :
    (d.modifySection kind f).sections k = if k = kind then f (d.sections k) else d.sections k := by
  show (if k = kind then f (d.sections kind) else d.sections k) = _
  split
  · rename_i hk
    rw [hk]
  · rfl

/-- Two drafts that look the same through a window on their sections, and in what is given for the
run as a whole. -/
structure SameIn {β : Type} (window : SectionDraft → β) (d d' : Draft) : Prop where
  run : d'.run = d.run
  sections : ∀ kind, window (d'.sections kind) = window (d.sections kind)

theorem SameIn.rule_eq {d d' : Draft} (h : SameIn SectionDraft.rules d d') (r : Rule) :
    d'.rule r = d.rule r := by
  unfold rule
  rw [h.sections r.kind]

theorem SameIn.option_eq {d d' : Draft} (h : SameIn SectionDraft.options d d') (kind : FileKind)
    (name : Text) : (d'.sections kind).option? name = (d.sections kind).option? name := by
  unfold SectionDraft.option?
  rw [h.sections kind]

theorem SameIn.trans {β : Type} {window : SectionDraft → β} {d d' d'' : Draft}
    (h : SameIn window d d') (h' : SameIn window d' d'') : SameIn window d d'' :=
  ⟨h'.run.trans h.run, fun kind => (h'.sections kind).trans (h.sections kind)⟩

/-- What no step changes in a window is the same after all of them. -/
theorem SameIn.foldl {α β : Type} {window : SectionDraft → β}
    {step : Noted Draft → α → Noted Draft}
    (hstep : ∀ (acc : Noted Draft) a, SameIn window acc.value (step acc a).value) (l : List α)
    (acc : Noted Draft) : SameIn window acc.value (l.foldl step acc).value := by
  induction l generalizing acc with
  | nil => exact ⟨rfl, fun _ => rfl⟩
  | cons a l ih => exact (hstep acc a).trans (ih (step acc a))

end Draft

namespace Overrides

/-! ## Rules -/

section

variable {registry : Registry} (f : RuleDraft → RuleDraft)

/-- A registered rule is changed under its identifier only. -/
theorem rule_changeRule {r : Rule} (hr : r ∈ registry.rules) (acc : Noted Draft) (id : Text) :
    (changeRule registry f acc id).value.rule r
      = if r.id = id then f (acc.value.rule r) else acc.value.rule r := by
  unfold changeRule
  split
  · rename_i hget
    rw [if_neg]
    · rfl
    · rintro rfl
      exact Option.some_ne_none r ((Registry.get?_of_mem hr).symm.trans hget)
  · rename_i r' hget
    unfold Draft.rule
    rw [Noted.value_change, Draft.sections_modifySection]
    by_cases hid : r.id = id
    · subst hid
      have hr' : r' = r := Option.some.inj (hget.symm.trans (Registry.get?_of_mem hr))
      rw [hr', if_pos rfl, if_pos rfl]
      unfold SectionDraft.modifyRule
      rw [Assoc.lookup_modify, beq_self_eq_true]
      rfl
    · -- another rule of the same section is not touched
      rw [if_neg hid]
      split
      · unfold SectionDraft.modifyRule
        rw [Assoc.lookup_modify, beq_eq_false_iff_ne.2 hid]
        rfl
      · rfl

theorem sameOptions_changeRule (acc : Noted Draft) (id : Text) :
    Draft.SameIn SectionDraft.options acc.value (changeRule registry f acc id).value := by
  unfold changeRule
  split
  · exact ⟨rfl, fun kind => rfl⟩
  · refine ⟨rfl, fun kind => ?_⟩
    rw [Noted.value_change, Draft.sections_modifySection]
    split <;> rfl

theorem mem_sortedSet {texts : List Text} {s : Text} : s ∈ Text.sortedSet texts ↔ s ∈ texts := by
  unfold Text.sortedSet
  rw [List.mem_mergeSort, List.mem_eraseDups]

/-- Switching rules leaves their severities as they are, and to switch a rule twice makes no
difference. -/
theorem rule_switchRules {r : Rule} (hr : r ∈ registry.rules) (enabled : Bool) (ids : List Text)
    (acc : Noted Draft) :
    (switchRules registry enabled ids acc).value.rule r
      = if r.id ∈ ids then { acc.value.rule r with enabled := some (.bool enabled) }
        else acc.value.rule r := by
  have hround : ∀ (ids : List Text) (acc : Noted Draft),
      (ids.foldl (changeRule registry fun r => { r with enabled := some (.bool enabled) })
          acc).value.rule r
        = if r.id ∈ ids then { acc.value.rule r with enabled := some (.bool enabled) }
          else acc.value.rule r := by
    intro ids
    induction ids with
    | nil => exact fun acc => rfl
    | cons id ids ih =>
      intro acc
      rw [List.foldl_cons, ih, rule_changeRule _ hr]
      by_cases hid : r.id = id
      · rw [if_pos hid, if_pos (List.mem_cons.2 (.inl hid)), ite_self]
      · rw [if_neg hid]
        refine if_congr ?_ rfl rfl
        rw [List.mem_cons, or_iff_right hid]
  -- that the identifiers are sorted first does not show
  exact (hround _ acc).trans (if_congr mem_sortedSet rfl rfl)

theorem sameOptions_switchRules (enabled : Bool) (ids : List Text) (acc : Noted Draft) :
    Draft.SameIn SectionDraft.options acc.value (switchRules registry enabled ids acc).value :=
  .foldl (sameOptions_changeRule _) (Text.sortedSet ids) acc

/-- Of the severities given for a rule the last one counts, and whether the rule is enabled is left
as it is. -/
theorem rule_foldl_addSeverity {r : Rule} (hr : r ∈ registry.rules) (entries : List (Text × Value))
    (acc : Noted Draft) :
    (entries.foldl (addSeverity registry) acc).value.rule r
      = { acc.value.rule r with
          severity := ((lastGiven (givenFor r.id) entries).map severityWord).or
            (acc.value.rule r).severity } := by
  refine foldl_lastGiven (givenFor r.id) (P := fun given (s : Noted Draft) => s.value.rule r
    = { acc.value.rule r with
        severity := (given.map severityWord).or (acc.value.rule r).severity })
    (fun {s entry given} hs => ?_) entries rfl
  unfold addSeverity givenFor
  rw [rule_changeRule _ hr, hs]
  by_cases hid : r.id = entry.1
  · rw [if_pos hid, if_pos hid.symm]
    rfl
  · rw [if_neg hid, if_neg (Ne.symm hid)]
    rfl

end

/-! ## Options -/

theorem option_addOption {kind k : FileKind} {name : Text} (hname : name ∈ k.optionNames)
    (acc : Noted Draft) (entry : Text × Value) :
    ((addOption kind acc entry).value.sections k).option? name
      = (if k = kind then givenFor name entry else none).or
          ((acc.value.sections k).option? name) := by
  unfold addOption
  dsimp only
  split
  · rw [Noted.value_change, Draft.sections_modifySection]
    split
    · unfold SectionDraft.option? SectionDraft.putOption givenFor
      rw [Assoc.lookup_put]
      by_cases h : name = entry.1
      · rw [beq_iff_eq.2 h, if_pos rfl, if_pos h.symm]
        rfl
      · rw [beq_eq_false_iff_ne.2 h, if_neg Bool.false_ne_true, if_neg (Ne.symm h)]
        rfl
    · rfl
  · rename_i hunknown
    split
    · rename_i hk
      have hne : entry.1 ≠ name := by
        rintro rfl
        exact hunknown (by simpa [hk] using hname)
      unfold givenFor
      rw [if_neg hne]
      rfl
    · rfl

theorem sameRules_addOption (kind : FileKind) (acc : Noted Draft) (entry : Text × Value) :
    Draft.SameIn SectionDraft.rules acc.value (addOption kind acc entry).value := by
  unfold addOption
  dsimp only
  split
  · refine ⟨rfl, fun k => ?_⟩
    rw [Noted.value_change, Draft.sections_modifySection]
    split <;> rfl
  · exact ⟨rfl, fun k => rfl⟩

/-- The options of a section are given for its kind of file only. -/
theorem option_addSection {k : FileKind} {name : Text} (hname : name ∈ k.optionNames)
    (acc : Noted Draft) (part : Text × List (Text × Value)) :
    ((addSection acc part).value.sections k).option? name
      = ((givenFor k.name part).bind (lastGiven (givenFor name))).or
          ((acc.value.sections k).option? name) := by
  unfold addSection
  split
  · rename_i hnone
    have hne : part.1 ≠ k.name := fun h => by
      rw [h, k.ofName?_name] at hnone
      exact nomatch hnone
    have hgiven : givenFor k.name part = none := if_neg hne
    rw [hgiven]
    rfl
  · rename_i kind hkind
    have hkind := FileKind.name_of_ofName? hkind
    by_cases hk : k = kind
    · have hgiven : givenFor k.name part = some part.2 := if_pos (hk ▸ hkind.symm)
      rw [hgiven]
      refine foldl_lastGiven (givenFor name) (P := fun given (s : Noted Draft) =>
        (s.value.sections k).option? name = given.or ((acc.value.sections k).option? name))
        (fun hs => ?_) part.2 rfl
      rw [option_addOption hname, if_pos hk, hs, Option.or_assoc]
    · have hgiven : givenFor k.name part = none :=
        if_neg fun h => hk (FileKind.name_inj (h.symm.trans hkind.symm))
      rw [hgiven]
      refine List.foldlRecOn part.2 (motive := fun (acc' : Noted Draft) =>
        (acc'.value.sections k).option? name = (acc.value.sections k).option? name) _ rfl
        fun acc' hacc' entry _ => ?_
      rw [option_addOption hname, if_neg hk]
      exact hacc'

theorem sameRules_addSection (acc : Noted Draft) (part : Text × List (Text × Value)) :
    Draft.SameIn SectionDraft.rules acc.value (addSection acc part).value := by
  unfold addSection
  split
  · exact ⟨rfl, fun k => rfl⟩
  · exact .foldl (sameRules_addOption _) part.2 acc

theorem option_foldl_addSection (o : Overrides) {k : FileKind} {name : Text}
    (hname : name ∈ k.optionNames) (acc : Noted Draft) :
    ((o.options.foldl addSection acc).value.sections k).option? name
      = (o.option? k name).or ((acc.value.sections k).option? name) := by
  refine foldl_lastGiven _ (P := fun given (s : Noted Draft) =>
    (s.value.sections k).option? name = given.or ((acc.value.sections k).option? name))
    (fun hs => ?_) o.options rfl
  rw [option_addSection hname, hs, Option.or_assoc]

/-! ## The run as a whole -/

theorem addRun_eq (key : Text) (value : Option Value) (d : Draft) :
    addRun key value d
      = match notNull value with
        | none => d
        | some v => d.putRun key v := by
  cases value with
  | none => rfl
  | some v => cases v <;> rfl

theorem sections_addRun (key : Text) (value : Option Value) (d : Draft) :
    (addRun key value d).sections = d.sections := by
  rw [addRun_eq]
  cases notNull value <;> rfl

theorem run_addRun (key : Text) (value : Option Value) (d : Draft) (k : Text) :
    (addRun key value d).run? k = (if k = key then notNull value else none).or (d.run? k) := by
  rw [addRun_eq]
  cases notNull value with
  | none => rw [ite_self]; rfl
  | some v =>
    unfold Draft.putRun Draft.run?
    rw [Assoc.lookup_put]
    by_cases hk : k = key
    · rw [beq_iff_eq.2 hk, if_pos rfl, if_pos hk]
      rfl
    · rw [beq_eq_false_iff_ne.2 hk, if_neg Bool.false_ne_true, if_neg hk]
      rfl

/-! ## All rounds -/

section

variable (o : Overrides) (registry : Registry) (d : Draft)

/-- A draft after the rounds that concern rules. -/
def graded : Noted Draft :=
  o.severities.foldl (addSeverity registry)
    (switchRules registry true o.enable (switchRules registry false o.disable { value := d }))

theorem value_apply :
    (o.apply registry d).value
      = addRun "max_file_size" o.maxFileSize
          (addRun "timeout" o.timeout
            (addRun "workers" o.workers
              (o.options.foldl addSection (o.graded registry d)).value)) :=
  rfl

theorem sections_apply :
    (o.apply registry d).value.sections
      = (o.options.foldl addSection (o.graded registry d)).value.sections := by
  rw [value_apply, sections_addRun, sections_addRun, sections_addRun]

theorem sameOptions_graded : Draft.SameIn SectionDraft.options d (o.graded registry d).value :=
  (sameOptions_switchRules false o.disable { value := d }).trans
    ((sameOptions_switchRules true o.enable _).trans
      (.foldl (fun acc entry => sameOptions_changeRule _ acc entry.1) o.severities _))

/-- **What overrides give for an option takes the place of what is there.** -/
theorem option_apply {kind : FileKind} {name : Text} (hname : name ∈ kind.optionNames) :
    ((o.apply registry d).value.sections kind).option? name
      = (o.option? kind name).or ((d.sections kind).option? name) := by
  rw [sections_apply, option_foldl_addSection o hname, (sameOptions_graded o registry d).option_eq]

/-- **What overrides give for the run as a whole takes the place of what is there.** -/
theorem run_apply :
    (o.apply registry d).value.run? "workers" = (notNull o.workers).or (d.run? "workers") ∧
      (o.apply registry d).value.run? "timeout" = (notNull o.timeout).or (d.run? "timeout") ∧
      (o.apply registry d).value.run? "max_file_size"
        = (notNull o.maxFileSize).or (d.run? "max_file_size") := by
  have hrun : (o.options.foldl addSection (o.graded registry d)).value.run = d.run :=
    (Draft.SameIn.foldl sameRules_addSection o.options _).run.trans
      (sameOptions_graded o registry d).run
  have hbefore : ∀ key, (o.options.foldl addSection (o.graded registry d)).value.run? key
      = d.run? key := fun key => congrArg (List.lookup key) hrun
  have hafter : ∀ key, (o.apply registry d).value.run? key
      = (if key = "max_file_size" then notNull o.maxFileSize else none).or
          ((if key = "timeout" then notNull o.timeout else none).or
            ((if key = "workers" then notNull o.workers else none).or (d.run? key))) := by
    intro key
    rw [value_apply, run_addRun, run_addRun, run_addRun, hbefore]
  exact ⟨hafter "workers", hafter "timeout", hafter "max_file_size"⟩

variable {registry}

/-- **What overrides give for a rule takes the place of what is there**, each half by itself. -/
theorem rule_apply {r : Rule} (hr : r ∈ registry.rules) :
    (o.apply registry d).value.rule r
      = { enabled :=
            if r.id ∈ o.enable then some (.bool true)
            else if r.id ∈ o.disable then some (.bool false)
            else (d.rule r).enabled
          severity := ((o.severity? r.id).map severityWord).or (d.rule r).severity } := by
  have hoptions : (o.apply registry d).value.rule r = (o.graded registry d).value.rule r := by
    have hsame := (Draft.SameIn.foldl sameRules_addSection o.options
      (o.graded registry d)).rule_eq r
    unfold Draft.rule at hsame ⊢
    rw [sections_apply, hsame]
  rw [hoptions, graded, rule_foldl_addSeverity hr, rule_switchRules hr, rule_switchRules hr]
  by_cases henable : r.id ∈ o.enable
  · rw [if_pos henable, if_pos henable]
    by_cases hdisable : r.id ∈ o.disable
    · rw [if_pos hdisable]
      rfl
    · rw [if_neg hdisable]
      rfl
  · rw [if_neg henable, if_neg henable]
    by_cases hdisable : r.id ∈ o.disable
    · rw [if_pos hdisable, if_pos hdisable]
      rfl
    · rw [if_neg hdisable, if_neg hdisable]
      rfl

end

end Overrides

end OpsLint

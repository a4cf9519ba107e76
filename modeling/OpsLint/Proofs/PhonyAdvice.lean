import OpsLint.Lint
import OpsLint.Proofs.MakefileRuleLines

/-!
# Following the advice about phony targets

A target that stands for no file should be declared phony, and there is a rule that says so. To
**follow the advice** is to add a line with the declaration at the end of the makefile. Then the
advice about this name is gone, and all other diagnostics are what they were, in the same order
(`lintLines_append_declaration`). For the added line begins something new and declares one name, the
rules for makefiles look at the declared names in this one place, and none of them counts lines.

As with every line that begins something new, it has to be read by itself, and this fails where a
line is still to be continued (`endsOpen`): the declaration becomes part of that line.

The rule names every target once, in the order of first occurrences and at the line of the first
(`Advises`).
-/

namespace OpsLint

/-! ## First occurrences -/

section

variable {α : Type} [BEq α] [LawfulBEq α]

/-- Leaving out elements keeps the order of the first occurrences of the others. -/
theorem idxOf_lt_of_filter {p : α → Bool} {l : List α} {a b : α} (hb : p b = true)
    (h : (l.filter p).idxOf a < (l.filter p).idxOf b) : l.idxOf a < l.idxOf b := by
  have hne : a ≠ b := fun heq => Nat.lt_irrefl _ (heq ▸ h)
  induction l with
  | nil => exact absurd h (Nat.lt_irrefl _)
  | cons c l ih =>
    by_cases hca : c = a
    · rw [hca, List.idxOf_cons_self, List.idxOf_cons_ne l hne]
      exact Nat.succ_pos _
    · by_cases hcb : c = b
      · rw [hcb, List.filter_cons_of_pos hb, List.idxOf_cons_self] at h
        exact absurd h (Nat.not_lt_zero _)
      · rw [List.idxOf_cons_ne l hca, List.idxOf_cons_ne l hcb]
        refine Nat.succ_lt_succ (ih ?_)
        by_cases hc : p c = true
        · rw [List.filter_cons_of_pos hc, List.idxOf_cons_ne _ hca, List.idxOf_cons_ne _ hcb] at h
          exact Nat.lt_of_succ_lt_succ h
        · rwa [List.filter_cons_of_neg hc] at h

/-- **Erasing duplicates leaves the elements in the order of their first occurrences.** -/
theorem pairwise_idxOf_eraseDups (l : List α) :
    l.eraseDups.Pairwise fun a b => l.idxOf a < l.idxOf b := by
  match l with
  | [] => exact .nil
  | a :: l =>
    have hother : ∀ b ∈ (l.filter fun b => !b == a).eraseDups, (!b == a) = true ∧ a ≠ b := by
      intro b hb
      have hkept := (List.mem_filter.1 (List.mem_eraseDups.1 hb)).2
      exact ⟨hkept, by rintro rfl; simp at hkept⟩
    have hrest := pairwise_idxOf_eraseDups (l.filter fun b => !b == a)
    rw [List.eraseDups_cons]
    refine List.pairwise_cons.2 ⟨fun b hb => ?_, hrest.imp_of_mem fun {b c} hb hc hlt => ?_⟩
    · rw [List.idxOf_cons_self, List.idxOf_cons_ne l (hother b hb).2]
      exact Nat.succ_pos _
    · rw [List.idxOf_cons_ne l (hother b hb).2, List.idxOf_cons_ne l (hother c hc).2]
      exact Nat.succ_lt_succ (idxOf_lt_of_filter (hother c hc).1 hlt)
termination_by l.length
decreasing_by exact Nat.lt_succ_of_le (List.length_filter_le _ _)

end

namespace Makefile

/-! ## The advice -/

/-- What is said about a target that should be declared phony. -/
def adviceMessage (name : Text) : Text :=
  "Target '" ++ name ++ "' does not create a file; declare it in .PHONY"

theorem adviceMessage_inj {a b : Text} (h : adviceMessage a = adviceMessage b) : a = b :=
  List.append_cancel_left (List.append_cancel_right h)

/-- The advice about a target. -/
def advice (t : Target) : Finding := { line := t.line, message := adviceMessage t.name }

/-- **About which targets advice is given**: about the first one of each name that stands for no
file and is not declared, in the order in which the names occur first. -/
structure Advises (options : Options) (m : Makefile) (firsts : List Target) : Prop where
  first : ∀ t ∈ firsts, m.targets.find? (·.name = t.name) = some t
  ordered : firsts.Pairwise fun t u =>
    (m.targets.map Target.name).idxOf t.name < (m.targets.map Target.name).idxOf u.name
  once : (firsts.map Target.name).Nodup
  all : ∀ name, name ∈ firsts.map Target.name ↔
    options.requirePhony = true ∧ name ∈ m.targets.map Target.name ∧ m.lacksPhony name = true

/-- The first target of a name. -/
theorem head?_named (m : Makefile) (name : Text) :
    (m.named name).head? = m.targets.find? (·.name = name) :=
  List.head?_filter

theorem name_of_head?_named {m : Makefile} {name : Text} {t : Target}
    (h : (m.named name).head? = some t) : t.name = name := by
  rw [head?_named] at h
  have hname := List.find?_some h
  exact of_decide_eq_true hname

theorem exists_head?_named {m : Makefile} {name : Text} (h : name ∈ m.targetNames) :
    ∃ t, (m.named name).head? = some t := by
  obtain ⟨t, ht, hname⟩ := List.mem_map.1 (List.mem_eraseDups.1 h)
  rw [head?_named, ← Option.isSome_iff_exists, List.find?_isSome]
  exact ⟨t, ht, decide_eq_true hname⟩

/-- The first target of each of some names. -/
def firstNamed (m : Makefile) (names : List Text) : List Target :=
  names.filterMap fun name => (m.named name).head?

theorem map_name_firstNamed {m : Makefile} {names : List Text}
    (h : ∀ name ∈ names, name ∈ m.targetNames) :
    (m.firstNamed names).map Target.name = names := by
  have hname : ∀ name ∈ names, ((m.named name).head?).map Target.name = some name := by
    intro name hmem
    obtain ⟨t, ht⟩ := exists_head?_named (h name hmem)
    rw [ht, Option.map_some, name_of_head?_named ht]
  rw [firstNamed, List.map_filterMap, List.filterMap_congr hname, List.filterMap_some]

theorem firstNamed_filter (m : Makefile) (p : Text → Bool) (names : List Text) :
    m.firstNamed (names.filter p) = (m.firstNamed names).filter (p ·.name) := by
  unfold firstNamed
  rw [List.filterMap_filter, List.filter_filterMap]
  refine List.filterMap_congr fun name _ => ?_
  cases ht : (m.named name).head? with
  | none => exact ite_self none
  | some t => rw [Option.filter_some, name_of_head?_named ht]

/-- The names about which advice is given. -/
def advisedNames (options : Options) (m : Makefile) : List Text :=
  if options.requirePhony then m.targetNames.filter m.lacksPhony else []

theorem mem_advisedNames {options : Options} {m : Makefile} {name : Text} :
    name ∈ m.advisedNames options ↔
      options.requirePhony = true ∧ name ∈ m.targetNames ∧ m.lacksPhony name = true := by
  unfold advisedNames
  cases options.requirePhony <;> simp

theorem missingPhony_eq (options : Options) (m : Makefile) :
    missingPhony options m = (m.firstNamed (m.advisedNames options)).map advice := by
  unfold missingPhony advisedNames
  split
  · rw [firstNamed, List.map_filterMap]
    refine List.filterMap_congr fun name _ => ?_
    cases ht : (m.named name).head? with
    | none => rfl
    | some t =>
      rw [← name_of_head?_named ht]
      rfl
  · rfl

/-- **Advice is given in the order of first occurrences**, once for each name. -/
theorem advises_firstNamed (options : Options) (m : Makefile) :
    Advises options m (m.firstNamed (m.advisedNames options)) := by
  have hnames : (m.firstNamed (m.advisedNames options)).map Target.name = m.advisedNames options :=
    map_name_firstNamed fun name hname => (mem_advisedNames.1 hname).2.1
  have hordered : (m.advisedNames options).Pairwise fun a b =>
      (m.targets.map Target.name).idxOf a < (m.targets.map Target.name).idxOf b := by
    unfold advisedNames
    split
    · exact (pairwise_idxOf_eraseDups _).filter _
    · exact .nil
  refine ⟨fun t ht => ?_, List.Pairwise.of_map Target.name (fun _ _ h => h) (hnames ▸ hordered),
    ?_, fun name => ?_⟩
  · obtain ⟨name, -, ht⟩ := List.mem_filterMap.1 ht
    rw [name_of_head?_named ht, ← head?_named, ht]
  · rw [hnames]
    refine hordered.imp fun {a b} hlt heq => ?_
    rw [heq] at hlt
    exact Nat.lt_irrefl _ hlt
  · rw [hnames, mem_advisedNames, targetNames, List.mem_eraseDups]

/-! ## Declaring a name -/

/-- A makefile with one more name declared phony. -/
def declare (m : Makefile) (name : Text) : Makefile := { m with phony := m.phony ++ [name] }

theorem lacksPhony_declare (m : Makefile) (name other : Text) :
    (m.declare name).lacksPhony other = (decide (other ≠ name) && m.lacksPhony other) := by
  have hcontains : (m.phony ++ [name]).contains other
      = (m.phony.contains other || decide (other = name)) := by
    rw [Bool.eq_iff_iff]
    simp
  show (!(m.phony ++ [name]).contains other && !looksLikeFile other
    && !createsFile other (m.named other)) = _
  unfold lacksPhony
  rw [hcontains]
  by_cases h : other = name <;> simp [h]

theorem advisedNames_declare (options : Options) (m : Makefile) (name : Text) :
    (m.declare name).advisedNames options
      = (m.advisedNames options).filter fun other => decide (other ≠ name) := by
  unfold advisedNames
  split
  · rw [List.filter_filter]
    exact List.filter_congr fun other _ => lacksPhony_declare m name other
  · rfl

/-- **A declaration silences the advice about its name**, and no other. -/
theorem missingPhony_declare (options : Options) (m : Makefile) (name : Text) :
    missingPhony options (m.declare name)
      = (missingPhony options m).filter fun f => decide (f.message ≠ adviceMessage name) := by
  have hmessage : ∀ t : Target,
      decide (t.name ≠ name) = decide ((advice t).message ≠ adviceMessage name) :=
    fun t => decide_eq_decide.2 (not_congr ⟨congrArg adviceMessage, adviceMessage_inj⟩)
  rw [missingPhony_eq, missingPhony_eq, advisedNames_declare]
  show (m.firstNamed _).map advice = _
  rw [firstNamed_filter, List.filter_map]
  exact congrArg _ (List.filter_congr fun t _ => hmessage t)

/-! ## Diagnostics -/

/-- The identifier of the rule that gives the advice. -/
def adviceId : Text := "makefile-missing-phony"

/-- A diagnostic is the advice about a name. -/
def isAdvice (name : Text) (d : Diagnostic) : Bool :=
  d.ruleId = adviceId && d.message = adviceMessage name

end Makefile

open Makefile

/-- A rule finds the same in a makefile with one more declaration, apart from advice about the name
if it is the rule that gives it. -/
def Rule.HeedsDeclarations (rule : Rule) : Prop :=
  ∀ context m name, ∃ found, rule.check context (.makefile m) = .ok found ∧
    rule.check context (.makefile (m.declare name))
      = .ok (found.filter fun f => !(decide (rule.id = adviceId) &&
          decide (f.message = adviceMessage name)))

/-- A rule under another name that does not look at the declarations. -/
theorem Rule.heedsDeclarations_of_eq {rule : Rule} (hid : rule.id ≠ adviceId)
    (h : ∀ context m name, ∃ found, rule.check context (.makefile m) = .ok found ∧
      rule.check context (.makefile (m.declare name)) = .ok found) : rule.HeedsDeclarations := by
  intro context m name
  obtain ⟨found, hfound, hsame⟩ := h context m name
  refine ⟨found, hfound, hsame.trans (congrArg Except.ok ?_)⟩
  refine (List.filter_eq_self.2 fun f _ => ?_).symm
  rw [decide_eq_false hid, Bool.false_and]
  rfl

/-- **No rule for makefiles looks at declarations except the one that asks for them.** -/
theorem Rule.heedsDeclarations_standard :
    ∀ rule ∈ Registry.standard.forKind .makefile, rule.HeedsDeclarations := by
  have hrules : Registry.standard.forKind .makefile = (Rule.standard.drop 4).take 3 := rfl
  rw [hrules]
  refine List.forall_mem_cons.2 ⟨fun context m name => ?_, List.forall_mem_cons.2
    ⟨heedsDeclarations_of_eq (by decide) fun _ _ _ => ⟨_, rfl, rfl⟩,
      List.forall_mem_singleton.2 (heedsDeclarations_of_eq (by decide) fun _ _ _ => ⟨_, rfl, rfl⟩)⟩⟩
  refine ⟨_, rfl, congrArg Except.ok ((missingPhony_declare _ m name).trans ?_)⟩
  refine List.filter_congr fun f _ => ?_
  show _ = !(decide (adviceId = adviceId) && _)
  rw [decide_eq_true (Eq.refl adviceId), Bool.true_and, decide_not]

section

variable (settings : Settings) (path : Text) (m : Makefile) (name : Text)

theorem ruleBlock_declare {rule : Rule} (h : rule.HeedsDeclarations) :
    ruleBlock settings path (.makefile (m.declare name)) rule
      = (ruleBlock settings path (.makefile m) rule).filter (!isAdvice name ·) := by
  obtain ⟨found, hfound, hdeclared⟩ := h (settings.context path rule) m name
  unfold ruleBlock
  split
  · rw [hfound, hdeclared]
    dsimp only
    rw [List.filter_map]
    rfl
  · rfl

/-- **The diagnostics of a makefile with one more declaration.** -/
theorem Model.diagnostics_declare :
    (Model.makefile (m.declare name)).diagnostics settings .standard path
      = ((Model.makefile m).diagnostics settings .standard path).filter (!isAdvice name ·) := by
  have hfindings : ((Model.makefile m).findings.map
      (·.stamp .error path parseErrorId)).filter (!isAdvice name ·)
      = (Model.makefile m).findings.map (·.stamp .error path parseErrorId) := by
    refine List.filter_eq_self.2 fun d hd => ?_
    obtain ⟨f, -, rfl⟩ := List.mem_map.1 hd
    show (!(decide (parseErrorId = adviceId) && _)) = true
    rw [decide_eq_false (by decide), Bool.false_and]
    rfl
  unfold Model.diagnostics
  rw [List.filter_append, hfindings, List.filter_flatMap]
  refine congrArg _ (List.flatMap_congr fun rule hrule => ?_)
  exact ruleBlock_declare settings path m name
    (Rule.heedsDeclarations_standard rule hrule)

end

namespace Makefile

/-! ## The added line -/

theorem isHead_phony : IsHead ".PHONY" := by
  decide

theorem declaration_eq (name : Text) : (".PHONY: " ++ name : Text) = ruleText ".PHONY" [name] := by
  rw [ruleText, Text.join, List.intercalate_singleton]
  rfl

section

variable {name : Text} (hname : IsName name)
include hname

theorem beginsAnew_declaration : BeginsAnew (".PHONY: " ++ name : Text) := by
  have hneeds : ∀ p ∈ [name], IsName p := fun p hp => List.mem_singleton.1 hp ▸ hname
  refine ⟨rfl, nofun, ?_, ?_⟩
  · rw [declaration_eq]
    exact isContinued_ruleText isHead_phony hneeds
  · rw [declaration_eq, isConditional_ruleText isHead_phony]
    decide

theorem ofLines_declaration :
    ofLines [(".PHONY: " ++ name : Text)] = { phony := [name] } := by
  have hneeds : ∀ p ∈ [name], IsName p := fun p hp => List.mem_singleton.1 hp ▸ hname
  have hstep : step 1 (ruleText ".PHONY" [name]) {} = ({}, [.phony [name]]) := by
    rw [step_ruleText isHead_phony hneeds rfl, complete_ruleText isHead_phony hneeds]
    rfl
  have hitems : items [(".PHONY: " ++ name : Text)] = [.phony [name]] := by
    have hstart : Reading.ofLines step {} [(".PHONY: " ++ name : Text)]
        = Reading.onward step 0 {} [(".PHONY: " ++ name : Text)] := rfl
    unfold items
    dsimp only
    rw [hstart, Reading.items_onward_cons, Reading.state_onward_cons, declaration_eq, hstep]
    rfl
  unfold ofLines
  dsimp only
  rw [hitems]
  rfl

/-- **A declaration at the end of a makefile declares its name and does nothing else.** -/
theorem ofLines_append_declaration {lines : List Text}
    (h : (Reading.ofLines step {} lines).state.phase = .fresh) :
    ofLines (lines ++ [(".PHONY: " ++ name : Text)]) = (ofLines lines).declare name := by
  rw [ofLines_append h (beginsAnew_declaration hname), ofLines_declaration hname]
  unfold append shift declare
  simp

end

/-- **Following the advice about phony targets.** Where no line is left open at the end of a
makefile, a declaration that is added there takes away the advice about its name and changes no
other diagnostic. If the last line does not end in a backslash, a line can be left open only if the
last one is blank and one before it ends in two backslashes. Advice is given once for each name, at
the line of its first occurrence, and in the order of first occurrences. -/
theorem lintLines_append_declaration (lines : List Text)
    (hdefine : ∀ l ∈ lines, ¬ ("define" : Text) <:+: l)
    (hlast : ∀ l, lines.getLast? = some l → isContinued l = false) (settings : Settings)
    (path : Text) :
    (endsOpen lines = false → ∀ name, IsName name → ∃ found,
      lintLines settings .standard path (some .makefile) lines = .ok found ∧
      lintLines settings .standard path (some .makefile) (lines ++ [(".PHONY: " ++ name : Text)])
        = .ok (found.filter (!isAdvice name ·))) ∧
    (endsOpen lines = true → ∃ front last, lines = front ++ [last] ∧ Text.trim last = [] ∧
      ∃ l ∈ front, endsInTwoBackslashes l = true) ∧
    ∃ firsts, Advises settings.options.makefile (ofLines lines) firsts ∧
      missingPhony settings.options.makefile (ofLines lines) = firsts.map advice := by
  refine ⟨fun hopen name hname => ⟨_, rfl, congrArg Except.ok ?_⟩, fun hopen => ?_,
    ⟨_, advises_firstNamed _ _, missingPhony_eq _ _⟩⟩
  · rw [ofLines_append_declaration hname (phase_eq_fresh hdefine hlast hopen)]
    exact Model.diagnostics_declare settings path (ofLines lines) name
  · rcases List.eq_nil_or_concat' lines with rfl | ⟨front, last, rfl⟩
    · exact nomatch hopen
    · obtain ⟨hblank, htwo⟩ := blank_of_endsOpen (hlast last (by simp)) hopen
      exact ⟨front, last, rfl, hblank, htwo⟩

/-- A makefile with two pieces of advice, and a target that is defined twice. -/
theorem lintLines_append_declaration_of_clean :
    let lines : List Text := ["all: clean", "clean:", "\trm -rf $(OUT)", "clean:: x"]
    ∃ found, lintLines {} .standard "Makefile" (some .makefile) lines = .ok found ∧
      found.length = 3 ∧ (found.filter (!isAdvice "clean" ·)).length = 2 ∧
      lintLines {} .standard "Makefile" (some .makefile)
          (lines ++ [(".PHONY: " ++ "clean" : Text)])
        = .ok (found.filter (!isAdvice "clean" ·)) := by
  intro lines
  obtain ⟨found, hfound, hdeclared⟩ := (lintLines_append_declaration lines (by decide +kernel)
    (by rintro l ⟨⟩; decide) {} "Makefile").1 (by decide +kernel) "clean" (by decide)
  obtain rfl := Except.ok.inj hfound
  exact ⟨_, rfl, by decide +kernel, by decide +kernel, hdeclared⟩

/-- A declaration that is lost: it is joined to the two lines before it, and the advice stays. -/
theorem not_lintLines_append_declaration_of_two_backslashes :
    let lines : List Text := ["a: b\\\\", ""]
    (∀ l ∈ lines, ¬ ("define" : Text) <:+: l) ∧
    (∀ l, lines.getLast? = some l → isContinued l = false) ∧ IsName "a" ∧
    ∃ d, isAdvice "a" d = true ∧
      lintLines {} .standard "Makefile" (some .makefile) lines = .ok [d] ∧
      lintLines {} .standard "Makefile" (some .makefile) (lines ++ [(".PHONY: " ++ "a" : Text)])
        = .ok [d] := by
  intro lines
  refine ⟨by decide +kernel, by rintro l ⟨⟩; decide, by decide,
    (advice { name := "a", line := 1 }).stamp .info "Makefile" adviceId, by decide, ?_, ?_⟩
  · exact congrArg Except.ok (by decide +kernel)
  · exact congrArg Except.ok (by decide +kernel)

end Makefile

end OpsLint

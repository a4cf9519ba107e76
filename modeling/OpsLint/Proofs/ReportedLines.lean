import OpsLint.Lint
import OpsLint.Proofs.LineNumbers

/-!
# Every reported line exists

A rule finds its lines in the model. Whether it reports each of many things, the first of them, the
last, or one that repeats another, the line of a finding is the line of something in the model; and
what is missing and has no place is reported on line 1 (`Finding.On`). This is proved of each rule
by itself, and of a registry it is then a matter of going through its rules
(`Rule.anchored_standard`). Since every line number in a model is that of a line of the file, so is
every reported one.

A rule that fails is reported on no line at all, which is why such reports are left out.
-/

namespace OpsLint

/-! ## Rules that may fail -/

/-- Each result of a list of computations is the result of one of them. -/
theorem exists_of_mem_mapM {α β ε : Type} {f : α → Except ε β} {l : List α} {results : List β}
    (h : l.mapM f = .ok results) {b : β} (hb : b ∈ results) : ∃ a ∈ l, f a = .ok b := by
  induction l generalizing results with
  | nil =>
    rw [List.mapM_nil] at h
    rw [← Except.ok.inj h] at hb
    exact nomatch hb
  | cons a l ih =>
    rw [List.mapM_cons] at h
    obtain ⟨first, hfirst, h⟩ := exists_ok_of_bind_ok h
    obtain ⟨rest, hrest, h⟩ := exists_ok_of_bind_ok h
    rw [← Except.ok.inj h] at hb
    rcases List.mem_cons.1 hb with rfl | hb
    · exact ⟨a, List.mem_cons_self, hfirst⟩
    · obtain ⟨a', ha', hb⟩ := ih hrest hb
      exact ⟨a', List.mem_cons_of_mem a ha', hb⟩

theorem ok_of_mapError_ok {ε ε' α : Type} {x : Except ε α} {f : ε → ε'} {a : α}
    (h : x.mapError f = .ok a) : x = .ok a := by
  cases x with
  | error e => exact nomatch h
  | ok b => exact congrArg Except.ok (Except.ok.inj h)

/-! ## Findings on given lines -/

/-- The finding is on one of some lines. -/
def Finding.On (given : List Nat) (f : Finding) : Prop := ∃ n ∈ given, f.line = n

theorem Finding.On.mono {given given' : List Nat} {f : Finding} (h : f.On given)
    (hsub : given ⊆ given') : f.On given' := by
  obtain ⟨n, hn, hline⟩ := h
  exact ⟨n, hsub hn, hline⟩

theorem Finding.On.orOne {given : List Nat} {f : Finding} (h : f.On given) : f.On (1 :: given) :=
  h.mono (List.subset_cons_self 1 given)

/-- Findings about some things in a list are on the lines of these things. -/
theorem Finding.on_of_mem_map {α : Type} (number : α → Nat) {given : List Nat} {xs : List α}
    {report : α → Finding} (hreport : ∀ x, (report x).line = number x)
    (hgiven : ∀ x ∈ xs, number x ∈ given) {f : Finding} (h : f ∈ xs.map report) : f.On given := by
  obtain ⟨x, hx, rfl⟩ := List.mem_map.1 h
  exact ⟨number x, hgiven x hx, hreport x⟩

/-- A repeated element is an element. -/
theorem mem_of_mem_repeatsAfter {α κ : Type} [BEq κ] {key : α → κ} {firsts xs : List α}
    {t : α × α} (h : t ∈ repeatsAfter key firsts xs) : t.1 ∈ xs := by
  induction xs generalizing firsts with
  | nil => exact nomatch h
  | cons x xs ih =>
    unfold repeatsAfter at h
    split at h
    · rcases List.mem_cons.1 h with rfl | h
      · exact List.mem_cons_self
      · exact List.mem_cons_of_mem x (ih h)
    · exact List.mem_cons_of_mem x (ih h)

/-! ## Dockerfiles -/

namespace Dockerfile

variable {d : Dockerfile} {f : Finding}

theorem line_mem_lineNumbers {i : Instruction} (h : i ∈ d.instructions) :
    i.line ∈ d.lineNumbers :=
  List.mem_append_left _ (List.mem_flatMap.2 ⟨i, h, List.mem_cons_self⟩)

theorem mem_instructions_of_mem_find {keyword : Text} {i : Instruction} (h : i ∈ d.find keyword) :
    i ∈ d.instructions :=
  (List.mem_filter.1 h).1

theorem findings_on (h : f ∈ d.findings) : f.On d.lineNumbers :=
  Finding.on_of_mem_map Fault.line (fun _ => rfl)
    (fun _ hx => List.mem_append_right _ (List.mem_map_of_mem hx)) h

theorem line_of_imageFinding? {stages : List Text} {i : Instruction}
    (h : imageFinding? stages i = some f) : f.line = i.line := by
  unfold imageFinding? at h
  dsimp only at h
  split at h
  · exact nomatch h
  · obtain ⟨message, -, rfl⟩ := Option.map_eq_some_iff.1 h
    rfl

theorem imageFindings_on {stages : List Text} {is : List Instruction}
    (h : f ∈ imageFindings stages is) : f.On (is.map Instruction.line) := by
  induction is generalizing stages with
  | nil => exact nomatch h
  | cons i is ih =>
    rcases List.mem_append.1 h with h | h
    · exact ⟨i.line, List.mem_cons_self, line_of_imageFinding? (Option.mem_toList.1 h)⟩
    · exact (ih h).mono (List.subset_cons_self _ _)

theorem unpinnedImages_on (options : Options) (h : f ∈ unpinnedImages options d) :
    f.On d.lineNumbers := by
  unfold unpinnedImages at h
  split at h
  · exact nomatch h
  · refine (imageFindings_on h).mono (fun n hn => ?_)
    obtain ⟨i, hi, rfl⟩ := List.mem_map.1 hn
    exact line_mem_lineNumbers (mem_instructions_of_mem_find hi)

/-- What is missing is reported at the last build stage, or on line 1. -/
theorem anchorLine_mem (d : Dockerfile) : d.anchorLine ∈ 1 :: d.lineNumbers := by
  unfold anchorLine
  cases hlast : (d.find "FROM").getLast? with
  | none => exact List.mem_cons_self
  | some i =>
    have hi := mem_instructions_of_mem_find (List.mem_of_getLast? hlast)
    exact List.mem_cons_of_mem 1 (line_mem_lineNumbers hi)

theorem missingUser_on (options : Options) (h : f ∈ missingUser options d) :
    f.On (1 :: d.lineNumbers) := by
  unfold missingUser at h
  split at h
  · exact nomatch h
  · rw [List.mem_singleton.1 h]
    exact ⟨d.anchorLine, anchorLine_mem d, rfl⟩

theorem missingHealthcheck_on (options : Options) (h : f ∈ missingHealthcheck options d) :
    f.On (1 :: d.lineNumbers) := by
  unfold missingHealthcheck at h
  split at h
  · exact nomatch h
  · rw [List.mem_singleton.1 h]
    exact ⟨d.anchorLine, anchorLine_mem d, rfl⟩

theorem rootUser_on (h : f ∈ rootUser d) : f.On d.lineNumbers := by
  unfold rootUser at h
  split at h
  · exact nomatch h
  · rename_i i hlast
    have hi := mem_instructions_of_mem_find (List.mem_of_getLast? hlast)
    dsimp only at h
    split at h
    · rw [List.mem_singleton.1 h]
      exact ⟨i.line, line_mem_lineNumbers hi, rfl⟩
    · exact nomatch h

end Dockerfile

/-! ## Makefiles -/

namespace Makefile

variable {m : Makefile} {f : Finding}

theorem line_mem_lineNumbers {t : Target} (h : t ∈ m.targets) : t.line ∈ m.lineNumbers :=
  List.mem_append_left _ (List.mem_append_left _ (List.mem_flatMap.2 ⟨t, h, List.mem_cons_self⟩))

theorem findings_on (h : f ∈ m.findings) : f.On m.lineNumbers :=
  Finding.on_of_mem_map Prod.fst (fun _ => rfl)
    (fun _ hx => List.mem_append_right _ (List.mem_map_of_mem hx)) h

theorem missingPhony_on (options : Options) (h : f ∈ missingPhony options m) :
    f.On m.lineNumbers := by
  unfold missingPhony at h
  split at h
  · obtain ⟨name, -, h⟩ := List.mem_filterMap.1 h
    obtain ⟨first, hfirst, rfl⟩ := Option.map_eq_some_iff.1 h
    have htarget : first ∈ m.targets := (List.mem_filter.1 (List.mem_of_head? hfirst)).1
    exact ⟨first.line, line_mem_lineNumbers htarget, rfl⟩
  · exact nomatch h

theorem duplicateTargets_on (h : f ∈ duplicateTargets m) : f.On m.lineNumbers := by
  refine Finding.on_of_mem_map (fun t => t.1.line) (fun _ => rfl) (fun t ht => ?_) h
  have htarget : t.1 ∈ m.targets := (List.mem_filter.1 (mem_of_mem_repeatsAfter ht)).1
  exact line_mem_lineNumbers htarget

theorem unquotedVariables_on (h : f ∈ unquotedVariables m) : f.On m.lineNumbers := by
  refine Finding.on_of_mem_map VariableRef.line (fun _ => rfl) (fun ref href => ?_) h
  have href : ref ∈ m.refs := (List.mem_filter.1 href).1
  exact List.mem_append_left _ (List.mem_append_right _ (List.mem_map_of_mem href))

end Makefile

/-! ## Environment files -/

namespace Env

variable {e : Env} {f : Finding}

theorem line_mem_lineNumbers {a : Assignment} (h : a ∈ e.assignments) : a.line ∈ e.lineNumbers :=
  List.mem_append_left _ (List.mem_map_of_mem h)

theorem findings_on (h : f ∈ e.findings) : f.On e.lineNumbers :=
  Finding.on_of_mem_map Fault.line (fun _ => rfl)
    (fun _ hx => List.mem_append_right _ (List.mem_map_of_mem hx)) h

theorem weakValues_on (options : Options) {found : List Finding}
    (hok : weakValues options e = .ok found) (h : f ∈ found) : f.On e.lineNumbers := by
  unfold weakValues at hok
  split at hok
  · obtain ⟨t, ht, hf⟩ := exists_of_mem_mapM hok h
    obtain ⟨a, ha, hsome⟩ := List.mem_filterMap.1 ht
    obtain ⟨w, -, rfl⟩ := Option.map_eq_some_iff.1 hsome
    obtain ⟨message, -, hf⟩ := exists_ok_of_bind_ok hf
    rw [← Except.ok.inj hf]
    exact ⟨a.line, line_mem_lineNumbers ha, rfl⟩
  · rw [← Except.ok.inj hok] at h
    exact nomatch h

theorem duplicateKeys_on (h : f ∈ duplicateKeys e) : f.On e.lineNumbers := by
  refine Finding.on_of_mem_map (fun t => t.1.line) (fun _ => rfl) (fun t ht => ?_) h
  exact line_mem_lineNumbers (mem_of_mem_repeatsAfter ht)

theorem spacing_on (h : f ∈ spacing e) : f.On e.lineNumbers := by
  refine Finding.on_of_mem_map Assignment.line (fun _ => rfl) (fun a ha => ?_) h
  exact line_mem_lineNumbers (List.mem_filter.1 ha).1

end Env

/-! ## Crontabs -/

namespace Crontab

variable {c : Crontab} {f : Finding}

theorem line_mem_lineNumbers {e : Entry} (h : e ∈ c.entries) : e.line ∈ c.lineNumbers :=
  List.mem_append_left _ (List.mem_map_of_mem h)

theorem findings_on (h : f ∈ c.findings) : f.On c.lineNumbers :=
  Finding.on_of_mem_map Prod.fst (fun _ => rfl)
    (fun _ hx => List.mem_append_right _ (List.mem_map_of_mem hx)) h

theorem line_of_mem_entryFindings {e : Entry} {found : List Finding}
    (hok : entryFindings e = .ok found) (h : f ∈ found) : f.line = e.line := by
  unfold entryFindings at hok
  split at hok
  · rw [← Except.ok.inj hok] at h
    exact nomatch h
  · obtain ⟨results, hresults, hok⟩ := exists_ok_of_bind_ok hok
    rw [← Except.ok.inj hok] at h
    obtain ⟨result, hresult, rfl⟩ := List.mem_filterMap.1 h
    obtain ⟨t, -, hfield⟩ := exists_of_mem_mapM hresults hresult
    obtain ⟨problem?, -, hfield⟩ := exists_ok_of_bind_ok hfield
    obtain ⟨problem, -, rfl⟩ := Option.map_eq_some_iff.1 (Except.ok.inj hfield)
    rfl

theorem invalidFields_on {found : List Finding} (hok : invalidFields c = .ok found)
    (h : f ∈ found) : f.On c.lineNumbers := by
  obtain ⟨blocks, hblocks, hok⟩ := exists_ok_of_bind_ok hok
  rw [← Except.ok.inj hok] at h
  obtain ⟨block, hblock, h⟩ := List.mem_flatten.1 h
  obtain ⟨e, he, hentry⟩ := exists_of_mem_mapM hblocks hblock
  exact ⟨e.line, line_mem_lineNumbers he, line_of_mem_entryFindings hentry h⟩

theorem everyMinute_on (options : Options) (h : f ∈ everyMinute options c) :
    f.On c.lineNumbers := by
  unfold everyMinute at h
  split at h
  · exact nomatch h
  · refine Finding.on_of_mem_map Entry.line (fun _ => rfl) (fun e he => ?_) h
    exact line_mem_lineNumbers (List.mem_filter.1 he).1

end Crontab

/-! ## Units -/

namespace Systemd

variable {u : Systemd} {f : Finding}

theorem mem_lineNumbers {s : Section} (h : s ∈ u.sections) {n : Nat} (hn : n ∈ s.lineNumbers) :
    n ∈ u.lineNumbers :=
  List.mem_append_left _ (List.mem_flatMap.2 ⟨s, h, hn⟩)

theorem findings_on (h : f ∈ u.findings) : f.On u.lineNumbers :=
  Finding.on_of_mem_map Prod.fst (fun _ => rfl)
    (fun _ hx => List.mem_append_right _ (List.mem_map_of_mem hx)) h

theorem missingRestart_on (options : Options) (h : f ∈ missingRestart options u) :
    f.On u.lineNumbers := by
  unfold missingRestart at h
  split at h
  · refine Finding.on_of_mem_map Section.line (fun _ => rfl) (fun s hs => ?_) h
    have hs : s ∈ u.sections := (List.mem_filter.1 (List.mem_filter.1 hs).1).1
    exact mem_lineNumbers hs List.mem_cons_self
  · exact nomatch h

theorem missingDescription_on (h : f ∈ missingDescription u) : f.On (1 :: u.lineNumbers) := by
  unfold missingDescription at h
  dsimp only at h
  split at h
  · exact nomatch h
  · rw [List.mem_singleton.1 h]
    cases hhead : (u.named "Unit").head? with
    | none => exact ⟨1, List.mem_cons_self, rfl⟩
    | some s =>
      have hs : s ∈ u.sections := (List.mem_filter.1 (List.mem_of_head? hhead)).1
      exact ⟨s.line, List.mem_cons_of_mem 1 (mem_lineNumbers hs List.mem_cons_self), rfl⟩

theorem line_of_relativeCommand? {d : Directive} (h : relativeCommand? d = some f) :
    f.line = d.line := by
  unfold relativeCommand? at h
  dsimp only at h
  split at h
  · rw [← Option.some.inj h]
  · exact nomatch h

theorem relativeCommands_on (h : f ∈ relativeCommands u) : f.On u.lineNumbers := by
  obtain ⟨d, hd, hsome⟩ := List.mem_filterMap.1 h
  obtain ⟨s, hs, hd⟩ := List.mem_flatMap.1 hd
  have hn : d.line ∈ s.lineNumbers := List.mem_cons_of_mem _ (List.mem_map_of_mem hd)
  exact ⟨d.line, mem_lineNumbers hs hn, line_of_relativeCommand? hsome⟩

end Systemd

/-! ## All rules -/

namespace Rule

/-- A check that reports lines of the model, and line 1. -/
def Check.Anchored (c : Check) : Prop :=
  ∀ context model found, c context model = .ok found → ∀ f ∈ found, f.On (1 :: model.lineNumbers)

theorem Check.anchored_dockerfile {check : Dockerfile.Options → Dockerfile → List Finding}
    (h : ∀ options d, ∀ f ∈ check options d, f.On (1 :: d.lineNumbers)) :
    (Check.dockerfile check).Anchored := by
  intro context model found hok
  cases model with
  | dockerfile d => rw [← Except.ok.inj hok]; exact h context.options.dockerfile d
  | _ => rw [← Except.ok.inj hok]; exact fun _ hf => nomatch hf

theorem Check.anchored_makefile {check : Makefile.Options → Makefile → List Finding}
    (h : ∀ options m, ∀ f ∈ check options m, f.On (1 :: m.lineNumbers)) :
    (Check.makefile check).Anchored := by
  intro context model found hok
  cases model with
  | makefile m => rw [← Except.ok.inj hok]; exact h context.options.makefile m
  | _ => rw [← Except.ok.inj hok]; exact fun _ hf => nomatch hf

theorem Check.anchored_env {check : Env.Options → Env → Except Numeral.Error (List Finding)}
    (h : ∀ options e found, check options e = .ok found → ∀ f ∈ found, f.On (1 :: e.lineNumbers)) :
    (Check.env check).Anchored := by
  intro context model found hok
  cases model with
  | env e => exact h context.options.env e found (ok_of_mapError_ok hok)
  | _ => rw [← Except.ok.inj hok]; exact fun _ hf => nomatch hf

theorem Check.anchored_crontab
    {check : Crontab.Options → Crontab → Except Numeral.Error (List Finding)}
    (h : ∀ options c found, check options c = .ok found → ∀ f ∈ found, f.On (1 :: c.lineNumbers)) :
    (Check.crontab check).Anchored := by
  intro context model found hok
  cases model with
  | crontab c => exact h context.options.crontab c found (ok_of_mapError_ok hok)
  | _ => rw [← Except.ok.inj hok]; exact fun _ hf => nomatch hf

theorem Check.anchored_systemd {check : Systemd.Options → Systemd → List Finding}
    (h : ∀ options u, ∀ f ∈ check options u, f.On (1 :: u.lineNumbers)) :
    (Check.systemd check).Anchored := by
  intro context model found hok
  cases model with
  | systemd u => rw [← Except.ok.inj hok]; exact h context.options.systemd u
  | _ => rw [← Except.ok.inj hok]; exact fun _ hf => nomatch hf

/-- **The rules of this library report lines of the model, and line 1.** -/
theorem anchored_standard : ∀ rule ∈ Rule.standard, rule.check.Anchored := by
  unfold Rule.standard
  simp only [List.forall_mem_cons]
  refine ⟨?_, ?_, ?_, ?_, ?_, ?_, ?_, ?_, ?_, ?_, ?_, ?_, ?_, ?_, ?_, fun _ h => nomatch h⟩
  · exact Check.anchored_dockerfile fun options _ _ h =>
      (Dockerfile.unpinnedImages_on options h).orOne
  · exact Check.anchored_dockerfile fun options _ _ => Dockerfile.missingUser_on options
  · exact Check.anchored_dockerfile fun options _ _ => Dockerfile.missingHealthcheck_on options
  · exact Check.anchored_dockerfile fun _ _ _ h => (Dockerfile.rootUser_on h).orOne
  · exact Check.anchored_makefile fun options _ _ h => (Makefile.missingPhony_on options h).orOne
  · exact Check.anchored_makefile fun _ _ _ h => (Makefile.duplicateTargets_on h).orOne
  · exact Check.anchored_makefile fun _ _ _ h => (Makefile.unquotedVariables_on h).orOne
  · exact Check.anchored_env fun options _ _ hok _ h => (Env.weakValues_on options hok h).orOne
  · exact Check.anchored_env fun _ _ _ hok _ h =>
      (Env.duplicateKeys_on (Except.ok.inj hok ▸ h)).orOne
  · exact Check.anchored_env fun _ _ _ hok _ h => (Env.spacing_on (Except.ok.inj hok ▸ h)).orOne
  · exact Check.anchored_crontab fun _ _ _ hok _ h => (Crontab.invalidFields_on hok h).orOne
  · exact Check.anchored_crontab fun options _ _ hok _ h =>
      (Crontab.everyMinute_on options (Except.ok.inj hok ▸ h)).orOne
  · exact Check.anchored_systemd fun options _ _ h => (Systemd.missingRestart_on options h).orOne
  · exact Check.anchored_systemd fun _ _ _ => Systemd.missingDescription_on
  · exact Check.anchored_systemd fun _ _ _ h => (Systemd.relativeCommands_on h).orOne

end Rule

/-! ## Diagnostics -/

namespace Model

theorem findings_on {model : Model} {f : Finding} (h : f ∈ model.findings) :
    f.On model.lineNumbers := by
  cases model with
  | dockerfile d => exact Dockerfile.findings_on h
  | makefile m => exact Makefile.findings_on h
  | env e => exact Env.findings_on h
  | crontab c => exact Crontab.findings_on h
  | systemd u => exact Systemd.findings_on h

/-- A diagnostic is on a line of the model or on line 1, unless it says that a rule has failed. -/
theorem exists_line_of_mem_diagnostics {model : Model} {settings : Settings} {path : Text}
    {registry : Registry} (hanchored : ∀ rule ∈ registry.rules, rule.check.Anchored)
    {d : Diagnostic} (h : d ∈ model.diagnostics settings registry path)
    (hid : d.ruleId ≠ ruleErrorId) : ∃ n ∈ 1 :: model.lineNumbers, d.line = n := by
  rcases List.mem_append.1 h with h | h
  · obtain ⟨f, hf, rfl⟩ := List.mem_map.1 h
    exact (findings_on hf).orOne
  · obtain ⟨rule, hrule, h⟩ := List.mem_flatMap.1 h
    unfold ruleBlock at h
    split at h
    · split at h
      · rename_i found hfound
        obtain ⟨f, hf, rfl⟩ := List.mem_map.1 h
        exact hanchored rule (List.mem_filter.1 hrule).1 _ _ found hfound f hf
      · rw [List.mem_singleton.1 h] at hid
        exact absurd rfl hid
    · exact nomatch h

/-- **Every line that is reported or stored exists.** -/
theorem reported_lines_exist {kind : FileKind} {lines : List Text} {model : Model}
    (h : ofLines kind lines = .ok model) :
    (∀ n ∈ model.lineNumbers, 1 ≤ n ∧ n ≤ max 1 lines.length) ∧
      ∀ settings path, ∀ d ∈ model.diagnostics settings .standard path, d.ruleId ≠ ruleErrorId →
        1 ≤ d.line ∧ d.line ≤ max 1 lines.length := by
  have hmodel : ∀ n ∈ model.lineNumbers, IsLineNumber (max 1 lines.length) n :=
    fun n hn => isLineNumber_of_mem h hn
  refine ⟨hmodel, fun settings path d hd hid => ?_⟩
  obtain ⟨n, hn, hline⟩ := exists_line_of_mem_diagnostics Rule.anchored_standard hd hid
  have hone : IsLineNumber (max 1 lines.length) 1 := ⟨Nat.le_refl 1, Nat.le_max_left 1 _⟩
  obtain ⟨hlow, hhigh⟩ := List.forall_mem_cons.2 ⟨hone, hmodel⟩ n hn
  rw [hline]
  omega

/-- An instruction is continued, and a heredoc is open at the end: the instruction it belongs to
ends at the last line. -/
theorem reported_lines_exist_heredoc :
    let lines : List Text := ["FROM alpine \\", "", "  AS base", "RUN <<EOF", "true"]
    ∃ model, ofLines .dockerfile lines = .ok model ∧ model.lineNumbers = [1, 3, 4, 5, 4] ∧
      (model.diagnostics {} .standard "Dockerfile").map Diagnostic.line = [4, 1, 1, 1] ∧
      (∀ n ∈ model.lineNumbers, 1 ≤ n ∧ n ≤ max 1 lines.length) ∧
      ∀ settings path, ∀ d ∈ model.diagnostics settings .standard path, d.ruleId ≠ ruleErrorId →
        1 ≤ d.line ∧ d.line ≤ max 1 lines.length := by
  intro lines
  have hmodel : ∃ model, ofLines .dockerfile lines = .ok model ∧
      model.lineNumbers = [1, 3, 4, 5, 4] ∧
      (model.diagnostics {} .standard "Dockerfile").map Diagnostic.line = [4, 1, 1, 1] :=
    ⟨_, rfl, by decide +kernel, by decide +kernel⟩
  obtain ⟨model, hread, hnumbers, hlines⟩ := hmodel
  exact ⟨model, hread, hnumbers, hlines, reported_lines_exist hread⟩

end Model

end OpsLint

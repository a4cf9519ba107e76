import OpsLint.Proofs.Numerals
import OpsLint.Rule.Registry

/-!
# A stricter policy on secrets

Whether the value of a secret is weak is asked in four questions, and the first one that is answered
in the affirmative decides what is said of it. For whether anything is said their order does not
matter: a value is reported if **one** of the four answers is affirmative
(`Options.weakness?_isSome_iff`). Each of them, and each of the conditions under which the questions
are asked at all, depends on one option, and it can only become true when that option is tightened.

So nothing that is reported is passed over under stricter options (`Options.Reports.tighten`). What
is said of it may change: a value that was too short can turn out to be a common one.

The least entropy is a floating-point number, and two of these can be equal without being the same:
there are two zeros. But equal numbers have the same numbers below them (`lt_iff_of_beq`).
-/

namespace OpsLint.Env

/-! ## Equal numbers -/

section

open Float.Model

theorem eq_of_then_eq {e e' : Int} {m m' : Nat}
    (h : (compare e e').then (compare m m') = .eq) : e = e' ∧ m = m' := by
  rw [Ordering.then_eq_eq] at h
  exact ⟨Std.LawfulEqOrd.eq_of_compare h.1, Std.LawfulEqOrd.eq_of_compare h.2⟩

/-- Finite numbers that are equal are the same. -/
theorem finite_eq_of_compare {s s' : UnpackedFloat.Sign} {m m' : Nat} {e e' : Int} {hm : 0 < m}
    {hm' : 0 < m'}
    (h : (UnpackedFloat.finite s m e hm).compare (.finite s' m' e' hm') = some .eq) :
    UnpackedFloat.finite s m e hm = .finite s' m' e' hm' := by
  cases s with
  | negative =>
    cases s' with
    | negative =>
      have hswap := Option.some.inj h
      rw [Ordering.swap_eq_eq] at hswap
      obtain ⟨rfl, rfl⟩ := eq_of_then_eq hswap
      rfl
    | positive => cases h
  | positive =>
    cases s' with
    | negative => cases h
    | positive =>
      obtain ⟨rfl, rfl⟩ := eq_of_then_eq (Option.some.inj h)
      rfl

/-- Numbers that are equal are the same, zeros apart. -/
theorem eq_or_zero_of_compare {a b : UnpackedFloat} (h : a.compare b = some .eq) :
    a = b ∨ ∃ s s', a = .zero s ∧ b = .zero s' := by
  cases a with
  | notANumber => cases b <;> cases h
  | infinity s =>
    cases b with
    | infinity s' =>
      cases s with
      | negative => cases s' with
        | negative => exact .inl rfl
        | positive => cases h
      | positive => cases s' with
        | negative => cases h
        | positive => exact .inl rfl
    | notANumber => cases s <;> cases h
    | zero s' => cases s <;> cases h
    | finite s' m' e' hm' => cases s <;> cases h
  | zero s =>
    cases b with
    | infinity s' => cases s' <;> cases h
    | notANumber => cases h
    | zero s' => exact .inr ⟨s, s', rfl, rfl⟩
    | finite s' m' e' hm' => cases s' <;> cases h
  | finite s m e hm =>
    cases b with
    | infinity s' => cases s <;> cases s' <;> cases h
    | notANumber => cases s <;> cases h
    | zero s' => cases s <;> cases h
    | finite s' m' e' hm' => exact .inl (finite_eq_of_compare h)

/-- The sign of a zero does not matter to what it is compared with. -/
theorem compare_zero (c : UnpackedFloat) (s s' : UnpackedFloat.Sign) :
    c.compare (.zero s) = c.compare (.zero s') := by
  cases c with
  | infinity sign => cases sign <;> rfl
  | notANumber => rfl
  | zero sign => rfl
  | finite sign m e hm => cases sign <;> rfl

/-- **Equal numbers have the same numbers below them.** -/
theorem lt_iff_of_beq {x y : Float} (h : (x == y) = true) (z : Float) : z < x ↔ z < y := by
  have hequal : x.toModel.unpack.compare y.toModel.unpack = some .eq := eq_of_beq h
  have hcompare : z.toModel.unpack.compare x.toModel.unpack
      = z.toModel.unpack.compare y.toModel.unpack := by
    obtain hsame | ⟨s, s', hx, hy⟩ := eq_or_zero_of_compare hequal
    · rw [hsame]
    · rw [hx, hy]
      exact compare_zero _ s s'
  show decide ((z.toModel.unpack.compare x.toModel.unpack == some .lt) = true) = true ↔
    decide ((z.toModel.unpack.compare y.toModel.unpack == some .lt) = true) = true
  rw [hcompare]

end

/-! ## What is reported -/

/-- **The value of an assignment is reported**: its key is marked as that of a secret, it neither
refers to a variable nor is allowed, and it is weak. -/
structure Options.Reports (options : Options) (a : Assignment) : Prop where
  marked : ∃ marker ∈ options.secretKeyMarkers,
    Text.hasInfix (Text.lower marker) (Text.lower a.key) = true
  notReference : isReference a.value = false
  notAllowed : ∀ pattern ∈ options.allowedWeakPatterns, Glob.isMatch pattern a.value = false
  weak : a.value = [] ∨ (∃ w ∈ options.weakValues, Text.lower w = Text.lower a.value) ∨
    a.value.length < options.minSecretLength ∨ entropy a.value < options.minSecretEntropy

/-- The order of the questions matters only for which of them is answered. -/
theorem weakness?_isSome_iff (value : Text) (common : List Text) (minLength : Nat)
    (minEntropy : Float) :
    (weakness? value common minLength minEntropy).isSome = true ↔
      value = [] ∨ Text.lower value ∈ common ∨ value.length < minLength ∨
        entropy value < minEntropy := by
  unfold weakness?
  simp only [List.isEmpty_iff, List.contains_iff_mem]
  split
  · simp [*]
  · split
    · simp [*]
    · split
      · simp [*]
      · split
        · simp [*]
        · simp [*]

theorem Options.weakness?_isSome_iff (options : Options) (a : Assignment) :
    (options.weakness? a).isSome = true ↔ options.Reports a := by
  have hmarked : options.marksSecret a.key = true ↔ ∃ marker ∈ options.secretKeyMarkers,
      Text.hasInfix (Text.lower marker) (Text.lower a.key) = true := by
    simp [Options.marksSecret]
  have hexempt : (!options.exempts a.value) = true ↔ isReference a.value = false ∧
      ∀ pattern ∈ options.allowedWeakPatterns, Glob.isMatch pattern a.value = false := by
    simp [Options.exempts]
  unfold Options.weakness?
  split
  · rename_i h
    rw [Bool.and_eq_true, hmarked, hexempt] at h
    rw [Env.weakness?_isSome_iff, List.mem_map]
    exact ⟨fun hweak => ⟨h.1, h.2.1, h.2.2, hweak⟩, Options.Reports.weak⟩
  · rename_i h
    rw [Bool.and_eq_true, hmarked, hexempt] at h
    exact iff_of_false Bool.false_ne_true fun hr => h ⟨hr.marked, hr.notReference, hr.notAllowed⟩

instance (options : Options) : DecidablePred options.Reports :=
  fun a => decidable_of_iff _ (options.weakness?_isSome_iff a)

/-- The assignments of an environment file that are reported. -/
def Options.reported (options : Options) (e : Env) : List Assignment :=
  e.assignments.filter fun a => options.Reports a

/-! ## Stricter options -/

/-- **The second options are at least as strict**: they have all the weak values and markers of the
first, ask for no shorter secrets and an equal entropy, and allow nothing that the first do not. -/
structure Options.TightenedBy (loose strict : Options) : Prop where
  weakValues : loose.weakValues ⊆ strict.weakValues
  markers : loose.secretKeyMarkers ⊆ strict.secretKeyMarkers
  patterns : strict.allowedWeakPatterns ⊆ loose.allowedWeakPatterns
  length : loose.minSecretLength ≤ strict.minSecretLength
  entropy : (loose.minSecretEntropy == strict.minSecretEntropy) = true

/-- **What is reported stays reported.** -/
theorem Options.Reports.tighten {loose strict : Options} (h : loose.TightenedBy strict)
    {a : Assignment} (ha : loose.Reports a) : strict.Reports a where
  marked := by
    obtain ⟨marker, hmem, hkey⟩ := ha.marked
    exact ⟨marker, h.markers hmem, hkey⟩
  notReference := ha.notReference
  notAllowed pattern hpattern := ha.notAllowed pattern (h.patterns hpattern)
  weak := by
    obtain hempty | ⟨w, hmem, hw⟩ | hshort | hentropy := ha.weak
    · exact .inl hempty
    · exact .inr (.inl ⟨w, h.weakValues hmem, hw⟩)
    · exact .inr (.inr (.inl (Nat.lt_of_lt_of_le hshort h.length)))
    · exact .inr (.inr (.inr ((lt_iff_of_beq h.entropy _).1 hentropy)))

/-! ## The reports -/

/-- A report that the value of an assignment is weak: it is on the line of the assignment and names
its key. -/
def IsReportOn (a : Assignment) (f : Finding) : Prop :=
  ∃ reason, f = { line := a.line, message := "Weak value for '" ++ a.key ++ "': " ++ reason }

theorem Options.eq_of_weakness?_eq_short {options : Options} {a : Assignment} {least : Nat}
    (h : options.weakness? a = some (.short least)) : least = options.minSecretLength := by
  unfold Options.weakness? Env.weakness? at h
  split at h
  · split at h
    · cases h
    · split at h
      · cases h
      · split at h
        · cases h
          rfl
        · split at h <;> cases h
  · cases h

/-- What is weak can be reported if the least length can be written. -/
theorem exists_weakFinding {options : Options}
    (hlength : options.minSecretLength < Nat.pow 10 Numeral.digitLimit) {a : Assignment}
    {w : Weakness} (hw : options.weakness? a = some w) :
    ∃ f, weakFinding a w = .ok f ∧ IsReportOn a f := by
  have hmessage : ∃ reason, w.message = .ok reason := by
    cases w with
    | empty => exact ⟨_, rfl⟩
    | common => exact ⟨_, rfl⟩
    | short least =>
      rw [Options.eq_of_weakness?_eq_short hw, Weakness.message, Numeral.write_of_lt hlength]
      exact ⟨_, rfl⟩
    | lowEntropy entropy least => exact ⟨_, rfl⟩
  obtain ⟨reason, hreason⟩ := hmessage
  unfold weakFinding
  rw [hreason]
  exact ⟨_, rfl, reason, rfl⟩

/-- **The reports are those on the assignments that are reported**, one on each and in their
order. -/
theorem exists_weakValues {options : Options} (hon : options.checkWeakPasswords = true)
    (hlength : options.minSecretLength < Nat.pow 10 Numeral.digitLimit) (e : Env) :
    ∃ found, weakValues options e = .ok found ∧
      List.Forall₂ IsReportOn (options.reported e) found := by
  unfold weakValues Options.reported
  rw [if_pos hon]
  induction e.assignments with
  | nil => exact ⟨[], rfl, .nil⟩
  | cons a assignments ih =>
    obtain ⟨found, hfound, hreports⟩ := ih
    have hiff := options.weakness?_isSome_iff a
    rw [List.filterMap_cons]
    cases hw : options.weakness? a with
    | none =>
      rw [hw] at hiff
      rw [List.filter_cons_of_neg (by simpa using hiff.symm)]
      exact ⟨found, hfound, hreports⟩
    | some w =>
      rw [hw] at hiff
      obtain ⟨f, hf, hreport⟩ := exists_weakFinding hlength hw
      rw [List.filter_cons_of_pos (by simpa using hiff.symm)]
      refine ⟨f :: found, ?_, .cons hreport hreports⟩
      simp only [Option.map_some, List.mapM_cons, hf, hfound]
      rfl

theorem map_line_of_forall₂ {reported : List Assignment} {found : List Finding}
    (h : List.Forall₂ IsReportOn reported found) :
    found.map Finding.line = reported.map fun a => (a.line : Int) := by
  induction h with
  | nil => rfl
  | cons hf _ ih =>
    obtain ⟨reason, rfl⟩ := hf
    rw [List.map_cons, List.map_cons, ih]

/-- **Reports on assignments of an environment file**, at most one on each and in their order. -/
structure ReportsAmong (e : Env) (reported : List Assignment) (found : List Finding) : Prop where
  reports : List.Forall₂ IsReportOn reported found
  among : reported.Sublist e.assignments
  lines : (found.map Finding.line).Sublist (e.assignments.map fun a => (a.line : Int))

theorem exists_reportsAmong {options : Options} (hon : options.checkWeakPasswords = true)
    (hlength : options.minSecretLength < Nat.pow 10 Numeral.digitLimit) (e : Env) :
    ∃ found, weakValues options e = .ok found ∧ ReportsAmong e (options.reported e) found := by
  obtain ⟨found, hfound, hreports⟩ := exists_weakValues hon hlength e
  refine ⟨found, hfound, hreports, List.filter_sublist, ?_⟩
  rw [map_line_of_forall₂ hreports]
  exact List.filter_sublist.map _

/-- **A stricter policy passes over nothing that was reported.** Under both options the assignments
that are reported are reported once each, in their order and on their lines. -/
theorem check_weakValues_tightened {loose strict : Rule.Context}
    (hloose : loose.options.env.checkWeakPasswords = true)
    (hstrict : strict.options.env.checkWeakPasswords = true)
    (h : loose.options.env.TightenedBy strict.options.env)
    (hlength : strict.options.env.minSecretLength < Nat.pow 10 Numeral.digitLimit) (e : Env) :
    ∃ rule found found', Registry.standard.get? "env-weak-value" = some rule ∧
      rule.check loose (.env e) = .ok found ∧ ReportsAmong e (loose.options.env.reported e) found ∧
      rule.check strict (.env e) = .ok found' ∧
      ReportsAmong e (strict.options.env.reported e) found' ∧
      (loose.options.env.reported e).Sublist (strict.options.env.reported e) := by
  obtain ⟨found, hfound, hreports⟩ :=
    exists_reportsAmong hloose (Nat.lt_of_le_of_lt h.length hlength) e
  obtain ⟨found', hfound', hreports'⟩ := exists_reportsAmong hstrict hlength e
  refine ⟨_, found, found', rfl, ?_, hreports, ?_, hreports', ?_⟩
  · exact congrArg (Except.mapError Rule.Failure.numeral) hfound
  · exact congrArg (Except.mapError Rule.Failure.numeral) hfound'
  · refine List.monotone_filter_right _ fun a ha => ?_
    exact decide_eq_true (Options.Reports.tighten h (of_decide_eq_true ha))

/-- A value that was too short is a common one under the stricter options, a second key is marked
there, and a third value is no longer allowed. -/
theorem check_weakValues_tightened_of_two_markers :
    let loose : Rule.Context :=
      { ruleId := "env-weak-value"
        path := "a.env"
        severity := .warning
        options.env := {
          weakValues := ["admin"]
          secretKeyMarkers := ["TOKEN"]
          allowedWeakPatterns := ["dev*", "x?"]
          minSecretLength := 4
          minSecretEntropy := 0.0 } }
    let strict : Rule.Context :=
      { ruleId := "env-weak-value"
        path := "a.env"
        severity := .error
        options.env := {
          weakValues := ["abc", "admin"]
          secretKeyMarkers := ["key", "TOKEN"]
          allowedWeakPatterns := ["x?"]
          minSecretLength := 8
          minSecretEntropy := -0.0 } }
    let assign (key value : Text) (line : Nat) : Assignment :=
      { key, rawValue := value, quoted := false, line, rawKey := key, equalsColumn := 0 }
    let e : Env :=
      { assignments := [assign "api_token" "ABC" 1, assign "KEY" "1234567" 2,
          assign "DEV_TOKEN" "dev" 3] }
    loose.options.env.Reports (assign "api_token" "ABC" 1) ∧
    loose.options.env.TightenedBy strict.options.env ∧
    ∃ rule found found', Registry.standard.get? "env-weak-value" = some rule ∧
      rule.check loose (.env e) = .ok found ∧ ReportsAmong e (loose.options.env.reported e) found ∧
      rule.check strict (.env e) = .ok found' ∧
      ReportsAmong e (strict.options.env.reported e) found' ∧
      (loose.options.env.reported e).Sublist (strict.options.env.reported e) := by
  intro loose strict assign e
  have htightened : loose.options.env.TightenedBy strict.options.env :=
    ⟨by decide, by decide, by decide, by decide, by decide +kernel⟩
  refine ⟨⟨⟨"TOKEN", ?_, ?_⟩, ?_, ?_, .inr (.inr (.inl ?_))⟩, htightened, ?_⟩
  · decide +kernel
  · decide +kernel
  · decide +kernel
  · decide +kernel
  · decide +kernel
  · exact check_weakValues_tightened rfl rfl htightened (by decide +kernel) e

end OpsLint.Env

import OpsLint.Env.Rules
import OpsLint.Proofs.EnvLines

/-!
# Comments after assignments

A comment can be put after an assignment (`withComment`). The line is an assignment of the same key
then, and the comment belongs to what stands after the equals sign (`Assignment.ReadFrom.append`).

What this means stays the same **if there is something to comment on** (`keepsMeaning_iff`). Blanks
are taken off a value before a comment is looked for, so after an equals sign with nothing behind it
the number sign begins the value: a comment turns a missing secret into one that is not empty.

The rule for weak values looks at lines, keys and values only (`weakValues_replace`), so it finds
the same in a file in which one assignment has got a comment.
-/

namespace OpsLint.Env

/-- The line with a comment after it. -/
def withComment (raw c : Text) : Text := raw ++ ' ' :: '#' :: c

/-! ## The line with a comment -/

/-- A text with an equals sign in it does not come to begin with the word `export`. -/
theorem afterExport?_append_of_none {body : Text} (h : '=' ∈ body)
    (hnone : afterExport? body = none) (x : Text) : afterExport? (body ++ x) = none := by
  refine Option.eq_none_iff_forall_ne_some.2 fun rest hrest => ?_
  obtain ⟨c, t, htext, hc, -⟩ := (afterExport?_eq_some_iff _ _).1 hrest
  -- the word and the blank cannot end after the equals sign
  rcases List.append_eq_append_iff.1 htext with ⟨w, hword, -⟩ | ⟨w, hword, hblank⟩
  · exact absurd (hword ▸ List.mem_append_left w h) (by decide)
  · cases w with
    | nil => exact absurd (hword ▸ h) (by decide)
    | cons d w =>
      obtain ⟨rfl, -⟩ := List.cons.inj hblank
      rw [(afterExport?_eq_some_iff _ _).2 ⟨c, w, hword, hc, rfl⟩] at hnone
      exact nomatch hnone

/-- **What is put after an equals sign is part of the value.** -/
theorem assignmentPart_append {raw : Text} (h : '=' ∈ assignmentPart raw) (x : Text) :
    assignmentPart (raw ++ x) = assignmentPart raw ++ x := by
  have hne : Text.trimLeft raw ≠ [] := by
    intro hnil
    unfold assignmentPart at h
    rw [hnil] at h
    exact absurd h List.not_mem_nil
  unfold assignmentPart at h ⊢
  dsimp only at h ⊢
  rw [Text.trimLeft_append hne]
  cases hexport : afterExport? (Text.trimLeft raw) with
  | none =>
    rw [hexport, Option.getD_none] at h
    rw [afterExport?_append_of_none h hexport]
    rfl
  | some rest =>
    obtain ⟨c, t, hbody, hc, rfl⟩ := (afterExport?_eq_some_iff _ _).1 hexport
    rw [hexport, Option.getD_some] at h
    have hrest : Text.trimLeft t ≠ [] := List.ne_nil_of_mem h
    rw [hbody, (afterExport?_eq_some_iff _ (Text.trimLeft t ++ x)).2
      ⟨c, t ++ x, by simp, hc, (Text.trimLeft_append hrest x).symm⟩]
    rfl

/-- **The assignment that is left when something is put after a line.** -/
theorem Assignment.ReadFrom.append {a : Assignment} {line : Nat} {raw x v : Text}
    (h : a.ReadFrom line raw) (hx : Means (a.rawValue ++ x) v a.quoted) :
    { a with rawValue := a.rawValue ++ x }.ReadFrom line (raw ++ x) := by
  have hpart : assignmentPart (raw ++ x) = assignmentPart raw ++ x := by
    refine assignmentPart_append ?_ x
    rw [h.part]
    exact List.mem_append_right _ List.mem_cons_self
  exact
    { h with
      part := by rw [hpart, h.part, List.append_assoc]; rfl
      value := hx.problem a.key
      quoted := hx.quoted.symm
      column := by
        rw [hpart, List.length_append, List.length_append, Nat.add_sub_add_right]
        exact h.column }

/-! ## The value with a comment -/

/-- **A comment after a value is a tail of it.** -/
theorem Means.withComment {raw v : Text} {quoted : Bool} (h : Means raw v quoted)
    (hne : Text.trim raw ≠ []) (c : Text) : Means (withComment raw c) v quoted := by
  obtain ⟨gap, hgap, hblank⟩ : ∃ gap, Text.trimLeft raw = Text.trim raw ++ gap ∧
      ∀ d ∈ gap, Text.isBlank d = true :=
    ⟨_, List.rdropWhile_append_rtakeWhile.symm, fun _ => List.mem_rtakeWhile_imp⟩
  have htail : IsTail (gap ++ [' '] ++ '#' :: Text.trimRight c) := by
    refine .inr (leadsToComment_append (List.append_ne_nil_of_right_ne_nil gap ?_) ?_ _)
    · exact List.cons_ne_nil _ _
    · exact List.forall_mem_append.2 ⟨hblank, List.forall_mem_singleton.2 rfl⟩
  refine h.append hne htail ?_
  have hleft : Text.trimLeft raw ≠ [] := fun hnil => hne ((Text.trim_eq_nil_iff raw).2 hnil)
  have hright := Text.trimRight_append_cons (by decide : Text.isBlank '#' = false)
    (Text.trimLeft raw ++ [' ']) c
  unfold Env.withComment
  nth_rewrite 1 [Text.trim]
  rw [Text.trimLeft_append hleft, List.append_cons, hright, hgap]
  simp

/-- **Without a value the number sign begins one.** -/
theorem exists_means_withComment_of_blank {raw : Text} (h : Text.trim raw = []) (c : Text) :
    ∃ v, v ≠ [] ∧ Means (withComment raw c) v false := by
  have htrim : Text.trim (withComment raw c) = '#' :: Text.trimRight c := by
    unfold withComment Text.trim
    rw [Text.trimLeft_append_of_blank ((Text.trim_eq_nil_iff raw).1 h)]
    exact Text.trimRight_cons rfl c
  have hbare : beginsQuoted (Text.trim (withComment raw c)) = false := by
    rw [htrim]
    rfl
  have hmeans := (means_false_iff (withComment raw c) _).2 ⟨hbare, rfl⟩
  refine ⟨_, fun hnil => ?_, hmeans⟩
  rw [hmeans.eq_nil_iff, htrim] at hnil
  exact absurd hnil (List.cons_ne_nil _ _)

/-- **A line with a comment is an assignment of the same key**, and of the same value if there is
one. -/
theorem Assignment.ReadFrom.exists_withComment {a : Assignment} {line : Nat} {raw : Text}
    (h : a.ReadFrom line raw) (c : Text) :
    ∃ a' : Assignment, a'.ReadFrom line (withComment raw c) ∧ a'.line = a.line ∧ a'.key = a.key ∧
      a'.quoted = a.quoted ∧ (a'.value = a.value ↔ a.quoted = true ∨ a.value ≠ []) := by
  by_cases hblank : Text.trim a.rawValue = []
  · obtain ⟨v, hv, hmeans⟩ := exists_means_withComment_of_blank hblank c
    have hquoted : a.quoted = false := by
      rw [h.quoted, hblank]
      rfl
    have hvalue : a.value = [] := (hquoted ▸ h.means).eq_nil_iff.2 hblank
    rw [← hquoted] at hmeans
    refine ⟨_, h.append hmeans, rfl, rfl, rfl, ?_⟩
    rw [hquoted, hvalue]
    constructor
    · exact fun hsame => absurd (hmeans.value.symm.trans hsame) hv
    · exact fun hor => absurd rfl (hor.resolve_left Bool.false_ne_true)
  · have hmeans := h.means.withComment hblank c
    refine ⟨_, h.append hmeans, rfl, rfl, rfl, fun _ => ?_, fun _ => hmeans.value⟩
    cases hquoted : a.quoted with
    | true => exact .inl rfl
    | false => exact .inr fun hnil => hblank ((hquoted ▸ h.means).eq_nil_iff.1 hnil)

/-! ## Files with a comment -/

/-- The assignments of numbered lines. -/
def assignmentsFrom (start : Nat) (lines : List Text) : List Assignment :=
  ((lines.zipIdx start).filterMap fun t => readLine t.2 t.1).filterMap Item.assignment?

theorem assignments_append_cons {before : List Text} {raw : Text} {a : Assignment}
    (h : a.ReadFrom (before.length + 1) raw) (after : List Text) :
    (ofLines (before ++ raw :: after)).assignments
      = assignmentsFrom 1 before ++ a :: assignmentsFrom (before.length + 1 + 1) after := by
  have hread := (readLine_eq_assignment_iff _ _ _).2 h
  show (items (before ++ raw :: after)).filterMap Item.assignment? = _
  rw [items_eq, List.zipIdx_append, List.zipIdx_cons, List.filterMap_append, List.filterMap_append,
    List.filterMap_cons, Nat.add_comm 1, hread]
  rfl

/-- An assignment of a file is read from its line. -/
theorem readFrom_of_mem {before after : List Text} {raw : Text} {a : Assignment}
    (h : a ∈ (ofLines (before ++ raw :: after)).assignments) (hline : a.line = before.length + 1) :
    a.ReadFrom (before.length + 1) raw := by
  obtain ⟨n, raw', hraw, hfrom⟩ := mem_assignments_iff.1 h
  obtain rfl : n = before.length := by
    have hn := hfrom.line
    omega
  rw [List.getElem?_append_right (Nat.le_refl _), Nat.sub_self] at hraw
  obtain rfl : raw = raw' := Option.some.inj hraw
  exact hfrom

/-- **The rule looks at the line, the key and the value of an assignment.** -/
theorem weakValues_replace {a a' : Assignment} (hline : a'.line = a.line) (hkey : a'.key = a.key)
    (hvalue : a'.value = a.value) {e e' : Env} {front back : List Assignment}
    (he : e.assignments = front ++ a :: back) (he' : e'.assignments = front ++ a' :: back)
    (options : Options) : weakValues options e' = weakValues options e := by
  have hweak : options.weakness? a' = options.weakness? a := by
    unfold Options.weakness?
    rw [hkey, hvalue]
  have hfinding : weakFinding a' = weakFinding a := by
    funext w
    unfold weakFinding
    rw [hline, hkey]
  unfold weakValues
  rw [he, he', List.filterMap_append, List.filterMap_append, List.filterMap_cons,
    List.filterMap_cons, hweak]
  cases options.weakness? a with
  | none => rfl
  | some w => simp only [Option.map_some, List.mapM_append, List.mapM_cons, hfinding]

/-- **A comment after the line of an assignment changes nothing that matters**: the line is read as
an assignment of the same value to the same key, and the same values in the file are weak. -/
structure KeepsMeaning (before : List Text) (raw : Text) (after : List Text) (a : Assignment)
    (c : Text) : Prop where
  assignment : ∃ a' ∈ (ofLines (before ++ withComment raw c :: after)).assignments,
    a'.line = a.line ∧ a'.key = a.key ∧ a'.value = a.value ∧ a'.quoted = a.quoted
  weakValues : ∀ options, weakValues options (ofLines (before ++ withComment raw c :: after))
    = weakValues options (ofLines (before ++ raw :: after))

/-- **A comment keeps the meaning of an assignment if there is something to comment on**, and only
then. -/
theorem keepsMeaning_iff {before after : List Text} {raw : Text} {a : Assignment}
    (ha : a ∈ (ofLines (before ++ raw :: after)).assignments) (hline : a.line = before.length + 1)
    (c : Text) :
    (∃ a' ∈ (ofLines (before ++ withComment raw c :: after)).assignments,
      a'.line = a.line ∧ a'.key = a.key ∧ a'.quoted = a.quoted) ∧
    (KeepsMeaning before raw after a c ↔ a.quoted = true ∨ a.value ≠ []) := by
  have hfrom := readFrom_of_mem ha hline
  obtain ⟨a', hfrom', hline', hkey, hquoted, hvalue⟩ := hfrom.exists_withComment c
  have hassignments := assignments_append_cons hfrom' after
  have hmem : a' ∈ (ofLines (before ++ withComment raw c :: after)).assignments := by
    rw [hassignments]
    exact List.mem_append_right _ List.mem_cons_self
  refine ⟨⟨a', hmem, hline', hkey, hquoted⟩, ?_⟩
  rw [← hvalue]
  constructor
  · rintro ⟨⟨b, hb, hbline, -, hbvalue, -⟩, -⟩
    obtain rfl : b = a' :=
      (readFrom_of_mem hb (hbline.trans hline)).unique hfrom'
    exact hbvalue
  · intro hsame
    exact ⟨⟨a', hmem, hline', hkey, hsame, hquoted⟩, weakValues_replace hline' hkey hsame
      (assignments_append_cons hfrom after) hassignments⟩

/-- A bare value with a number sign in it, blanks around it and other lines around its own. -/
theorem keepsMeaning_of_bare_value :
    let a : Assignment := ⟨"API_TOKEN", " a#b ", false, 2, "API_TOKEN", 18⟩
    a ∈ (ofLines ["# access", " export API_TOKEN= a#b ", "PORT=1"]).assignments ∧
      KeepsMeaning ["# access"] " export API_TOKEN= a#b " ["PORT=1"] a " 'rotate'" := by
  have hmem : (⟨"API_TOKEN", " a#b ", false, 2, "API_TOKEN", 18⟩ : Assignment)
      ∈ (ofLines ["# access", " export API_TOKEN= a#b ", "PORT=1"]).assignments := by
    decide +kernel
  exact ⟨hmem, (keepsMeaning_iff hmem rfl _).2.2 (.inr (by decide +kernel))⟩

/-- A secret without a value seems to have one when its line has a comment. -/
theorem not_keepsMeaning_of_missing_secret :
    let a : Assignment := ⟨"DB_PASSWORD", "", false, 1, "DB_PASSWORD", 12⟩
    a ∈ (ofLines ["DB_PASSWORD="]).assignments ∧ a.value = [] ∧
      ¬ KeepsMeaning [] "DB_PASSWORD=" [] a " set in production" := by
  refine ⟨by decide +kernel, by decide +kernel, fun h => ?_⟩
  obtain ⟨b, hb, -, -, hvalue, -⟩ := h.assignment
  have hvalues : ∀ b ∈ (ofLines [withComment "DB_PASSWORD=" " set in production"]).assignments,
      b.value = ("# set in production" : Text) := by
    decide +kernel
  exact absurd ((hvalues b hb).symm.trans hvalue) (by decide +kernel)

end OpsLint.Env

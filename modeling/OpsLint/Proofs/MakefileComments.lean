import OpsLint.Proofs.MakefileLayout
import OpsLint.Proofs.MakefileRuleLines

/-!
# Comments on the lines of rules

A rule line can end in a comment. The names of its prerequisites stop at the mark of the comment,
but the recipe is looked for first, **in the whole line**, so what follows a semicolon in the
comment is taken for a recipe. A backslash at the end of the comment continues the line, blanks
after it or not.

Apart from these two, a comment makes no difference to the makefile, whatever lines follow
(`ofLines_withComment_iff`).
-/

namespace OpsLint.Makefile

/-- A line with a comment after it. -/
def withComment (l comment : Text) : Text := l ++ (" # " ++ comment)

/-- What follows the first semicolon of a comment. -/
def commentRecipe (comment : Text) : Text :=
  Text.trim (((Text.cut? ';' comment).map Prod.snd).getD [])

/-! ## Reading the line -/

theorem withComment_rowLine (names needs comment : Text) :
    withComment (rowLine names needs) comment = names ++ ':' :: (needs ++ (" # " ++ comment)) :=
  List.append_assoc _ _ _

/-- What a row of names and a row of prerequisites are read as if a comment follows. -/
def commentRule (names needs comment : Text) (offset : Nat) : RuleLine :=
  rowRule names needs ((Text.cut? ';' comment).map fun t => (t.2, offset))

theorem readRule_rowRule (n : Nat) (names needs : Text) (inline : Option (Text × Nat)) :
    readRule n (rowRule names needs inline)
      = if (Text.words names).any isSpecialName then
          ({}, if (Text.words names).contains ".PHONY" then
            [.phony (rowRule names needs inline).prerequisites] else [])
        else ({ inRule := true }, [.rule n (rowRule names needs inline)]) :=
  rfl

section

variable {names needs : Text} (hnames : IsRowHead names) (hneeds : IsRow needs)

include hneeds in
theorem head?_append_ne {c : Char} (hc : isRowChar c = false) {t : Text} (ht : t.head? ≠ some c) :
    (needs ++ t).head? ≠ some c := by
  cases needs with
  | nil => exact ht
  | cons d needs =>
    intro h
    exact hneeds.notMem hc (Option.some.inj h ▸ List.mem_cons_self)

include hnames hneeds in
/-- **What a comment does to a rule**: its names and prerequisites stay the same, and it may have a
recipe. -/
theorem exists_ruleLine?_withComment (comment : Text) :
    ∃ offset, ruleLine? (withComment (rowLine names needs) comment)
      = some (commentRule names needs comment offset) := by
  have hcolon : (needs ++ (" # " ++ comment)).head? ≠ some ':' :=
    head?_append_ne hneeds (by decide) (by simp)
  have hsemicolon : ';' ∉ needs ++ " # " := by
    rw [List.mem_append]
    exact not_or_intro (hneeds.notMem (by decide)) (by decide)
  have hcut : Text.cut? ';' (needs ++ (" # " ++ comment))
      = (Text.cut? ';' comment).map fun t => (needs ++ " # " ++ t.1, t.2) := by
    rw [← List.append_assoc, Text.cut?_append_of_notMem hsemicolon]
  -- the comment is cut at the semicolon, and its mark is still there
  have hneedsPart : ((((Text.cut? ';' comment).map fun t => (needs ++ " # " ++ t.1, t.2)).map
      Prod.fst).getD (needs ++ (" # " ++ comment)))
      = needs ++ [' '] ++ '#' :: ' ' :: ((Text.cut? ';' comment).map Prod.fst).getD comment := by
    cases Text.cut? ';' comment <;> simp
  have hhash : '#' ∉ needs ++ [' '] := by
    rw [List.mem_append]
    exact not_or_intro (hneeds.notMem (by decide)) (by decide)
  have hequals : (needs ++ [' ']).contains '=' = false := by
    rw [List.contains_eq_mem, decide_eq_false_iff_not, List.mem_append]
    exact not_or_intro (hneeds.notMem (by decide)) (by decide)
  have hwords : Text.words (needs ++ [' ']) = Text.words needs := by
    rw [← Text.words_trimRight, Text.trimRight_append_of_blank rfl, Text.words_trimRight]
  refine ⟨(Text.before ';' (withComment (rowLine names needs) comment)).length + 1, ?_⟩
  rw [ruleLine?, withComment_rowLine, splitRule?_of_isRowHead hnames hcolon]
  dsimp only [Option.map_some]
  rw [hcut, hneedsPart, Text.before_append_cons hhash, hequals, hwords, Option.map_map]
  rfl

theorem isContinued_withComment (l comment : Text) :
    isContinued (withComment l comment) = isContinued comment := by
  have hmark : Text.trimRight " # " ≠ [] := by decide
  by_cases h : Text.trimRight comment = []
  · have hblank : isContinued comment = false := by
      unfold isContinued
      rw [h]
      rfl
    rw [withComment, ← List.append_assoc, isContinued_append_of_blank h, isContinued_append hmark,
      hblank]
    rfl
  · rw [withComment, ← List.append_assoc, isContinued_append h]

/-! ## Starting targets -/

/-- What the names of a rule have to be so that it starts targets. -/
structure StartsTargets (names : Text) : Prop where
  notConditional : isConditional names = false
  notDefine : isDefine names = false
  notDirective : isDirective names = false
  notSpecial : (Text.words names).any isSpecialName = false

/-- What becomes of the first line of a makefile that has names in front of a colon. -/
def startedBy (names : Text) (rule : RuleLine) : State × List Item :=
  if isConditional names then ({}, [])
  else if isDefine names then ({ phase := .definition }, [])
  else if isDirective names then ({}, [])
  else readRule 1 rule

include hnames in
theorem step_of_ruleLine? {rest : Text} (hcontinued : isContinued (names ++ ':' :: rest) = false)
    (hcolon : rest.head? ≠ some ':') (hequals : rest.head? ≠ some '=') {rule : RuleLine}
    (hrule : ruleLine? (names ++ ':' :: rest) = some rule) :
    step 1 (names ++ ':' :: rest) {} = startedBy names rule := by
  rw [step_of_isRowHead hnames rest rfl, line_eq_complete hcontinued,
    complete_of_isRowHead hnames hcolon hequals hrule, startedBy]

include hnames hneeds in
theorem startsTargets_of_targets (h : (ofLines [rowLine names needs]).targets ≠ []) :
    StartsTargets names := by
  have hstep := step_of_ruleLine? hnames (isContinued_rowLine hnames hneeds)
    (head?_ne hneeds (by decide)) (head?_ne hneeds (by decide))
    (ruleLine?_rowLine hnames hneeds)
  have hitems : items [rowLine names needs]
      = (step 1 (rowLine names needs) {}).2 ++ (step 1 (rowLine names needs) {}).1.finish := by
    rw [items_eq_itemsFrom, itemsFrom_cons, itemsFrom_nil]
  have htargets : targetsOf (items [rowLine names needs]) ≠ [] := h
  rw [hitems, rowLine, hstep, startedBy] at htargets
  split at htargets
  · exact absurd rfl htargets
  · rename_i hconditional
    split at htargets
    · exact absurd rfl htargets
    · rename_i hdefine
      split at htargets
      · exact absurd rfl htargets
      · rename_i hdirective
        refine ⟨eq_false_of_ne_true hconditional, eq_false_of_ne_true hdefine,
          eq_false_of_ne_true hdirective, eq_false_of_ne_true fun hspecial => ?_⟩
        rw [readRule_rowRule, if_pos hspecial] at htargets
        split at htargets
        · exact absurd rfl htargets
        · exact absurd rfl htargets

/-- The items of a makefile that begins with a rule. -/
theorem items_cons_of_startsTargets (h : StartsTargets names) {l : Text}
    {inline : Option (Text × Nat)}
    (hstep : step 1 l {} = startedBy names (rowRule names needs inline)) (rest : List Text) :
    items (l :: rest)
      = .rule 1 (rowRule names needs inline) :: itemsFrom 1 { inRule := true } rest := by
  rw [startedBy, h.notConditional, h.notDefine, h.notDirective, readRule_rowRule, h.notSpecial]
    at hstep
  rw [items_eq_itemsFrom, itemsFrom_cons, Nat.zero_add, hstep]
  rfl

include hnames hneeds in
theorem items_rowLine_cons (h : StartsTargets names) (rest : List Text) :
    items (rowLine names needs :: rest)
      = .rule 1 (rowRule names needs none) :: itemsFrom 1 { inRule := true } rest :=
  items_cons_of_startsTargets h
    (step_of_ruleLine? hnames (isContinued_rowLine hnames hneeds) (head?_ne hneeds (by decide))
      (head?_ne hneeds (by decide)) (ruleLine?_rowLine hnames hneeds)) rest

include hnames hneeds in
/-- **The items of a makefile that begins with a rule and a comment.** -/
theorem exists_items_withComment (h : StartsTargets names) {comment : Text}
    (hcontinued : isContinued comment = false) :
    ∃ offset, ∀ rest, items (withComment (rowLine names needs) comment :: rest)
      = .rule 1 (commentRule names needs comment offset)
        :: itemsFrom 1 { inRule := true } rest := by
  obtain ⟨offset, hrule⟩ := exists_ruleLine?_withComment hnames hneeds comment
  have hcomplete := (isContinued_withComment (rowLine names needs) comment).trans hcontinued
  rw [withComment_rowLine] at hrule hcomplete
  refine ⟨offset, fun rest => ?_⟩
  rw [withComment_rowLine]
  exact items_cons_of_startsTargets h
    (step_of_ruleLine? hnames hcomplete (head?_append_ne hneeds (by decide) (by simp))
      (head?_append_ne hneeds (by decide) (by simp)) hrule) rest

theorem refs_eq_nil_of_command {n : Nat} {rule : RuleLine}
    (h : Item.command (.rule n rule) = []) : Item.refs (.rule n rule) = [] := by
  unfold Item.command at h
  unfold Item.refs
  dsimp only at h ⊢
  split
  · rename_i text offset hinline
    rw [hinline] at h
    exact if_pos (List.isEmpty_iff.2 h)
  · rfl

/-- A rule with a blank recipe on its line is a rule without one. -/
theorem ofItems_rowRule {n : Nat} {inline : Option (Text × Nat)}
    (h : Item.command (.rule n (rowRule names needs inline)) = []) (items : List Item) :
    ofItems (.rule n (rowRule names needs inline) :: items)
      = ofItems (.rule n (rowRule names needs none) :: items) := by
  have hinline : inlineRecipe n (rowRule names needs inline) = [] := by
    rw [inlineRecipe_eq, h]
    rfl
  have htargets : targetsOf (.rule n (rowRule names needs inline) :: items)
      = targetsOf (.rule n (rowRule names needs none) :: items) := by
    rw [targetsOf_rule, targetsOf_rule, ruleTargets, hinline]
    rfl
  unfold ofItems
  rw [htargets, List.flatMap_cons (f := Item.refs), refs_eq_nil_of_command h]
  rfl

/-! ## Comments that make a difference -/

theorem command_commentRule (n offset : Nat) (names needs comment : Text) :
    Item.command (.rule n (commentRule names needs comment offset)) = commentRecipe comment := by
  unfold Item.command commentRecipe commentRule rowRule
  cases Text.cut? ';' comment <;> rfl

include hnames in
theorem endsOpen_withComment {comment : Text} (h : isContinued comment = true) :
    endsOpen [withComment (rowLine names needs) comment] = true := by
  have hcontinued := (isContinued_withComment (rowLine names needs) comment).trans h
  have hstep : step 1 (withComment (rowLine names needs) comment) {}
      = ({ phase := .continued 1 false (withComment (rowLine names needs) comment) }, []) := by
    rw [withComment_rowLine, step_of_isRowHead hnames _ rfl, State.line, ← withComment_rowLine,
      hcontinued]
    rfl
  show (step 1 (withComment (rowLine names needs) comment) {}).1.phase.openText?.isSome = true
  rw [hstep]
  rfl

include hnames hneeds in
/-- A comment that continues its line takes in the rule after it. -/
theorem isContinued_of_forall_eq (h : StartsTargets names) {comment : Text}
    (hsame : ∀ rest, ofLines (withComment (rowLine names needs) comment :: rest)
      = ofLines (rowLine names needs :: rest)) : isContinued comment = false := by
  refine eq_false_of_ne_true fun hcontinued => ?_
  have hnext : itemsFrom 1 { inRule := true } [("x:" : Text)]
      = [.rule 2 (rowRule ("x" : Text) [] none)] := by decide +kernel
  have hrule : .rule 2 (rowRule ("x" : Text) [] none)
      ∈ items (rowLine names needs :: [("x:" : Text)]) := by
    rw [items_rowLine_cons hnames hneeds h, hnext]
    exact List.mem_cons_of_mem _ (List.mem_singleton_self _)
  obtain ⟨t, ht, hline, -⟩ := exists_target_of_rule hrule (by decide +kernel)
  have hmem : 2 ∈ (ofLines ([withComment (rowLine names needs) comment]
      ++ [("x:" : Text)])).targets.flatMap Target.lineNumbers := by
    rw [List.singleton_append, hsame]
    exact List.mem_flatMap.2 ⟨t, ht, hline ▸ List.mem_cons_self⟩
  have hle := (isLineNumber_of_endsOpen (endsOpen_withComment hnames hcontinued) _ hmem).2
  exact absurd hle (Nat.not_succ_le_self 1)

include hnames hneeds in
/-- What is taken for a recipe is found in one. -/
theorem commentRecipe_of_forall_eq (h : StartsTargets names) {comment : Text}
    (hcontinued : isContinued comment = false)
    (hsame : ofLines [withComment (rowLine names needs) comment]
      = ofLines [rowLine names needs]) : commentRecipe comment = [] := by
  by_contra hne
  obtain ⟨offset, hitems⟩ := exists_items_withComment hnames hneeds h hcontinued
  have hnonempty : Text.words names ≠ [] :=
    names_ne_nil_of_ruleLine? (ruleLine?_rowLine hnames hneeds)
  have hrule : .rule 1 (commentRule names needs comment offset)
      ∈ items [withComment (rowLine names needs) comment] := by
    rw [hitems]
    exact List.mem_cons_self
  obtain ⟨t, ht, -, hrecipe⟩ := exists_target_of_rule hrule hnonempty
  have hmem : ⟨commentRecipe comment, 1⟩ ∈ t.recipe := by
    refine hrecipe _ ?_
    rw [inlineRecipe_eq, command_commentRule, if_neg (by simpa using hne)]
    exact List.mem_singleton_self _
  -- without the comment no target has a recipe
  have hplain : (ofLines [rowLine names needs]).targets
      = ruleTargets 1 (rowRule names needs none) [] ++ [] :=
    congrArg targetsOf (items_rowLine_cons hnames hneeds h [])
  have ht : t ∈ (ofLines [withComment (rowLine names needs) comment]).targets := ht
  rw [hsame, hplain, List.append_nil] at ht
  obtain ⟨name, -, rfl⟩ := List.mem_map.1 ht
  exact nomatch hmem

end

/-- **A comment on the line of a rule** makes no difference, whatever follows, if and only if no
backslash at its end continues the line and nothing in it is taken for a recipe. -/
theorem ofLines_withComment_iff {names needs : Text} (hnames : IsRowHead names)
    (hneeds : IsRow needs) (hstarts : (ofLines [rowLine names needs]).targets ≠ [])
    (comment : Text) :
    (∀ rest, ofLines (withComment (rowLine names needs) comment :: rest)
        = ofLines (rowLine names needs :: rest)) ↔
      isContinued comment = false ∧ commentRecipe comment = [] := by
  have hstarts := startsTargets_of_targets hnames hneeds hstarts
  constructor
  · intro hsame
    have hcontinued := isContinued_of_forall_eq hnames hneeds hstarts hsame
    exact ⟨hcontinued, commentRecipe_of_forall_eq hnames hneeds hstarts hcontinued (hsame [])⟩
  · rintro ⟨hcontinued, hrecipe⟩ rest
    obtain ⟨offset, hitems⟩ := exists_items_withComment hnames hneeds hstarts hcontinued
    calc ofLines (withComment (rowLine names needs) comment :: rest)
        = ofItems (.rule 1 (commentRule names needs comment offset)
            :: itemsFrom 1 { inRule := true } rest) := congrArg ofItems (hitems rest)
      _ = ofItems (.rule 1 (rowRule names needs none) :: itemsFrom 1 { inRule := true } rest) :=
          ofItems_rowRule ((command_commentRule _ _ _ _ _).trans hrecipe) _
      _ = ofLines (rowLine names needs :: rest) :=
          congrArg ofItems (items_rowLine_cons hnames hneeds hstarts rest).symm

/-- A comment with all sorts of marks in it, and a semicolon at its end. -/
theorem ofLines_withComment_iff_of_marks :
    let line : Text := "all lib/x.o: dep.c"
    let commented : Text := "all lib/x.o: dep.c # a: b = c # d\\e; "
    (ofLines [line]).targets ≠ [] ∧
      ofLines [commented, "\tcc $@"] = ofLines [line, "\tcc $@"] := by
  intro line commented
  have hline : rowLine "all lib/x.o" " dep.c" = line := by decide +kernel
  have hnames : IsRowHead "all lib/x.o" := ⟨by decide +kernel, 'a', by decide +kernel, rfl⟩
  have hstarts : (ofLines [line]).targets ≠ [] := by decide +kernel
  have hneeds : IsRow " dep.c" := by decide +kernel
  have hiff := ofLines_withComment_iff hnames hneeds (hline ▸ hstarts) "a: b = c # d\\e; "
  rw [hline] at hiff
  exact ⟨hstarts, hiff.2 ⟨by decide +kernel, by decide +kernel⟩ ["\tcc $@"]⟩

/-- Two comments that make a difference, neither of which ends in a backslash: one is taken for a
recipe, and one continues its line. -/
theorem not_ofLines_withComment_of_marks :
    (ofLines ["all: dep # build; then test"]).targets.map Target.recipe = [[⟨"then test", 1⟩]] ∧
      (ofLines ["all: dep"]).targets.map Target.recipe = [[]] ∧
      (ofLines ["all: dep # note\\ ", "clean:"]).targets.map Target.name = ["all"] ∧
      (ofLines ["all: dep", "clean:"]).targets.map Target.name = ["all", "clean"] := by
  decide +kernel

end OpsLint.Makefile

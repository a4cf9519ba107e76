import OpsLint.Model
import OpsLint.Proofs.Entries
import OpsLint.Proofs.LastGiven

/-!
# Line numbers in models

Every line number that is stored in a model is that of a line of the file it was read from. For
crontabs and environment files this is plain, since the number of a line is handed to what reads it.
The other formats join lines, and store the number of a line long after it was read: a state may
hold the number of the line that an instruction or a rule began with. What every step obeys is that
it makes up no number: each one that it stores or hands out is in the state before it, or is the
number of the line it reads (`DrawnFrom`). Reading the whole file is then no matter of the single
formats any more (`Reading.isLineNumber_ofLines`).

What is open at the end of a file is completed there. An instruction may then end at the last line,
and there is such a line, because the instruction has begun on one.

A model stands on items in the order of the lines, and all its numbers are numbers of items. The one
exception is the missing base image of a Dockerfile, which is reported on line 1 even of an empty
file.
-/

namespace OpsLint

/-- Numbers in what is picked out of items are numbers in items. -/
theorem exists_item_of_mem_map {Item α : Type} {pick? : Item → Option α} {number : α → Nat}
    {ofItem : Item → List Nat} (hpick : ∀ item x, pick? item = some x → number x ∈ ofItem item)
    {items : List Item} {n : Nat} (h : n ∈ (items.filterMap pick?).map number) :
    ∃ item ∈ items, n ∈ ofItem item := by
  obtain ⟨x, hx, rfl⟩ := List.mem_map.1 h
  obtain ⟨item, hitem, hsome⟩ := List.mem_filterMap.1 hx
  exact ⟨item, hitem, hpick item x hsome⟩

/-- Numbers in what items are folded into are numbers in items. -/
theorem exists_item_of_mem_foldr {Item Acc : Type} {add : Item → Acc → Acc} {acc : Acc}
    {ofAcc : Acc → List Nat} {ofItem : Item → List Nat}
    (hadd : ∀ item acc n, n ∈ ofAcc (add item acc) → n ∈ ofItem item ∨ n ∈ ofAcc acc)
    (hacc : ofAcc acc = []) {items : List Item} {n : Nat} (h : n ∈ ofAcc (items.foldr add acc)) :
    ∃ item ∈ items, n ∈ ofItem item := by
  induction items with
  | nil => rw [List.foldr_nil, hacc] at h; exact nomatch h
  | cons item items ih =>
    rcases hadd item _ n h with hn | hn
    · exact ⟨item, List.mem_cons_self, hn⟩
    · obtain ⟨item', hitem', hn'⟩ := ih hn
      exact ⟨item', List.mem_cons_of_mem item hitem', hn'⟩

/-! ## Files of independent lines -/

/-- What is read with the number of its line has the number of a line. -/
theorem isLineNumber_of_read {Item : Type} (read : Nat → Text → Option Item)
    {ofItem : Item → List Nat}
    (hread : ∀ line raw item, read line raw = some item → ofItem item = [line])
    {lines : List Text} {n : Nat}
    (h : ∃ item ∈ (lines.zipIdx 1).filterMap (fun t => read t.2 t.1), n ∈ ofItem item) :
    IsLineNumber lines.length n := by
  obtain ⟨item, hitem, hn⟩ := h
  obtain ⟨k, raw, hraw, hk, -⟩ := exists_of_mem_read read hread hitem
  obtain ⟨hlt, -⟩ := List.getElem?_eq_some_iff.1 hraw
  rw [hk, List.mem_singleton] at hn
  exact ⟨by omega, by omega⟩

namespace Crontab

/-- The line numbers in an item. -/
def Item.lineNumbers : Item → List Nat
  | .entry e => [e.line]
  | .fault line _ => [line]

/-- The line numbers in a crontab. -/
def lineNumbers (c : Crontab) : List Nat := c.entries.map Entry.line ++ c.faults.map Prod.fst

theorem line_of_readEntry {line : Nat} {body : Text} {e : Entry}
    (h : readEntry line body = .ok e) : e.line = line := by
  rw [readEntry_eq] at h
  cases hschedule : readSchedule body with
  | error problem => rw [hschedule] at h; exact nomatch h
  | ok found =>
    rw [hschedule, Except.bind] at h
    split at h
    · exact nomatch h
    · rw [← Except.ok.inj h]

/-- What a line is has the number of this line. -/
theorem lineNumbers_of_readLine {line : Nat} {raw : Text} {item : Item}
    (h : readLine line raw = some item) : item.lineNumbers = [line] := by
  unfold readLine at h
  dsimp only at h
  split at h
  · exact nomatch h
  · rw [← Option.some.inj h]
    cases hentry : readEntry line (Text.trim raw) with
    | ok e => exact congrArg (fun n => [n]) (line_of_readEntry hentry)
    | error problem => rfl

theorem line_mem_of_entry? {item : Item} {e : Entry} (h : item.entry? = some e) :
    e.line ∈ item.lineNumbers := by
  cases item with
  | entry e' => rw [← Option.some.inj h]; exact List.mem_singleton_self _
  | fault line problem => exact nomatch h

theorem line_mem_of_fault? {item : Item} {f : Nat × Problem} (h : item.fault? = some f) :
    f.1 ∈ item.lineNumbers := by
  cases item with
  | entry e => exact nomatch h
  | fault line problem => rw [← Option.some.inj h]; exact List.mem_singleton_self _

/-- **Every line number in a crontab is that of one of its lines.** -/
theorem isLineNumber_of_mem {lines : List Text} {n : Nat} (h : n ∈ (ofLines lines).lineNumbers) :
    IsLineNumber lines.length n := by
  have hitem : ∃ item ∈ items lines, n ∈ item.lineNumbers :=
    (List.mem_append.1 h).elim (exists_item_of_mem_map fun _ _ => line_mem_of_entry?)
      (exists_item_of_mem_map fun _ _ => line_mem_of_fault?)
  rw [items_eq] at hitem
  exact isLineNumber_of_read readLine (fun _ _ _ => lineNumbers_of_readLine) hitem

end Crontab

namespace Env

/-- The line numbers in an item. -/
def Item.lineNumbers : Item → List Nat
  | .assignment a => [a.line]
  | .fault f => [f.line]

/-- The line numbers in an environment file. -/
def lineNumbers (e : Env) : List Nat := e.assignments.map Assignment.line ++ e.faults.map Fault.line

/-- What a line is has the number of this line. -/
theorem lineNumbers_of_readLine {line : Nat} {raw : Text} {item : Item}
    (h : readLine line raw = some item) : item.lineNumbers = [line] := by
  unfold readLine at h
  split at h
  · exact nomatch h
  · rw [← Option.some.inj h, readAssignment_eq]
    cases Text.cut? '=' (assignmentPart raw) with
    | none => rfl
    | some parts =>
      -- whichever condition fails first, the problem is on this line
      dsimp only
      by_cases hempty : (Text.trim parts.1).isEmpty = true
      · rw [if_pos hempty]
        rfl
      · rw [if_neg hempty]
        by_cases hkey : (!Text.isKey (Text.trim parts.1)) = true
        · rw [if_pos hkey]
          rfl
        · rw [if_neg hkey]
          cases valueProblem? (Text.trim parts.1) parts.2 with
          | none => rfl
          | some problem => rfl

theorem line_mem_of_assignment? {item : Item} {a : Assignment} (h : item.assignment? = some a) :
    a.line ∈ item.lineNumbers := by
  cases item with
  | assignment a' => rw [← Option.some.inj h]; exact List.mem_singleton_self _
  | fault f => exact nomatch h

theorem line_mem_of_fault? {item : Item} {f : Fault} (h : item.fault? = some f) :
    f.line ∈ item.lineNumbers := by
  cases item with
  | assignment a => exact nomatch h
  | fault f' => rw [← Option.some.inj h]; exact List.mem_singleton_self _

/-- **Every line number in an environment file is that of one of its lines.** -/
theorem isLineNumber_of_mem {lines : List Text} {n : Nat} (h : n ∈ (ofLines lines).lineNumbers) :
    IsLineNumber lines.length n := by
  have hitem : ∃ item ∈ items lines, n ∈ item.lineNumbers :=
    (List.mem_append.1 h).elim (exists_item_of_mem_map fun _ _ => line_mem_of_assignment?)
      (exists_item_of_mem_map fun _ _ => line_mem_of_fault?)
  rw [items_eq] at hitem
  exact isLineNumber_of_read readLine (fun _ _ _ => lineNumbers_of_readLine) hitem

end Env

/-! ## Units -/

namespace Systemd

/-- The line numbers in an item. -/
def Item.lineNumbers : Item → List Nat
  | .header line _ => [line]
  | .directive d => [d.line]
  | .fault line _ => [line]

/-- The line numbers in a state: that of the directive to be continued. -/
def State.lineNumbers (st : State) : List Nat := (st.continued.map Prod.fst).toList

/-- The line numbers in a section. -/
def Section.lineNumbers (s : Section) : List Nat := s.line :: s.directives.map Directive.line

/-- The line numbers in sections and loose directives. -/
def Sections.lineNumbers (s : Sections) : List Nat :=
  s.done.flatMap Section.lineNumbers ++ s.loose.map Directive.line

/-- The line numbers in a unit. -/
def lineNumbers (u : Systemd) : List Nat :=
  u.sections.flatMap Section.lineNumbers ++ u.faults.map Prod.fst

theorem lineNumbers_readDirective (inSection : Bool) (line : Nat) (text : Text) :
    (readDirective inSection line text).lineNumbers = [line] := by
  unfold readDirective
  split
  · rfl
  · split
    · rfl
    · split <;> rfl

theorem drawnFrom_directive (st : State) {line : Nat} (text : Text) {given : List Nat}
    (hline : ∀ n ∈ [line], n ∈ given) :
    DrawnFrom State.lineNumbers Item.lineNumbers given (st.directive line text) := by
  unfold State.directive
  split
  · exact .nothing hline
  · refine .item (fun _ hn => nomatch hn) ?_
    rw [lineNumbers_readDirective]
    exact hline

/-- **A step makes up no line number.** -/
theorem drawnFrom_step (line : Nat) (raw : Text) (st : State) :
    DrawnFrom State.lineNumbers Item.lineNumbers (line :: st.lineNumbers) (step line raw st) := by
  have hstate : ∀ n ∈ st.lineNumbers, n ∈ line :: st.lineNumbers :=
    fun _ => List.mem_cons_of_mem line
  have hline : ∀ n ∈ [line], n ∈ line :: st.lineNumbers :=
    fun _ hn => List.mem_singleton.1 hn ▸ List.mem_cons_self
  unfold step
  dsimp only
  split
  · -- the directive has the number of its first line
    rename_i first text hcontinued
    have hfirst : st.lineNumbers = [first] := by rw [State.lineNumbers, hcontinued]; rfl
    exact drawnFrom_directive st _ (hfirst ▸ hstate)
  · split
    · exact .nothing hstate
    · split
      · split
        · exact .item hstate hline
        · exact .item hstate hline
      · exact drawnFrom_directive st _ hline

/-- What is open at the end was begun on a line. -/
theorem lineNumbers_of_mem_finish {st : State} {item : Item} (h : item ∈ st.finish) :
    item.lineNumbers = st.lineNumbers := by
  unfold State.finish at h
  split at h
  · rename_i line text hcontinued
    rw [List.mem_singleton.1 h, lineNumbers_readDirective, State.lineNumbers, hcontinued]
    rfl
  · exact nomatch h

theorem mem_lineNumbers_add (item : Item) (s : Sections) (n : Nat)
    (h : n ∈ (Sections.add item s).lineNumbers) : n ∈ item.lineNumbers ∨ n ∈ s.lineNumbers := by
  cases item with
  | header line name =>
    -- the loose directives are those of the new section now
    simp only [Sections.lineNumbers, Sections.add, Section.lineNumbers, List.flatMap_cons,
      List.mem_append, List.mem_cons, List.map_nil, List.not_mem_nil, or_false] at h ⊢
    rcases h with (rfl | hloose) | hdone
    · exact .inl (List.mem_singleton_self _)
    · exact .inr (.inr hloose)
    · exact .inr (.inl hdone)
  | directive d =>
    simp only [Sections.lineNumbers, Sections.add, List.map_cons, List.mem_append,
      List.mem_cons] at h ⊢
    rcases h with hdone | rfl | hloose
    · exact .inr (.inl hdone)
    · exact .inl (List.mem_singleton_self _)
    · exact .inr (.inr hloose)
  | fault line problem => exact .inr h

theorem line_mem_of_fault? {item : Item} {f : Nat × Problem} (h : item.fault? = some f) :
    f.1 ∈ item.lineNumbers := by
  cases item with
  | fault line problem => rw [← Option.some.inj h]; exact List.mem_singleton_self _
  | _ => exact nomatch h

/-- **Every line number in a unit is that of one of its lines.** -/
theorem isLineNumber_of_mem {lines : List Text} {n : Nat} (h : n ∈ (ofLines lines).lineNumbers) :
    IsLineNumber lines.length n := by
  have hitem : ∃ item ∈ items lines, n ∈ item.lineNumbers := by
    rcases List.mem_append.1 h with h | h
    · exact exists_item_of_mem_foldr mem_lineNumbers_add rfl (List.mem_append_left _ h)
    · exact exists_item_of_mem_map (fun _ _ => line_mem_of_fault?) h
  refine Reading.isLineNumber_append rfl drawnFrom_step (fun item hmem n hn => .inl ?_) hitem
  rw [← lineNumbers_of_mem_finish hmem]
  exact hn

end Systemd

/-! ## Makefiles -/

namespace Makefile

/-- The line numbers in an item. -/
def Item.lineNumbers : Item → List Nat
  | .rule line _ => [line]
  | .recipe line _ => [line]
  | .phony _ => []
  | .fault line _ => [line]

/-- The line numbers in a state: that of the line to be continued. -/
def State.lineNumbers (st : State) : List Nat :=
  match st.phase with
  | .continued first _ _ => [first]
  | _ => []

/-- The line numbers in a target. -/
def Target.lineNumbers (t : Target) : List Nat := t.line :: t.recipe.map RecipeLine.line

/-- The line numbers in targets and loose recipe lines. -/
def Targets.lineNumbers (t : Targets) : List Nat :=
  t.done.flatMap Target.lineNumbers ++ t.loose.map RecipeLine.line

/-- The line numbers in a makefile. -/
def lineNumbers (m : Makefile) : List Nat :=
  m.targets.flatMap Target.lineNumbers ++ m.refs.map VariableRef.line ++ m.faults.map Prod.fst

theorem drawnFrom_readRule {line : Nat} (rule : RuleLine) {given : List Nat}
    (hline : ∀ n ∈ [line], n ∈ given) :
    DrawnFrom State.lineNumbers Item.lineNumbers given (readRule line rule) := by
  have hnone : ∀ n ∈ ([] : List Nat), n ∈ given := fun _ hn => nomatch hn
  unfold readRule
  split
  · split
    · exact .item hnone hnone
    · exact .nothing hnone
  · split
    · exact .nothing hnone
    · exact .item hnone hline

/-- A complete line is no longer remembered. -/
theorem drawnFrom_complete (st : State) {line : Nat} (indented : Bool) (text : Text)
    {given : List Nat} (hline : ∀ n ∈ [line], n ∈ given) :
    DrawnFrom State.lineNumbers Item.lineNumbers given (st.complete line indented text) := by
  have hnone : ∀ n ∈ ([] : List Nat), n ∈ given := fun _ hn => nomatch hn
  unfold State.complete
  dsimp only
  split
  · exact .nothing hnone
  · split
    · exact .nothing hnone
    · split
      · exact .nothing hnone
      · split
        · exact drawnFrom_readRule _ hline
        · exact .item hnone hline

theorem drawnFrom_line (st : State) {first : Nat} (indented : Bool) (text : Text)
    {given : List Nat} (hfirst : ∀ n ∈ [first], n ∈ given) :
    DrawnFrom State.lineNumbers Item.lineNumbers given (st.line first indented text) := by
  unfold State.line
  split
  · exact .nothing hfirst
  · exact drawnFrom_complete st indented text hfirst

theorem drawnFrom_recipeLine (st : State) {line : Nat} (raw : Text) {given : List Nat}
    (hline : ∀ n ∈ [line], n ∈ given) :
    DrawnFrom State.lineNumbers Item.lineNumbers given (st.recipeLine line raw) := by
  unfold State.recipeLine
  cases isContinued raw with
  | true => exact .item (fun _ hn => nomatch hn) hline
  | false => exact .item (fun _ hn => nomatch hn) hline

theorem drawnFrom_fresh (st : State) {line : Nat} (raw : Text) {given : List Nat}
    (hstate : ∀ n ∈ st.lineNumbers, n ∈ given) (hline : ∀ n ∈ [line], n ∈ given) :
    DrawnFrom State.lineNumbers Item.lineNumbers given (st.fresh line raw) := by
  unfold State.fresh
  dsimp only
  split
  · split
    · exact drawnFrom_recipeLine st raw hline
    · split
      · exact .nothing hstate
      · exact .item hstate hline
  · split
    · exact .nothing hstate
    · split
      · exact .item hstate hline
      · exact drawnFrom_line st _ raw hline

/-- **A step makes up no line number.** -/
theorem drawnFrom_step (line : Nat) (raw : Text) (st : State) :
    DrawnFrom State.lineNumbers Item.lineNumbers (line :: st.lineNumbers) (step line raw st) := by
  have hstate : ∀ n ∈ st.lineNumbers, n ∈ line :: st.lineNumbers :=
    fun _ => List.mem_cons_of_mem line
  have hline : ∀ n ∈ [line], n ∈ line :: st.lineNumbers :=
    fun _ hn => List.mem_singleton.1 hn ▸ List.mem_cons_self
  unfold step
  split
  · split
    · exact .nothing fun _ hn => nomatch hn
    · exact .nothing fun _ hn => nomatch hn
  · exact drawnFrom_recipeLine st raw hline
  · rename_i first indented text hphase
    have hfirst : st.lineNumbers = [first] := by rw [State.lineNumbers, hphase]
    exact drawnFrom_line st indented _ (hfirst ▸ hstate)
  · exact drawnFrom_fresh st raw hstate hline

/-- What is open at the end was begun on a line. -/
theorem mem_lineNumbers_of_mem_finish {st : State} {item : Item} (h : item ∈ st.finish) {n : Nat}
    (hn : n ∈ item.lineNumbers) : n ∈ st.lineNumbers := by
  unfold State.finish at h
  split at h
  · rename_i first indented text hphase
    have hfirst : st.lineNumbers = [first] := by rw [State.lineNumbers, hphase]
    exact (drawnFrom_complete st indented text (fun _ hk => hfirst ▸ hk)).items item h n hn
  · exact nomatch h

theorem line_of_mem_inlineRecipe {line : Nat} {rule : RuleLine} {r : RecipeLine}
    (h : r ∈ inlineRecipe line rule) : r.line = line := by
  unfold inlineRecipe at h
  split at h
  · dsimp only at h
    split at h
    · exact nomatch h
    · rw [List.mem_singleton.1 h]
  · exact nomatch h

theorem mem_lineNumbers_add (item : Item) (t : Targets) (n : Nat)
    (h : n ∈ (Targets.add item t).lineNumbers) : n ∈ item.lineNumbers ∨ n ∈ t.lineNumbers := by
  cases item with
  | rule line rule =>
    -- every target of the rule has the same recipe: its own line's, then the loose lines
    rcases List.mem_append.1 h with h | h
    · obtain ⟨target, htarget, hn⟩ := List.mem_flatMap.1 h
      rcases List.mem_append.1 htarget with htarget | htarget
      · obtain ⟨name, -, rfl⟩ := List.mem_map.1 htarget
        rcases List.mem_cons.1 hn with rfl | hn
        · exact .inl (List.mem_singleton_self _)
        · obtain ⟨r, hr, rfl⟩ := List.mem_map.1 hn
          rcases List.mem_append.1 hr with hr | hr
          · rw [line_of_mem_inlineRecipe hr]
            exact .inl (List.mem_singleton_self _)
          · exact .inr (List.mem_append_right _ (List.mem_map_of_mem hr))
      · exact .inr (List.mem_append_left _ (List.mem_flatMap.2 ⟨target, htarget, hn⟩))
    · exact nomatch h
  | recipe line raw =>
    rcases List.mem_append.1 h with hdone | hloose
    · exact .inr (List.mem_append_left _ hdone)
    · rcases List.mem_cons.1 hloose with rfl | hloose
      · exact .inl (List.mem_singleton_self _)
      · exact .inr (List.mem_append_right _ hloose)
  | phony names => exact .inr h
  | fault line problem => exact .inr h

theorem line_of_mem_variableRefs {text : Text} {line offset : Nat} {ref : VariableRef}
    (h : ref ∈ variableRefs text line offset) : ref.line = line := by
  obtain ⟨t, -, rfl⟩ := List.mem_map.1 h
  rfl

theorem line_mem_of_mem_refs {item : Item} {ref : VariableRef} (h : ref ∈ item.refs) :
    ref.line ∈ item.lineNumbers := by
  cases item with
  | recipe line raw =>
    rw [line_of_mem_variableRefs h]
    exact List.mem_singleton_self line
  | rule line head =>
    unfold Item.refs at h
    dsimp only at h
    split at h
    · split at h
      · exact nomatch h
      · rw [line_of_mem_variableRefs h]
        exact List.mem_singleton_self line
    · exact nomatch h
  | phony names => exact nomatch h
  | fault line problem => exact nomatch h

theorem line_mem_of_fault? {item : Item} {f : Nat × Problem} (h : item.fault? = some f) :
    f.1 ∈ item.lineNumbers := by
  cases item with
  | fault line problem => rw [← Option.some.inj h]; exact List.mem_singleton_self _
  | _ => exact nomatch h

/-- **Every line number in a makefile is that of one of its lines.** -/
theorem isLineNumber_of_mem {lines : List Text} {n : Nat} (h : n ∈ (ofLines lines).lineNumbers) :
    IsLineNumber lines.length n := by
  have hitem : ∃ item ∈ items lines, n ∈ item.lineNumbers := by
    rcases List.mem_append.1 h with h | h
    · rcases List.mem_append.1 h with h | h
      · exact exists_item_of_mem_foldr mem_lineNumbers_add rfl (List.mem_append_left _ h)
      · obtain ⟨ref, href, rfl⟩ := List.mem_map.1 h
        obtain ⟨item, hitem, href⟩ := List.mem_flatMap.1 href
        exact ⟨item, hitem, line_mem_of_mem_refs href⟩
    · exact exists_item_of_mem_map (fun _ _ => line_mem_of_fault?) h
  exact Reading.isLineNumber_append rfl drawnFrom_step
    (fun _ hmem _ hn => .inl (mem_lineNumbers_of_mem_finish hmem hn)) hitem

end Makefile

/-! ## Dockerfiles -/

namespace Dockerfile

/-- The line numbers in an instruction. -/
def Instruction.lineNumbers (i : Instruction) : List Nat := [i.line, i.endLine]

/-- The line numbers in an item. -/
def Item.lineNumbers : Item → List Nat
  | .instruction i => i.lineNumbers
  | .fault f => [f.line]

/-- The line numbers in a state: that of the place of the open instruction. -/
def State.lineNumbers (st : State) : List Nat :=
  match st.phase with
  | .directives | .idle => []
  | .continued place _ => [place.line]
  | .heredoc s _ _ _ => [s.place.line]

/-- The line numbers in a Dockerfile. -/
def lineNumbers (d : Dockerfile) : List Nat :=
  d.instructions.flatMap Instruction.lineNumbers ++ d.faults.map Fault.line

theorem mem_of_mem_emit {s : Statement} {body : List Text} {endLine : Nat} {item : Item}
    (h : item ∈ s.emit body endLine) {n : Nat} (hn : n ∈ item.lineNumbers) :
    n ∈ [s.place.line, endLine] := by
  unfold Statement.emit at h
  split at h
  · exact nomatch h
  · split at h
    · rw [List.mem_singleton.1 h] at hn
      exact hn
    · rw [List.mem_singleton.1 h] at hn
      exact List.mem_singleton.1 hn ▸ List.mem_cons_self

theorem place_of_statement? {place : Place} {text : Text} {s : Statement}
    (h : statement? place text = some s) : s.place = place := by
  unfold statement? at h
  dsimp only at h
  split at h
  · exact nomatch h
  · rw [← Option.some.inj h]

theorem drawnFrom_afterStatement (st : State) {line : Nat} {s : Statement} {given : List Nat}
    (hgiven : ∀ n ∈ [s.place.line, line], n ∈ given) :
    DrawnFrom State.lineNumbers Item.lineNumbers given (st.afterStatement line s) := by
  unfold State.afterStatement
  split
  · refine .mk (fun _ hn => nomatch hn) (fun item hitem n hn => ?_)
    exact hgiven n (mem_of_mem_emit hitem hn)
  · refine .nothing (fun n hn => hgiven n ?_)
    exact List.mem_singleton.1 hn ▸ List.mem_cons_self

theorem drawnFrom_text (st : State) {line : Nat} {place : Place} (text : Text) {given : List Nat}
    (hgiven : ∀ n ∈ [place.line, line], n ∈ given) :
    DrawnFrom State.lineNumbers Item.lineNumbers given (st.text line place text) := by
  unfold State.text
  split
  · refine .nothing (fun n hn => hgiven n ?_)
    exact List.mem_singleton.1 hn ▸ List.mem_cons_self
  · split
    · rename_i s hs
      exact drawnFrom_afterStatement st (place_of_statement? hs ▸ hgiven)
    · exact .nothing fun _ hn => nomatch hn

theorem drawnFrom_start (st : State) {line : Nat} (raw : Text) {given : List Nat}
    (hline : line ∈ given) :
    DrawnFrom State.lineNumbers Item.lineNumbers given (st.start line raw) := by
  unfold State.start
  dsimp only
  split
  · exact .nothing fun _ hn => nomatch hn
  · -- the place of an instruction is on its first line
    refine drawnFrom_text st _ (fun n hn => ?_)
    rcases List.mem_cons.1 hn with rfl | hn
    · exact hline
    · exact List.mem_singleton.1 hn ▸ hline

/-- **A step makes up no line number.** -/
theorem drawnFrom_step (line : Nat) (raw : Text) (st : State) :
    DrawnFrom State.lineNumbers Item.lineNumbers (line :: st.lineNumbers) (step line raw st) := by
  have hstate : ∀ n ∈ st.lineNumbers, n ∈ line :: st.lineNumbers :=
    fun _ => List.mem_cons_of_mem line
  have hopen : ∀ {first : Nat}, st.lineNumbers = [first] →
      ∀ n ∈ [first, line], n ∈ line :: st.lineNumbers := by
    intro first hfirst n hn
    rw [hfirst]
    exact (List.Perm.swap line first []).mem_iff.1 hn
  unfold step
  split
  · split
    · exact .nothing hstate
    · exact drawnFrom_start st raw List.mem_cons_self
  · exact drawnFrom_start st raw List.mem_cons_self
  · rename_i place text hphase
    have hfirst : st.lineNumbers = [place.line] := by rw [State.lineNumbers, hphase]
    dsimp only
    split
    · exact .nothing hstate
    · exact drawnFrom_text st _ (hopen hfirst)
  · rename_i s word later body hphase
    have hfirst : st.lineNumbers = [s.place.line] := by rw [State.lineNumbers, hphase]
    split
    · split
      · refine .mk (fun _ hn => nomatch hn) (fun item hitem n hn => ?_)
        exact hopen hfirst n (mem_of_mem_emit hitem hn)
      · exact .nothing (hfirst ▸ hstate)
    · exact .nothing (hfirst ▸ hstate)

theorem mem_of_mem_unterminated {s : Statement} {word : Text} {body : List Text} {lineCount : Nat}
    {item : Item} (h : item ∈ unterminated s word body lineCount) {n : Nat}
    (hn : n ∈ item.lineNumbers) : n ∈ [s.place.line, lineCount] := by
  rcases List.mem_cons.1 h with rfl | h
  · exact List.mem_singleton.1 hn ▸ List.mem_cons_self
  · exact mem_of_mem_emit h hn

/-- What is open at the end was begun on a line, and may end at the last one. -/
theorem mem_of_mem_finish {st : State} {lineCount : Nat} {finished : List Item}
    (h : st.finish lineCount = .ok finished) {item : Item} (hitem : item ∈ finished) {n : Nat}
    (hn : n ∈ item.lineNumbers) :
    ∃ first, first ∈ st.lineNumbers ∧ n ∈ [first, lineCount] := by
  unfold State.finish at h
  split at h
  · rw [← Except.ok.inj h] at hitem; exact nomatch hitem
  · rw [← Except.ok.inj h] at hitem; exact nomatch hitem
  · rename_i place text hphase
    have hfirst : place.line ∈ st.lineNumbers := by
      rw [State.lineNumbers, hphase]; exact List.mem_singleton_self _
    refine ⟨place.line, hfirst, ?_⟩
    split at h
    · exact nomatch h
    · rename_i s hs
      rw [← place_of_statement? hs]
      split at h
      · rw [← Except.ok.inj h] at hitem
        exact mem_of_mem_emit hitem hn
      · rw [← Except.ok.inj h] at hitem
        exact mem_of_mem_unterminated hitem hn
  · rename_i s word later body hphase
    have hfirst : s.place.line ∈ st.lineNumbers := by
      rw [State.lineNumbers, hphase]; exact List.mem_singleton_self _
    rw [← Except.ok.inj h] at hitem
    exact ⟨s.place.line, hfirst, mem_of_mem_unterminated hitem hn⟩

/-- The line numbers in the items of a Dockerfile are those of lines. -/
theorem isLineNumber_of_mem_items {lines : List Text} {found : List Item}
    (h : items lines = .ok found) {n : Nat} (hn : ∃ item ∈ found, n ∈ item.lineNumbers) :
    IsLineNumber lines.length n := by
  obtain ⟨finished, hfinish, rfl⟩ := exists_ok_of_map_ok h
  rw [Reading.count_ofLines] at hfinish
  refine Reading.isLineNumber_append rfl drawnFrom_step (fun item hitem n hn => ?_) hn
  obtain ⟨first, hfirst, hn⟩ := mem_of_mem_finish hfinish hitem hn
  rcases List.mem_cons.1 hn with rfl | hn
  · exact .inl hfirst
  · exact .inr ⟨List.mem_singleton.1 hn, first, hfirst⟩

theorem lineNumbers_of_instruction? {item : Item} {i : Instruction}
    (h : item.instruction? = some i) : item.lineNumbers = i.lineNumbers := by
  cases item with
  | instruction i' => rw [← Option.some.inj h]; rfl
  | fault f => exact nomatch h

theorem line_mem_of_fault? {item : Item} {f : Fault} (h : item.fault? = some f) :
    f.line ∈ item.lineNumbers := by
  cases item with
  | instruction i => exact nomatch h
  | fault f' => rw [← Option.some.inj h]; exact List.mem_singleton_self _

/-- A number in a Dockerfile is one in its items, or that of the line at which a missing base image
is reported. -/
theorem exists_item_or_eq_one {found : List Item} {n : Nat} (h : n ∈ (ofItems found).lineNumbers) :
    (∃ item ∈ found, n ∈ item.lineNumbers) ∨ n = 1 := by
  have hfaults : ∀ {n}, n ∈ (found.filterMap Item.fault?).map Fault.line →
      ∃ item ∈ found, n ∈ item.lineNumbers :=
    exists_item_of_mem_map fun _ _ => line_mem_of_fault?
  have hinstructions : ∀ {n},
      n ∈ (found.filterMap Item.instruction?).flatMap Instruction.lineNumbers →
      ∃ item ∈ found, n ∈ item.lineNumbers := by
    intro n hn
    obtain ⟨i, hi, hn⟩ := List.mem_flatMap.1 hn
    obtain ⟨item, hitem, hsome⟩ := List.mem_filterMap.1 hi
    exact ⟨item, hitem, lineNumbers_of_instruction? hsome ▸ hn⟩
  unfold ofItems at h
  dsimp only at h
  split at h
  · exact .inl ((List.mem_append.1 h).elim hinstructions hfaults)
  · rcases List.mem_append.1 h with h | h
    · exact .inl (hinstructions h)
    · dsimp only at h
      rw [List.map_append] at h
      exact (List.mem_append.1 h).imp hfaults List.mem_singleton.1

/-- **Every line number in a Dockerfile is that of one of its lines**, or 1. -/
theorem isLineNumber_of_mem {lines : List Text} {d : Dockerfile} (h : ofLines lines = .ok d)
    {n : Nat} (hn : n ∈ d.lineNumbers) : IsLineNumber (max 1 lines.length) n := by
  obtain ⟨found, hitems, rfl⟩ := exists_ok_of_map_ok h
  rcases exists_item_or_eq_one hn with hitem | rfl
  · exact (isLineNumber_of_mem_items hitems hitem).mono (Nat.le_max_right 1 _)
  · exact ⟨Nat.le_refl 1, Nat.le_max_left 1 _⟩

end Dockerfile

/-! ## Models -/

namespace Model

/-- The line numbers in a model. -/
def lineNumbers : Model → List Nat
  | .dockerfile d => d.lineNumbers
  | .makefile m => m.lineNumbers
  | .env e => e.lineNumbers
  | .crontab c => c.lineNumbers
  | .systemd u => u.lineNumbers

/-- **Every line number in a model is that of a line of its file**, or 1. -/
theorem isLineNumber_of_mem {kind : FileKind} {lines : List Text} {model : Model}
    (h : ofLines kind lines = .ok model) {n : Nat} (hn : n ∈ model.lineNumbers) :
    IsLineNumber (max 1 lines.length) n := by
  have hmax : lines.length ≤ max 1 lines.length := Nat.le_max_right 1 _
  cases kind with
  | dockerfile =>
    obtain ⟨d, hread, rfl⟩ := exists_ok_of_map_ok h
    exact Dockerfile.isLineNumber_of_mem hread hn
  | makefile =>
    rw [← Except.ok.inj h] at hn
    exact (Makefile.isLineNumber_of_mem hn).mono hmax
  | env =>
    rw [← Except.ok.inj h] at hn
    exact (Env.isLineNumber_of_mem hn).mono hmax
  | crontab =>
    rw [← Except.ok.inj h] at hn
    exact (Crontab.isLineNumber_of_mem hn).mono hmax
  | systemd =>
    rw [← Except.ok.inj h] at hn
    exact (Systemd.isLineNumber_of_mem hn).mono hmax

end Model

end OpsLint

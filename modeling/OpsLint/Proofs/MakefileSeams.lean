import OpsLint.Proofs.LineNumbers
import OpsLint.Proofs.MakefileStep
import OpsLint.Proofs.Words

/-!
# Cutting makefiles in two

A makefile can be cut in front of a line that begins something new, a rule or an assignment, and the
two parts can be read each by itself: the targets, references, problems and phony names of the whole
are those of the first part and then those of the second, with line numbers that are greater by the
length of the first part (`ofLines_append_iff`). For such a line forgets what was before it, whether
a rule was open or not.

What it cannot forget is a line that is still to be continued, and to which it would be joined. That
the last line of the first part does not end in a backslash is **not enough** to exclude this. Where
a line ends in two backslashes and the next one is blank, joining the two leaves one backslash at
the end, and the line after them is joined as well. `endsOpen` says that it has come to this; then
the second part cannot be read by itself, if only because the number of its first line is lost.

All that is known about the state at the cut comes from what one line can lead to (`ahead_step`).
The targets of the whole are those of the parts because no recipe line of the second part comes
before its first rule (`looseRecipe_items`).
-/

namespace OpsLint.Makefile

/-! ## Lines that are continued -/

/-- Whether a text is continued is seen at its end. -/
theorem isContinued_append {t : Text} (h : Text.trimRight t ≠ []) (s : Text) :
    isContinued (s ++ t) = isContinued t := by
  unfold isContinued Text.endsWith
  rw [Text.trimRight_append h, List.getLast?_append_of_ne_nil _ h]

theorem isContinued_append_of_blank {t : Text} (h : Text.trimRight t = []) (s : Text) :
    isContinued (s ++ t) = isContinued s := by
  unfold isContinued
  rw [Text.trimRight_append_of_blank h]

theorem isContinued_eq_false {s : Text} (h : '\\' ∉ s) : isContinued s = false := by
  refine eq_false_of_ne_true fun hcontinued => h ?_
  have hmem : '\\' ∈ Text.trimRight s := List.mem_of_getLast? (beq_iff_eq.1 hcontinued)
  exact (List.rdropWhile_prefix Text.isBlank s).subset hmem

theorem isContinued_trim {s : Text} (h : Text.trim s ≠ []) :
    isContinued (Text.trim s) = isContinued s := by
  unfold isContinued Text.endsWith
  rw [Text.trimRight_eq_append_trim h, Text.trimRight_trim, List.getLast?_append_of_ne_nil _ h]

/-- A text that is continued remains so if its backslash is taken away. -/
def endsInTwoBackslashes (text : Text) : Bool :=
  isContinued text && isContinued (withoutBackslash text)

theorem isContinued_joined {raw : Text} (h : Text.trim raw ≠ []) (text : Text) :
    isContinued (joined text raw) = isContinued raw := by
  have hne : Text.trimRight (Text.trim raw) ≠ [] := by rwa [Text.trimRight_trim]
  rw [joined, isContinued_append hne, isContinued_trim h]

theorem isContinued_joined_of_blank {raw : Text} (h : Text.trim raw = []) (text : Text) :
    isContinued (joined text raw) = isContinued (withoutBackslash text) := by
  rw [joined, h, List.append_nil]
  exact isContinued_append_of_blank rfl _

/-- What has no blank in it and occurs in a joined text occurs in one of its parts. -/
theorem infix_of_infix_joined {part text raw : Text} (hpart : ' ' ∉ part)
    (h : part <:+: joined text raw) : part <:+: text ∨ part <:+: raw := by
  have htext : withoutBackslash text <:+: text :=
    ((List.dropLast_prefix _).trans (List.rdropWhile_prefix Text.isBlank text)).isInfix
  have hjoined : joined text raw = withoutBackslash text ++ ' ' :: Text.trim raw := by
    unfold joined
    rw [List.append_assoc]
    rfl
  rw [hjoined] at h
  exact (Text.infix_of_infix_append_cons hpart h).imp (·.trans htext)
    (·.trans (Text.trim_infix raw))

/-! ## What a line can lead to -/

theorem suffix_of_afterModifier? {s rest : Text} (h : afterModifier? s = some rest) :
    rest <:+ s := by
  obtain ⟨modifier, -, h⟩ := List.exists_of_findSome?_eq_some h
  split at h
  · rename_i c r hstart
    split at h
    · rw [← Option.some.inj h, Text.eq_append_of_dropStart? hstart]
      exact ((List.dropWhile_suffix _).trans (List.suffix_cons c r)).trans
        (List.suffix_append modifier _)
    · exact nomatch h
  · exact nomatch h

theorem suffix_of_mem_afterModifiers {n : Nat} {s t : Text} (h : t ∈ afterModifiers n s) :
    t <:+ s := by
  induction n generalizing s with
  | zero => exact List.mem_singleton.1 h ▸ List.suffix_rfl
  | succ n ih =>
    rcases List.mem_cons.1 h with rfl | h
    · exact List.suffix_rfl
    · split at h
      · rename_i rest hrest
        exact (ih h).trans (suffix_of_afterModifier? hrest)
      · exact nomatch h

/-- A definition begins with a word that then occurs in it. -/
theorem infix_of_isDefine {s : Text} (h : isDefine s = true) : ("define" : Text) <:+: s := by
  obtain ⟨t, ht, hkeyword⟩ := List.any_eq_true.1 h
  obtain ⟨keyword, hmem, hstart⟩ := List.any_eq_true.1 hkeyword
  obtain ⟨rest, hrest, -⟩ := (Option.any_eq_true _ _).1 hstart
  rw [List.mem_singleton.1 hmem] at hrest
  rw [Text.eq_append_of_dropStart? hrest] at ht
  exact (List.prefix_append _ rest).isInfix.trans (suffix_of_mem_afterModifiers ht).isInfix

/-- The text of the line that is to be continued. -/
def Phase.openText? : Phase → Option Text
  | .continued _ _ text => some text
  | _ => none

/-- What has been read of a line after `raw`: `raw` alone, or what `raw` continues joined with
it. -/
def Phase.Extends (phase : Phase) (raw text : Text) : Prop :=
  text = raw ∨ ∃ before, phase.openText? = some before ∧ text = joined before raw

/-- What the line after `raw` can belong to. -/
inductive Ahead (st : State) (raw : Text) : Phase → Prop
  | fresh : Ahead st raw .fresh
  | recipe (h : isContinued raw = true) : Ahead st raw .recipe
  | skipped (h : st.phase = .definition) : Ahead st raw .definition
  | definition (text : Text) (htext : st.phase.Extends raw text)
      (h : isDefine (Text.trim text) = true) : Ahead st raw .definition
  | continued (first : Nat) (indented : Bool) (text : Text) (htext : st.phase.Extends raw text)
      (h : isContinued text = true) : Ahead st raw (.continued first indented text)

theorem Phase.Gives.extends {phase : Phase} {line first : Nat} {raw text : Text} {indented : Bool}
    (h : phase.Gives line raw first indented text) : phase.Extends raw text := by
  cases h with
  | itself => exact .inl rfl
  | joined h => exact .inr ⟨_, by rw [h, openText?], rfl⟩

/-- **What one line can lead to.** -/
theorem ahead_step (line : Nat) (raw : Text) (st : State) :
    Ahead st raw (step line raw st).1.phase := by
  have hreads := reads_step line raw st
  generalize step line raw st = r at hreads
  cases hreads with
  | skipped h => exact .skipped h
  | endsDefinition => exact .fresh
  | recipe =>
    dsimp only
    split
    · rename_i hcontinued
      exact .recipe hcontinued
    · exact .fresh
  | ignored h => exact h ▸ .fresh
  | strayRecipe h => exact h ▸ .fresh
  | spacesForTab h => exact h ▸ .fresh
  | continued hgives h => exact .continued _ _ _ hgives.extends h
  | completed hgives _ hr =>
    cases hr with
    | conditional => exact .fresh
    | definition h => exact .definition _ hgives.extends h
    | passed => exact .fresh
    | phony => exact .fresh
    | rule => exact .fresh
    | fault => exact .fresh

/-! ## The state at a cut -/

/-- Lines without a certain word lead to no definition, and to no line with this word in it. -/
theorem not_definition_of_ofLines {lines : List Text}
    (hlines : ∀ l ∈ lines, ¬ ("define" : Text) <:+: l) :
    (Reading.ofLines step {} lines).state.phase ≠ .definition := by
  have hstate := Reading.state_ofLines_of_forall step {}
    (fun st => st.phase ≠ .definition ∧
      ∀ text, st.phase.openText? = some text → ¬ ("define" : Text) <:+: text)
    ⟨nofun, nofun⟩ (fun line raw st hraw hst => ?_) hlines
  · exact hstate.1
  · have htext : ∀ text, st.phase.Extends raw text → ¬ ("define" : Text) <:+: text := by
      rintro text (rfl | ⟨before, hbefore, rfl⟩) hinfix
      · exact hraw hinfix
      · exact (infix_of_infix_joined (by decide) hinfix).elim (hst.2 before hbefore) hraw
    have hahead := ahead_step line raw st
    generalize (step line raw st).1.phase = phase at hahead
    cases hahead with
    | fresh => exact ⟨nofun, nofun⟩
    | recipe => exact ⟨nofun, nofun⟩
    | skipped h => exact absurd h hst.1
    | definition text hextends h =>
      exact absurd ((infix_of_isDefine h).trans (Text.trim_infix text)) (htext text hextends)
    | continued first indented text hextends h =>
      exact ⟨nofun, fun t ht => Option.some.inj ht ▸ htext text hextends⟩

/-- A joined line ends in two backslashes only if one of its two parts does. -/
theorem isContinued_withoutBackslash_joined {text raw : Text}
    (htext : isContinued (withoutBackslash text) = false) (hraw : endsInTwoBackslashes raw = false)
    (h : isContinued (joined text raw) = true) :
    isContinued (withoutBackslash (joined text raw)) = false := by
  have hne : Text.trim raw ≠ [] := by
    intro hblank
    rw [isContinued_joined_of_blank hblank, htext] at h
    exact nomatch h
  -- the backslash of the joined line is that of `raw`, and it is preceded by the same characters
  have hraw' : isContinued (withoutBackslash raw) = false := by
    rw [isContinued_joined hne] at h
    rwa [endsInTwoBackslashes, h, Bool.true_and] at hraw
  have hjoined : withoutBackslash (joined text raw)
      = withoutBackslash text ++ " " ++ (Text.trim raw).dropLast := by
    unfold joined
    rw [withoutBackslash, Text.trimRight_append (by rwa [Text.trimRight_trim]),
      Text.trimRight_trim, List.dropLast_append_of_ne_nil hne]
  have hraw_eq : withoutBackslash raw = raw.takeWhile Text.isBlank ++ (Text.trim raw).dropLast := by
    rw [withoutBackslash, Text.trimRight_eq_append_trim hne, List.dropLast_append_of_ne_nil hne]
  rw [hjoined]
  by_cases hrest : Text.trimRight (Text.trim raw).dropLast = []
  · rw [isContinued_append_of_blank hrest, isContinued_append_of_blank rfl, htext]
  · rw [isContinued_append hrest]
    rwa [hraw_eq, isContinued_append hrest] at hraw'

/-- Lines of which none ends in two backslashes lead to no line that does. -/
theorem isContinued_withoutBackslash_of_ofLines {lines : List Text}
    (hlines : ∀ l ∈ lines, endsInTwoBackslashes l = false) {text : Text}
    (h : (Reading.ofLines step {} lines).state.phase.openText? = some text) :
    isContinued (withoutBackslash text) = false := by
  have hstate := Reading.state_ofLines_of_forall step {}
    (fun st => ∀ text, st.phase.openText? = some text →
      isContinued (withoutBackslash text) = false)
    nofun (fun line raw st hraw hst => ?_) hlines
  · exact hstate text h
  · have hahead := ahead_step line raw st
    generalize (step line raw st).1.phase = phase at hahead
    cases hahead with
    | fresh => exact nofun
    | recipe => exact nofun
    | skipped => exact nofun
    | definition => exact nofun
    | continued first indented text hextends hcontinued =>
      intro t ht
      rw [← Option.some.inj ht]
      rcases hextends with rfl | ⟨before, hbefore, rfl⟩
      · rwa [endsInTwoBackslashes, hcontinued, Bool.true_and] at hraw
      · exact isContinued_withoutBackslash_joined (hst before hbefore) hraw hcontinued

/-- Reading some lines ends within a line that is still to be continued. -/
def endsOpen (lines : List Text) : Bool :=
  (Reading.ofLines step {} lines).state.phase.openText?.isSome

/-- **How a line can stay open** though the last line does not end in a backslash: the last line is
blank, and a line before it ends in two backslashes. -/
theorem blank_of_endsOpen {lines : List Text} {last : Text} (hlast : isContinued last = false)
    (h : endsOpen (lines ++ [last]) = true) :
    Text.trim last = [] ∧ ∃ l ∈ lines, endsInTwoBackslashes l = true := by
  obtain ⟨text, htext⟩ := Option.isSome_iff_exists.1 h
  rw [Reading.state_ofLines_concat] at htext
  have hahead := ahead_step (lines.length + 1) last (Reading.ofLines step {} lines).state
  generalize (step (lines.length + 1) last (Reading.ofLines step {} lines).state).1.phase = phase
    at htext hahead
  cases hahead with
  | fresh => exact nomatch htext
  | recipe => exact nomatch htext
  | skipped => exact nomatch htext
  | definition => exact nomatch htext
  | continued first indented text' hextends hcontinued =>
    rcases hextends with rfl | ⟨before, hbefore, rfl⟩
    · rw [hlast] at hcontinued
      exact nomatch hcontinued
    · have hblank : Text.trim last = [] := by
        by_contra hne
        rw [isContinued_joined hne, hlast] at hcontinued
        exact nomatch hcontinued
      refine ⟨hblank, ?_⟩
      by_contra hnone
      rw [isContinued_joined_of_blank hblank, isContinued_withoutBackslash_of_ofLines
        (fun l hl => eq_false_of_ne_true fun htwo => hnone ⟨l, hl, htwo⟩) hbefore] at hcontinued
      exact nomatch hcontinued

/-- **The state at a cut**: nothing is open but a rule. -/
theorem phase_eq_fresh {lines : List Text} (hdefine : ∀ l ∈ lines, ¬ ("define" : Text) <:+: l)
    (hlast : ∀ l, lines.getLast? = some l → isContinued l = false)
    (hopen : endsOpen lines = false) :
    (Reading.ofLines step {} lines).state.phase = .fresh := by
  cases hphase : (Reading.ofLines step {} lines).state.phase with
  | fresh => rfl
  | definition => exact absurd hphase (not_definition_of_ofLines hdefine)
  | continued first indented text =>
    rw [endsOpen, hphase] at hopen
    exact nomatch hopen
  | recipe =>
    rcases List.eq_nil_or_concat' lines with rfl | ⟨front, last, rfl⟩
    · exact nomatch hphase
    · rw [Reading.state_ofLines_concat] at hphase
      have hahead := ahead_step (front.length + 1) last (Reading.ofLines step {} front).state
      rw [hphase] at hahead
      cases hahead with
      | recipe h =>
        rw [hlast last (by simp)] at h
        exact nomatch h

/-! ## A line that begins something new -/

/-- A line that can stand at the beginning of a makefile of its own. -/
structure BeginsAnew (l : Text) : Prop where
  notBlank : l.head?.any (!Text.isBlank ·)
  notComment : l.head? ≠ some '#'
  complete : isContinued l = false
  notConditional : isConditional (Text.trim l) = false

/-- What is not a conditional is read without regard to whether a rule is open. -/
theorem complete_eq {text : Text} (h : isConditional (Text.trim text) = false) (st : State)
    (line : Nat) (indented : Bool) :
    st.complete line indented text = State.complete {} line indented text := by
  unfold State.complete
  dsimp only
  rw [h]
  rfl

/-- A line that is not blank, indented or a comment begins something. -/
theorem step_eq_line {l : Text} (hblank : l.head?.any (!Text.isBlank ·))
    (hcomment : l.head? ≠ some '#') {st : State} (hst : st.phase = .fresh) (line : Nat) :
    step line l st = st.line line false l := by
  obtain ⟨c, r, rfl⟩ : ∃ c r, l = c :: r := by
    cases l with
    | nil => exact nomatch hblank
    | cons c r => exact ⟨c, r, rfl⟩
  have hblank : Text.isBlank c = false := by simpa using hblank
  have htab : ¬ (c :: r).head? = some '\t' := by
    rintro ⟨⟩
    exact nomatch hblank
  have hspace : decide ((c :: r).head? = some ' ') = false := by
    refine decide_eq_false ?_
    rintro ⟨⟩
    exact nomatch hblank
  have hbody : isIgnored (Text.trim (c :: r)) = false := by
    have hhead := Text.head?_trim hblank r
    unfold isIgnored
    rw [hhead]
    cases htrim : Text.trim (c :: r) with
    | nil => rw [htrim] at hhead; exact nomatch hhead
    | cons _ _ => simpa using hcomment
  unfold step
  rw [hst]
  show st.fresh line (c :: r) = _
  unfold State.fresh
  dsimp only
  rw [if_neg htab, hbody, if_neg Bool.false_ne_true, hspace, Bool.and_false, Bool.false_and,
    Bool.false_and, if_neg Bool.false_ne_true]

theorem line_eq_complete {text : Text} (h : isContinued text = false) (st : State) (first : Nat)
    (indented : Bool) : st.line first indented text = st.complete first indented text :=
  if_neg (ne_true_of_eq_false h)

/-- **A line that begins something new forgets the rule before it.** -/
theorem step_of_beginsAnew {l : Text} (hl : BeginsAnew l) {st : State} (hst : st.phase = .fresh)
    (line : Nat) : step line l st = State.complete {} line false l := by
  rw [step_eq_line hl.notBlank hl.notComment hst, line_eq_complete hl.complete,
    complete_eq hl.notConditional]

/-! ## Further down -/

section

variable (n : Nat)

/-- What is read so many lines further down. -/
def RecipeLine.shift (r : RecipeLine) : RecipeLine := { r with line := r.line + n }

@[inherit_doc RecipeLine.shift]
def Target.shift (t : Target) : Target :=
  { t with line := t.line + n, recipe := t.recipe.map (·.shift n) }

@[inherit_doc RecipeLine.shift]
def VariableRef.shift (ref : VariableRef) : VariableRef := { ref with line := ref.line + n }

@[inherit_doc RecipeLine.shift]
def Item.shift : Item → Item
  | .rule line head => .rule (line + n) head
  | .recipe line raw => .recipe (line + n) raw
  | .phony names => .phony names
  | .fault line problem => .fault (line + n) problem

@[inherit_doc RecipeLine.shift]
def Targets.shift (t : Targets) : Targets :=
  { done := t.done.map (·.shift n), loose := t.loose.map (·.shift n) }

@[inherit_doc RecipeLine.shift]
def Phase.shift : Phase → Phase
  | .continued first indented text => .continued (first + n) indented text
  | phase => phase

@[inherit_doc RecipeLine.shift]
def State.shift (st : State) : State := { st with phase := st.phase.shift n }

/-- A state and items so many lines further down. -/
def shiftBoth (r : State × List Item) : State × List Item := (r.1.shift n, r.2.map (·.shift n))

@[inherit_doc RecipeLine.shift]
def shift (m : Makefile) : Makefile :=
  { targets := m.targets.map (·.shift n)
    phony := m.phony
    refs := m.refs.map (·.shift n)
    faults := m.faults.map (Prod.map (· + n) id) }

end

theorem readRule_shift (n line : Nat) (rule : RuleLine) :
    readRule (line + n) rule = shiftBoth n (readRule line rule) := by
  unfold readRule
  split
  · split <;> rfl
  · split <;> rfl

theorem complete_shift (n : Nat) (st : State) (line : Nat) (indented : Bool) (text : Text) :
    (st.shift n).complete (line + n) indented text
      = shiftBoth n (st.complete line indented text) := by
  unfold State.complete
  dsimp only
  split
  · rfl
  · split
    · rfl
    · split
      · rfl
      · split
        · exact readRule_shift n line _
        · rfl

theorem line_shift (n : Nat) (st : State) (first : Nat) (indented : Bool) (text : Text) :
    (st.shift n).line (first + n) indented text = shiftBoth n (st.line first indented text) := by
  unfold State.line
  split
  · rfl
  · exact complete_shift n st first indented text

theorem recipeLine_shift (n : Nat) (st : State) (line : Nat) (raw : Text) :
    (st.shift n).recipeLine (line + n) raw = shiftBoth n (st.recipeLine line raw) := by
  unfold State.recipeLine
  cases isContinued raw <;> rfl

theorem fresh_shift (n : Nat) (st : State) (line : Nat) (raw : Text) :
    (st.shift n).fresh (line + n) raw = shiftBoth n (st.fresh line raw) := by
  have hrule : (st.shift n).inRule = st.inRule := rfl
  unfold State.fresh
  dsimp only
  rw [hrule]
  split
  · split
    · exact recipeLine_shift n st line raw
    · split <;> rfl
  · split
    · rfl
    · split
      · rfl
      · exact line_shift n st line _ raw

/-- **A step does the same further down.** -/
theorem step_shift (n line : Nat) (raw : Text) (st : State) :
    step (line + n) raw (st.shift n) = shiftBoth n (step line raw st) := by
  obtain ⟨phase, inRule⟩ := st
  cases phase with
  | fresh => exact fresh_shift n _ line raw
  | recipe => exact recipeLine_shift n _ line raw
  | continued first indented text => exact line_shift n _ first indented _
  | definition =>
    unfold step
    dsimp only [State.shift, Phase.shift]
    split <;> rfl

theorem finish_shift (n : Nat) (st : State) :
    (st.shift n).finish = st.finish.map (·.shift n) := by
  obtain ⟨phase, inRule⟩ := st
  cases phase with
  | continued first indented text =>
    exact congrArg Prod.snd (complete_shift n _ first indented text)
  | fresh => rfl
  | recipe => rfl
  | definition => rfl

/-! ## Makefiles of items -/

/-- The makefile that is made of items. -/
def ofItems (items : List Item) : Makefile :=
  { targets := targetsOf items
    phony := items.flatMap Item.phonyNames
    refs := items.flatMap Item.refs
    faults := items.filterMap Item.fault? }

/-- What is in two makefiles, one after the other. -/
def append (m m' : Makefile) : Makefile :=
  { targets := m.targets ++ m'.targets
    phony := m.phony ++ m'.phony
    refs := m.refs ++ m'.refs
    faults := m.faults ++ m'.faults }

theorem add_shift (n : Nat) (item : Item) (t : Targets) :
    Targets.add (item.shift n) (t.shift n) = (Targets.add item t).shift n := by
  cases item with
  | rule line head =>
    have hinline : inlineRecipe (line + n) head = (inlineRecipe line head).map (·.shift n) := by
      unfold inlineRecipe
      split
      · dsimp only
        split <;> rfl
      · rfl
    simp [Item.shift, Targets.add, Targets.shift, Target.shift, hinline]
  | recipe line raw => rfl
  | phony names => rfl
  | fault line problem => rfl

theorem foldr_add_shift (n : Nat) (items : List Item) :
    (items.map (·.shift n)).foldr Targets.add {} = (items.foldr Targets.add {}).shift n := by
  induction items with
  | nil => rfl
  | cons item items ih => rw [List.map_cons, List.foldr_cons, List.foldr_cons, ih, add_shift]

theorem targetsOf_shift (n : Nat) (items : List Item) :
    targetsOf (items.map (·.shift n)) = (targetsOf items).map (·.shift n) :=
  congrArg Targets.done (foldr_add_shift n items)

theorem refs_shift (n : Nat) (item : Item) :
    (item.shift n).refs = item.refs.map (·.shift n) := by
  have hrefs : ∀ (text : Text) (line offset : Nat),
      variableRefs text (line + n) offset = (variableRefs text line offset).map (·.shift n) := by
    intro text line offset
    unfold variableRefs
    rw [List.map_map]
    rfl
  cases item with
  | rule line head =>
    unfold Item.shift Item.refs
    dsimp only
    split
    · split
      · rfl
      · exact hrefs _ line _
    · rfl
  | recipe line raw => exact hrefs raw line 0
  | phony names => rfl
  | fault line problem => rfl

/-- **Items further down make the same makefile further down.** -/
theorem ofItems_shift (n : Nat) (items : List Item) :
    ofItems (items.map (·.shift n)) = (ofItems items).shift n := by
  have hphony : ∀ item : Item, (item.shift n).phonyNames = item.phonyNames :=
    fun item => by cases item <;> rfl
  have hfault : ∀ item : Item, (item.shift n).fault? = item.fault?.map (Prod.map (· + n) id) :=
    fun item => by cases item <;> rfl
  unfold ofItems shift
  simp only [targetsOf_shift, List.flatMap_map, List.map_flatMap, List.filterMap_map,
    List.map_filterMap, Function.comp_def, refs_shift, hphony, hfault]

/-! ## Recipes have a rule -/

/-- The recipe lines of items that come before any rule among them. -/
def looseRecipe (items : List Item) : List RecipeLine := (items.foldr Targets.add {}).loose

/-- An item begins a rule. -/
def Item.isRule : Item → Bool
  | .rule _ _ => true
  | _ => false

/-- Targets are put in front of those that come after, and take up their loose recipe lines. -/
theorem foldr_add (items : List Item) (t : Targets) :
    items.foldr Targets.add t
      = { done := (items.foldr Targets.add { loose := t.loose }).done ++ t.done
          loose := (items.foldr Targets.add { loose := t.loose }).loose } := by
  induction items with
  | nil => rfl
  | cons item items ih =>
    rw [List.foldr_cons, List.foldr_cons, ih]
    cases item <;> simp [Targets.add]

/-- Targets of items one after another, where no recipe line is left to the first. -/
theorem targetsOf_append (items : List Item) {items' : List Item} (h : looseRecipe items' = []) :
    targetsOf (items ++ items') = targetsOf items ++ targetsOf items' := by
  unfold looseRecipe at h
  unfold targetsOf
  rw [List.foldr_append, foldr_add, h]

theorem ofItems_append (items : List Item) {items' : List Item} (h : looseRecipe items' = []) :
    ofItems (items ++ items') = (ofItems items).append (ofItems items') := by
  unfold ofItems append
  rw [targetsOf_append items h, List.flatMap_append, List.flatMap_append, List.filterMap_append]

theorem looseRecipe_shift (n : Nat) (items : List Item) :
    looseRecipe (items.map (·.shift n)) = (looseRecipe items).map (·.shift n) :=
  congrArg Targets.loose (foldr_add_shift n items)

/-- No recipe line gets past a rule. -/
theorem looseRecipe_append_of_rule {items : List Item} (h : ∃ item ∈ items, item.isRule)
    (items' : List Item) : looseRecipe (items ++ items') = looseRecipe items := by
  obtain ⟨item, hitem, hrule⟩ := h
  induction items with
  | nil => exact nomatch hitem
  | cons first items ih =>
    unfold looseRecipe at ih ⊢
    rw [List.cons_append, List.foldr_cons, List.foldr_cons]
    rcases List.mem_cons.1 hitem with rfl | hitem
    · cases item with
      | rule line head => rfl
      | _ => exact nomatch hrule
    · have hloose := ih hitem
      cases first with
      | rule line head => rfl
      | recipe line raw => exact congrArg (_ :: ·) hloose
      | phony names => exact hloose
      | fault line problem => exact hloose

theorem looseRecipe_append_of_no_recipe (items : List Item) {items' : List Item}
    (h : ∀ line raw, Item.recipe line raw ∉ items') :
    looseRecipe (items ++ items') = looseRecipe items := by
  have hnone : (items'.foldr Targets.add {}).loose = [] := by
    induction items' with
    | nil => rfl
    | cons item items' ih =>
      have hrest := ih fun line raw hmem => h line raw (List.mem_cons_of_mem item hmem)
      cases item with
      | rule line head => rfl
      | recipe line raw => exact absurd List.mem_cons_self (h line raw)
      | phony names => exact hrest
      | fault line problem => exact hrest
  unfold looseRecipe
  rw [List.foldr_append, foldr_add, hnone]

/-- A state and items that can follow a state with or without an open rule: recipe lines only where
a rule is open, and a rule is open only if it was or has been begun. -/
structure Ruled (inRule : Bool) (r : State × List Item) : Prop where
  continues : r.1.phase = .recipe → r.1.inRule = true
  opened : r.1.inRule = true → inRule = true ∨ ∃ item ∈ r.2, item.isRule
  recipes : ∀ line raw, Item.recipe line raw ∈ r.2 → inRule = true

theorem ruled_of_completes {st : State} {line : Nat} {indented : Bool} {text : Text}
    {r : State × List Item} (h : Completes st line indented text r) : Ruled st.inRule r := by
  cases h with
  | conditional => exact ⟨nofun, .inl, by simp⟩
  | definition => exact ⟨nofun, nofun, by simp⟩
  | passed => exact ⟨nofun, nofun, by simp⟩
  | phony => exact ⟨nofun, nofun, by simp⟩
  | rule => exact ⟨nofun, fun _ => .inr ⟨_, List.mem_singleton_self _, rfl⟩, by simp⟩
  | fault => exact ⟨nofun, nofun, by simp⟩

/-- **A step needs an open rule for a recipe line.** -/
theorem ruled_step (line : Nat) (raw : Text) {st : State}
    (hst : st.phase = .recipe → st.inRule = true) : Ruled st.inRule (step line raw st) := by
  have hreads := reads_step line raw st
  generalize step line raw st = r at hreads
  cases hreads with
  | skipped => exact ⟨nofun, .inl, by simp⟩
  | endsDefinition => exact ⟨nofun, .inl, by simp⟩
  | recipe h =>
    have hrule : st.inRule = true := h.elim hst (·.2.2)
    exact ⟨fun _ => hrule, .inl, fun _ _ _ => hrule⟩
  | ignored => exact ⟨hst, .inl, by simp⟩
  | strayRecipe => exact ⟨hst, .inl, by simp⟩
  | spacesForTab => exact ⟨hst, .inl, by simp⟩
  | continued => exact ⟨nofun, .inl, by simp⟩
  | completed _ _ hr => exact ruled_of_completes hr

/-- What has been read has no loose recipe lines, and if a rule is open it has been read. -/
structure WellRuled (st : State) (items : List Item) : Prop where
  continues : st.phase = .recipe → st.inRule = true
  opened : st.inRule = true → ∃ item ∈ items, item.isRule
  tight : looseRecipe items = []

theorem WellRuled.append {st : State} {items : List Item} (h : WellRuled st items)
    {r : State × List Item} (hr : Ruled st.inRule r) : WellRuled r.1 (items ++ r.2) := by
  refine ⟨hr.continues, fun hrule => ?_, ?_⟩
  · rcases hr.opened hrule with hbefore | ⟨item, hitem, hrule⟩
    · obtain ⟨item, hitem, hrule⟩ := h.opened hbefore
      exact ⟨item, List.mem_append_left _ hitem, hrule⟩
    · exact ⟨item, List.mem_append_right _ hitem, hrule⟩
  · cases hrule : st.inRule with
    | true => rw [looseRecipe_append_of_rule (h.opened hrule), h.tight]
    | false =>
      rw [looseRecipe_append_of_no_recipe, h.tight]
      intro line raw hmem
      have hopen := hr.recipes line raw hmem
      rw [hrule] at hopen
      exact nomatch hopen

theorem wellRuled_ofLines (lines : List Text) :
    WellRuled (Reading.ofLines step {} lines).state (Reading.ofLines step {} lines).items := by
  induction lines using List.reverseRecOn with
  | nil => exact ⟨nofun, nofun, rfl⟩
  | append_singleton lines l ih =>
    rw [Reading.state_ofLines_concat, Reading.items_ofLines_concat]
    exact ih.append (ruled_step _ l ih.continues)

/-- **No recipe line of a makefile is loose.** -/
theorem looseRecipe_items (lines : List Text) : looseRecipe (items lines) = [] := by
  have hlines := wellRuled_ofLines lines
  have hfinish : ∃ st, Ruled (Reading.ofLines step {} lines).state.inRule
      (st, (Reading.ofLines step {} lines).state.finish) := by
    unfold State.finish
    split
    · exact ⟨_, ruled_of_completes (completes_complete _ _ _ _)⟩
    · exact ⟨{}, nofun, nofun, by simp⟩
  obtain ⟨st, hruled⟩ := hfinish
  exact (hlines.append hruled).tight

/-! ## Cutting -/

/-- The items of lines that are read from a state on. -/
def itemsFrom (count : Nat) (st : State) (lines : List Text) : List Item :=
  (Reading.onward step count st lines).items ++ (Reading.onward step count st lines).state.finish

theorem items_eq_itemsFrom (lines : List Text) : items lines = itemsFrom 0 {} lines := rfl

theorem itemsFrom_nil (count : Nat) (st : State) : itemsFrom count st [] = st.finish := rfl

theorem itemsFrom_cons (count : Nat) (st : State) (l : Text) (lines : List Text) :
    itemsFrom count st (l :: lines)
      = (step (count + 1) l st).2 ++ itemsFrom (count + 1) (step (count + 1) l st).1 lines := by
  unfold itemsFrom
  rw [Reading.items_onward_cons, Reading.state_onward_cons, List.append_assoc]

theorem itemsFrom_shift (n count : Nat) (st : State) (lines : List Text) :
    itemsFrom (count + n) (st.shift n) lines = (itemsFrom count st lines).map (·.shift n) := by
  obtain ⟨hstate, hitems⟩ := Reading.onward_shift count
    (fun line raw st _ => step_shift n line raw st) st lines
  unfold itemsFrom
  rw [hstate, hitems, finish_shift, List.map_append]

theorem items_append_itemsFrom (a b : List Text) :
    items (a ++ b) = (Reading.ofLines step {} a).items
      ++ itemsFrom a.length (Reading.ofLines step {} a).state b := by
  unfold items itemsFrom
  dsimp only
  rw [Reading.items_ofLines_append, Reading.state_ofLines_append, List.append_assoc]

/-- Where nothing is open but a rule, the items of what follows are the same further down. -/
theorem items_append {a : List Text} (ha : (Reading.ofLines step {} a).state.phase = .fresh)
    {l : Text} (hl : BeginsAnew l) (rest : List Text) :
    items (a ++ l :: rest) = items a ++ (items (l :: rest)).map (·.shift a.length) := by
  have hfirst : step (a.length + 1) l (Reading.ofLines step {} a).state
      = shiftBoth a.length (step 1 l {}) := by
    rw [step_of_beginsAnew hl ha, step_of_beginsAnew hl rfl, Nat.add_comm]
    exact complete_shift a.length {} 1 false l
  have hfinish : (Reading.ofLines step {} a).state.finish = [] := by
    unfold State.finish
    rw [ha]
  have hend : items a = (Reading.ofLines step {} a).items := by
    unfold items
    dsimp only
    rw [hfinish, List.append_nil]
  rw [items_append_itemsFrom, hend, items_eq_itemsFrom, itemsFrom_cons, itemsFrom_cons, hfirst,
    List.map_append, ← itemsFrom_shift, Nat.add_comm a.length 1, Nat.zero_add]
  rfl

theorem ofLines_append {a : List Text} (ha : (Reading.ofLines step {} a).state.phase = .fresh)
    {l : Text} (hl : BeginsAnew l) (rest : List Text) :
    ofLines (a ++ l :: rest) = (ofLines a).append ((ofLines (l :: rest)).shift a.length) := by
  have hloose : looseRecipe ((items (l :: rest)).map (·.shift a.length)) = [] := by
    rw [looseRecipe_shift, looseRecipe_items]
    rfl
  calc ofLines (a ++ l :: rest)
      = ofItems (items a ++ (items (l :: rest)).map (·.shift a.length)) :=
        congrArg ofItems (items_append ha hl rest)
    _ = (ofLines a).append (ofItems ((items (l :: rest)).map (·.shift a.length))) :=
        ofItems_append (items a) hloose
    _ = (ofLines a).append ((ofLines (l :: rest)).shift a.length) :=
        congrArg (ofLines a).append (ofItems_shift a.length (items (l :: rest)))

/-- A line that continues another one has no number of its own. -/
theorem drawnFrom_step_of_open {st : State} (h : st.phase.openText?.isSome = true) (line : Nat)
    (raw : Text) :
    DrawnFrom State.lineNumbers Item.lineNumbers st.lineNumbers (step line raw st) := by
  obtain ⟨phase, inRule⟩ := st
  cases phase with
  | continued first indented text => exact drawnFrom_line _ indented _ fun _ hk => hk
  | fresh => exact nomatch h
  | recipe => exact nomatch h
  | definition => exact nomatch h

theorem isLineNumber_of_endsOpen {lines : List Text} (h : endsOpen lines = true) (l : Text)
    {n : Nat} (hn : n ∈ (ofLines (lines ++ [l])).targets.flatMap Target.lineNumbers) :
    IsLineNumber lines.length n := by
  obtain ⟨hstate, hitems⟩ := Reading.isLineNumber_ofLines (rfl : State.lineNumbers {} = [])
    drawnFrom_step lines
  obtain ⟨item, hitem, hn⟩ :=
    exists_item_of_mem_foldr mem_lineNumbers_add rfl (List.mem_append_left _ hn)
  have hstep := drawnFrom_step_of_open h (lines.length + 1) l
  unfold items at hitem
  dsimp only at hitem
  rw [Reading.items_ofLines_concat, Reading.state_ofLines_concat] at hitem
  rcases List.mem_append.1 hitem with hitem | hitem
  · rcases List.mem_append.1 hitem with hitem | hitem
    · exact hitems item hitem n hn
    · exact hstate n (hstep.items item hitem n hn)
  · exact hstate n (hstep.state n (mem_lineNumbers_of_mem_finish hitem hn))

/-- **Where a makefile can be cut**: exactly where no line is still to be continued. If the last
line of the first part does not end in a backslash, there can be such a line only if the last one is
blank and one before it ends in two backslashes. -/
theorem ofLines_append_iff (a : List Text) (hdefine : ∀ l ∈ a, ¬ ("define" : Text) <:+: l)
    (hlast : ∀ l, a.getLast? = some l → isContinued l = false) :
    ((∀ l rest, BeginsAnew l →
        ofLines (a ++ l :: rest) = (ofLines a).append ((ofLines (l :: rest)).shift a.length))
      ↔ endsOpen a = false) ∧
    (endsOpen a = true → ∃ front last, a = front ++ [last] ∧ Text.trim last = [] ∧
      ∃ l ∈ front, endsInTwoBackslashes l = true) := by
  refine ⟨⟨fun hcut => ?_, fun hopen l rest hl => ?_⟩, fun hopen => ?_⟩
  · -- otherwise a rule after the open line would get a number that is too small
    refine eq_false_of_ne_true fun hopen => ?_
    have hcut := hcut ("x:" : Text) [] ⟨by decide, by decide, by decide, by decide⟩
    have hrule : (ofLines [("x:" : Text)]).targets = [{ name := "x", line := 1 }] := by decide
    have hmem : 1 + a.length
        ∈ (ofLines (a ++ [("x:" : Text)])).targets.flatMap Target.lineNumbers := by
      rw [hcut, append, shift, hrule]
      exact List.mem_flatMap.2 ⟨_, List.mem_append_right _ List.mem_cons_self, List.mem_cons_self⟩
    have hle := (isLineNumber_of_endsOpen hopen _ hmem).2
    omega
  · exact ofLines_append (phase_eq_fresh hdefine hlast hopen) hl rest
  · rcases List.eq_nil_or_concat' a with rfl | ⟨front, last, rfl⟩
    · exact nomatch hopen
    · obtain ⟨hblank, htwo⟩ := blank_of_endsOpen (hlast last (by simp)) hopen
      exact ⟨front, last, rfl, hblank, htwo⟩

/-- A rule with a recipe, both of them continued, in front of another rule. -/
theorem ofLines_append_iff_at_blank :
    let a : List Text := ["all: $(BIN) \\", " lib", "\tcc \\", " -o $@", ""]
    endsOpen a = false ∧
      ofLines (a ++ ("clean:" : Text) :: ["\trm $(BIN)"])
        = (ofLines a).append ((ofLines (("clean:" : Text) :: ["\trm $(BIN)"])).shift a.length) := by
  intro a
  have hopen : endsOpen a = false := by decide +kernel
  have hcut := (ofLines_append_iff a (by decide +kernel) (by rintro l ⟨⟩; decide)).1.2 hopen
  exact ⟨hopen, hcut "clean:" _ ⟨by decide, by decide, by decide, by decide⟩⟩

/-- A rule that is lost: it is joined to the two lines before it. -/
theorem not_ofLines_append_of_two_backslashes :
    (∀ l ∈ [("x: y \\\\" : Text), ""], ¬ ("define" : Text) <:+: l) ∧
    (∀ l, [("x: y \\\\" : Text), ""].getLast? = some l → isContinued l = false) ∧
    BeginsAnew "z:" ∧
    ofLines ([("x: y \\\\" : Text), ""] ++ [("z:" : Text)])
      ≠ (ofLines [("x: y \\\\" : Text), ""]).append ((ofLines [("z:" : Text)]).shift 2) := by
  refine ⟨by decide +kernel, by rintro l ⟨⟩; decide, ⟨by decide, by decide, by decide, by decide⟩,
    fun h => ?_⟩
  exact absurd (congrArg targets h) (by decide +kernel)

end OpsLint.Makefile

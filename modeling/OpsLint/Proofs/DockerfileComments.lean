import OpsLint.Proofs.DockerfileSpans

/-!
# Comments and blank lines in Dockerfiles

A blank line or a comment can be put into a Dockerfile anywhere after its directives, between two
instructions or between the lines of one, and it makes no difference but to the numbers of the lines
after it (`ofLines_insert`). If the file cannot be read, it still cannot be. Heredocs are excluded,
since all lines of a heredoc count.

A step does not care about the numbers of lines: it stores them and hands them out again. So reading
commutes with every renumbering of the lines (`step_renumber`). The line that is put in changes
neither the state nor the items, and the lines after it are read with numbers that are greater by
one, while what was open at that point keeps the number it has. This is the renumbering
`shiftedAfter`.

The last line of an instruction is left out of the comparison. An instruction that is continued past
the end of the file ends at the last line, whichever this is.
-/

namespace OpsLint.Dockerfile

/-! ## Dockerfiles of items -/

/-- An item of which the instruction or the fault is changed. -/
def Item.map (onInstruction : Instruction → Instruction) (onFault : Fault → Fault) : Item → Item
  | .instruction i => .instruction (onInstruction i)
  | .fault x => .fault (onFault x)

/-- Items that are changed without a change of keywords make a Dockerfile that is changed in the
same way. -/
theorem ofItems_map (onInstruction : Instruction → Instruction) (onFault : Fault → Fault)
    (hkeyword : ∀ i, (onInstruction i).keyword = i.keyword)
    (hnoFrom : onFault ⟨1, 0, .noFrom⟩ = ⟨1, 0, .noFrom⟩) (items : List Item) :
    ofItems (items.map (Item.map onInstruction onFault))
      = { instructions := (ofItems items).instructions.map onInstruction
          faults := (ofItems items).faults.map onFault } := by
  have hinstructions : (items.map (Item.map onInstruction onFault)).filterMap Item.instruction?
      = (items.filterMap Item.instruction?).map onInstruction := by
    rw [List.filterMap_map, List.map_filterMap]
    congr 1
    funext item
    cases item <;> rfl
  have hfaults : (items.map (Item.map onInstruction onFault)).filterMap Item.fault?
      = (items.filterMap Item.fault?).map onFault := by
    rw [List.filterMap_map, List.map_filterMap]
    congr 1
    funext item
    cases item <;> rfl
  rw [ofItems_eq, ofItems_eq, hinstructions, hfaults]
  simp only [List.any_map, Function.comp_def, hkeyword, List.map_append]
  split
  · rfl
  · rw [List.map_singleton, hnoFrom]

/-! ## Renumbering -/

section

variable (f : Nat → Nat)

/-- The same with other line numbers. -/
def Place.renumber (p : Place) : Place := { p with line := f p.line }

@[inherit_doc Place.renumber]
def Statement.renumber (s : Statement) : Statement := { s with place := s.place.renumber f }

@[inherit_doc Place.renumber]
def Instruction.renumber (i : Instruction) : Instruction :=
  { i with line := f i.line, endLine := f i.endLine }

@[inherit_doc Place.renumber]
def Fault.renumber (x : Fault) : Fault := { x with line := f x.line }

@[inherit_doc Place.renumber]
def Item.renumber : Item → Item := Item.map (·.renumber f) (·.renumber f)

@[inherit_doc Place.renumber]
def Phase.renumber : Phase → Phase
  | .continued place text => .continued (place.renumber f) text
  | .heredoc s word later body => .heredoc (s.renumber f) word later body
  | phase => phase

@[inherit_doc Place.renumber]
def State.renumber (st : State) : State := { st with phase := st.phase.renumber f }

@[inherit_doc Place.renumber]
def renumber (d : Dockerfile) : Dockerfile :=
  { instructions := d.instructions.map (·.renumber f), faults := d.faults.map (·.renumber f) }

/-- A state and items with other line numbers. -/
def renumberBoth (r : State × List Item) : State × List Item :=
  (r.1.renumber f, r.2.map (·.renumber f))

theorem emit_renumber (s : Statement) (body : List Text) (endLine : Nat) :
    (s.renumber f).emit body (f endLine) = (s.emit body endLine).map (·.renumber f) := by
  have hkeyword : (s.renumber f).keyword = s.keyword := rfl
  unfold Statement.emit
  rw [hkeyword]
  split
  · rfl
  · split <;> rfl

theorem statement?_renumber (place : Place) (text : Text) :
    statement? (place.renumber f) text = (statement? place text).map (·.renumber f) := by
  unfold statement?
  dsimp only
  split <;> rfl

theorem afterStatement_renumber (st : State) (line : Nat) (s : Statement) :
    (st.renumber f).afterStatement (f line) (s.renumber f)
      = renumberBoth f (st.afterStatement line s) := by
  have hheredocs : (s.renumber f).heredocs = s.heredocs := rfl
  unfold State.afterStatement
  rw [hheredocs]
  split
  · rw [emit_renumber]
    rfl
  · rfl

theorem text_renumber (st : State) (line : Nat) (place : Place) (text : Text) :
    (st.renumber f).text (f line) (place.renumber f) text
      = renumberBoth f (st.text line place text) := by
  have hescape : (st.renumber f).escape = st.escape := rfl
  unfold State.text
  rw [hescape, statement?_renumber]
  split
  · rfl
  · cases statement? place text with
    | none => rfl
    | some s => exact afterStatement_renumber f st line s

theorem start_renumber (st : State) (line : Nat) (raw : Text) :
    (st.renumber f).start (f line) raw = renumberBoth f (st.start line raw) := by
  unfold State.start
  dsimp only
  split
  · rfl
  · exact text_renumber f st line ⟨line, _⟩ _

/-- **A step does not care about line numbers.** -/
theorem step_renumber (line : Nat) (raw : Text) (st : State) :
    step (f line) raw (st.renumber f) = renumberBoth f (step line raw st) := by
  obtain ⟨escape, phase⟩ := st
  cases phase with
  | directives =>
    unfold step
    dsimp only [State.renumber, Phase.renumber]
    split
    · rfl
    · exact start_renumber f ⟨escape, .directives⟩ line raw
  | idle => exact start_renumber f ⟨escape, .idle⟩ line raw
  | continued place text =>
    unfold step
    dsimp only [State.renumber, Phase.renumber]
    split
    · rfl
    · exact text_renumber f ⟨escape, .continued place text⟩ line place _
  | heredoc s word later body =>
    unfold step
    dsimp only [State.renumber, Phase.renumber]
    split
    · split
      · rw [emit_renumber]
        rfl
      · rfl
    · rfl

theorem unterminated_renumber (s : Statement) (word : Text) (body : List Text) (count : Nat) :
    unterminated (s.renumber f) word body (f count)
      = (unterminated s word body count).map (·.renumber f) := by
  unfold unterminated
  rw [emit_renumber]
  rfl

theorem finish_renumber (st : State) (count : Nat) :
    (st.renumber f).finish (f count) = (st.finish count).map (List.map (·.renumber f)) := by
  obtain ⟨escape, phase⟩ := st
  cases phase with
  | directives => rfl
  | idle => rfl
  | continued place text =>
    unfold State.finish
    dsimp only [State.renumber, Phase.renumber]
    rw [statement?_renumber]
    cases statement? place text with
    | none => rfl
    | some s =>
      have hheredocs : (s.renumber f).heredocs = s.heredocs := rfl
      dsimp only [Option.map_some]
      rw [hheredocs]
      split
      · exact congrArg Except.ok (emit_renumber f s [] count)
      · exact congrArg Except.ok (unterminated_renumber f s _ [] count)
  | heredoc s word later body =>
    exact congrArg Except.ok (unterminated_renumber f s word body.reverse count)

end

theorem ofItems_renumber {f : Nat → Nat} (hf : f 1 = 1) (items : List Item) :
    ofItems (items.map (·.renumber f)) = (ofItems items).renumber f :=
  ofItems_map (Instruction.renumber f) (Fault.renumber f) (fun _ => rfl)
    (congrArg (fun line => (⟨line, 0, .noFrom⟩ : Fault)) hf) items

/-! ## Where instructions end -/

/-- An instruction without the line on which it ends. -/
def Instruction.withoutEnd (i : Instruction) : Instruction := { i with endLine := 0 }

/-- An item without the line on which it ends. -/
def Item.withoutEnd : Item → Item := Item.map Instruction.withoutEnd id

/-- A Dockerfile without the lines on which its instructions end. -/
def withoutEnds (d : Dockerfile) : Dockerfile :=
  { d with instructions := d.instructions.map Instruction.withoutEnd }

theorem ofItems_withoutEnd (items : List Item) :
    ofItems (items.map Item.withoutEnd) = (ofItems items).withoutEnds := by
  refine (ofItems_map Instruction.withoutEnd id (fun _ => rfl) rfl items).trans ?_
  rw [List.map_id]
  rfl

theorem emit_withoutEnd (s : Statement) (body : List Text) (endLine endLine' : Nat) :
    (s.emit body endLine).map Item.withoutEnd = (s.emit body endLine').map Item.withoutEnd := by
  unfold Statement.emit
  split
  · rfl
  · split <;> rfl

/-- The number of lines matters only for where instructions end. -/
theorem finish_withoutEnd (st : State) (count count' : Nat) :
    (st.finish count).map (List.map Item.withoutEnd)
      = (st.finish count').map (List.map Item.withoutEnd) := by
  unfold State.finish
  split
  · rfl
  · rfl
  · split
    · rfl
    · split
      · exact congrArg Except.ok (emit_withoutEnd _ [] count count')
      · exact congrArg (fun items => Except.ok (_ :: items)) (emit_withoutEnd _ [] count count')
  · exact congrArg (fun items => Except.ok (_ :: items)) (emit_withoutEnd _ _ count count')

/-! ## A further line -/

/-- The number that a line has after a further line has been put in after line `k`. -/
def shiftedAfter (k n : Nat) : Nat := if n ≤ k then n else n + 1

theorem shiftedAfter_of_le {k n : Nat} (h : n ≤ k) : shiftedAfter k n = n := if_pos h

theorem shiftedAfter_of_lt {k n : Nat} (h : k < n) : shiftedAfter k n = n + 1 :=
  if_neg (Nat.not_le_of_lt h)

/-- Numbers that stay as they are. -/
theorem renumber_item_eq_self {f : Nat → Nat} {item : Item}
    (h : ∀ n ∈ item.lineNumbers, f n = n) : item.renumber f = item := by
  cases item with
  | instruction i =>
    have hline : f i.line = i.line := h i.line List.mem_cons_self
    have hend : f i.endLine = i.endLine := h i.endLine (List.mem_cons_of_mem _ List.mem_cons_self)
    show Item.instruction { i with line := f i.line, endLine := f i.endLine } = _
    rw [hline, hend]
  | fault x =>
    have hline : f x.line = x.line := h x.line List.mem_cons_self
    show Item.fault { x with line := f x.line } = _
    rw [hline]

@[inherit_doc renumber_item_eq_self]
theorem renumber_state_eq_self {f : Nat → Nat} {st : State}
    (h : ∀ n ∈ st.lineNumbers, f n = n) : st.renumber f = st := by
  obtain ⟨escape, phase⟩ := st
  cases phase with
  | directives => rfl
  | idle => rfl
  | continued place text =>
    have hline : f place.line = place.line := h place.line List.mem_cons_self
    show State.mk escape (.continued { place with line := f place.line } text) = _
    rw [hline]
  | heredoc s word later body =>
    have hline : f s.place.line = s.place.line := h s.place.line List.mem_cons_self
    show State.mk escape
      (.heredoc { s with place := { s.place with line := f s.place.line } } word later body) = _
    rw [hline]

/-- A line that is blank or a comment does nothing, unless it is a directive or part of a
heredoc. -/
theorem step_of_isIgnored {st : State} (hphase : st.phase ≠ .directives)
    (hplain : ∀ s word later body, st.phase ≠ .heredoc s word later body) {raw : Text}
    (hraw : isIgnored (Text.trim raw) = true) (line : Nat) : step line raw st = (st, []) := by
  obtain ⟨escape, phase⟩ := st
  cases phase with
  | directives => exact absurd rfl hphase
  | idle =>
    show State.start _ line raw = _
    unfold State.start
    exact if_pos hraw
  | continued place text =>
    unfold step
    exact if_pos hraw
  | heredoc s word later body => exact absurd rfl (hplain s word later body)

theorem except_map_map {ε α β γ : Type} (e : Except ε α) (f : α → β) (g : β → γ) :
    (e.map f).map g = e.map fun x => g (f x) := by
  cases e <;> rfl

section

variable {a : List Text}

/-- What was read or begun before the new line keeps its numbers. -/
theorem renumber_ofLines :
    (Reading.ofLines step {} a).state.renumber (shiftedAfter a.length)
        = (Reading.ofLines step {} a).state ∧
      (Reading.ofLines step {} a).items.map (·.renumber (shiftedAfter a.length))
        = (Reading.ofLines step {} a).items := by
  obtain ⟨hstate, hitems⟩ := Reading.isLineNumber_ofLines (rfl : State.lineNumbers {} = [])
    drawnFrom_step a
  refine ⟨renumber_state_eq_self fun n hn => shiftedAfter_of_le (hstate n hn).2,
    (List.map_congr_left fun item hitem => ?_).trans (List.map_id _)⟩
  exact renumber_item_eq_self fun n hn => shiftedAfter_of_le (hitems item hitem n hn).2

/-- Lines after the new one are read with numbers that are greater by one. -/
theorem onward_renumber (b : List Text) :
    (Reading.onward step (a.length + 1) (Reading.ofLines step {} a).state b).state
        = (Reading.onward step a.length (Reading.ofLines step {} a).state b).state.renumber
            (shiftedAfter a.length) ∧
      (Reading.onward step (a.length + 1) (Reading.ofLines step {} a).state b).items
        = (Reading.onward step a.length (Reading.ofLines step {} a).state b).items.map
            (Item.renumber (shiftedAfter a.length)) := by
  have hstep : ∀ line l st, a.length < line →
      step (line + 1) l (State.renumber (shiftedAfter a.length) st)
        = (State.renumber (shiftedAfter a.length) (step line l st).1,
            (step line l st).2.map (Item.renumber (shiftedAfter a.length))) := by
    intro line l st hline
    rw [← shiftedAfter_of_lt hline]
    exact step_renumber (shiftedAfter a.length) line l st
  have hshift := Reading.onward_shift a.length hstep (Reading.ofLines step {} a).state b
  rwa [renumber_ofLines.1] at hshift

/-- **The items of a file with a further line.** -/
theorem items_insert (hphase : (Reading.ofLines step {} a).state.phase ≠ .directives)
    (hplain : ∀ s word later body,
      (Reading.ofLines step {} a).state.phase ≠ .heredoc s word later body)
    {x : Text} (hx : isIgnored (Text.trim x) = true) (b : List Text) :
    (items (a ++ x :: b)).map (List.map Item.withoutEnd)
      = (items (a ++ b)).map (List.map fun item =>
          (item.renumber (shiftedAfter a.length)).withoutEnd) := by
  obtain ⟨hstate, hitems⟩ := onward_renumber (a := a) b
  have hskip := step_of_isIgnored hphase hplain hx (a.length + 1)
  have hfinish : ∀ (st : State) (count count' : Nat),
      ((st.renumber (shiftedAfter a.length)).finish count').map (List.map Item.withoutEnd)
        = (st.finish count).map (List.map fun item =>
            (item.renumber (shiftedAfter a.length)).withoutEnd) := by
    intro st count count'
    rw [finish_withoutEnd _ count' (shiftedAfter a.length count), finish_renumber, except_map_map]
    simp only [List.map_map, Function.comp_def]
  have hfront : (Reading.ofLines step {} a).items.map Item.withoutEnd
      = (Reading.ofLines step {} a).items.map fun item =>
          (item.renumber (shiftedAfter a.length)).withoutEnd := by
    nth_rewrite 1 [← renumber_ofLines.2]
    rw [List.map_map]
    rfl
  unfold items
  dsimp only
  rw [Reading.items_ofLines_append, Reading.state_ofLines_append, Reading.items_onward_cons,
    Reading.state_onward_cons, hskip, Reading.items_ofLines_append, Reading.state_ofLines_append,
    except_map_map, except_map_map]
  simp only [List.map_append, hstate, hitems, hfront, List.nil_append, List.map_map,
    Function.comp_def]
  rw [← except_map_map _ (List.map Item.withoutEnd), hfinish, except_map_map]

end

/-- **A blank line or a comment is invisible.** After the directives, and in a file without
heredocs, it can be put in anywhere. What is read is the same, the numbers of the lines after it are
greater by one, and what cannot be read still cannot. -/
theorem ofLines_insert {a b : List Text} (hplain : ∀ l ∈ a ++ b, ¬ ("<<" : Text) <:+: l)
    (hdirectives : (leadingDirectives (a ++ b)).length < a.length) {x : Text}
    (hx : isIgnored (Text.trim x) = true) :
    (ofLines (a ++ x :: b)).map withoutEnds
      = (ofLines (a ++ b)).map fun d => (d.renumber (shiftedAfter a.length)).withoutEnds := by
  have hphase : (Reading.ofLines step {} a).state.phase ≠ .directives := by
    rw [ne_eq, (directives_ofLines a).1]
    intro hall
    rw [leadingDirectives, List.takeWhile_append_of_pos hall, List.length_append] at hdirectives
    omega
  have hheredoc := (plain_ofLines fun l hl => hplain l (List.mem_append_left b hl)).notHeredoc
  have hone : shiftedAfter a.length 1 = 1 :=
    shiftedAfter_of_le (Nat.lt_of_le_of_lt (Nat.zero_le _) hdirectives)
  calc (ofLines (a ++ x :: b)).map withoutEnds
      = ((items (a ++ x :: b)).map (List.map Item.withoutEnd)).map ofItems := by
        rw [ofLines, except_map_map, except_map_map]
        simp only [ofItems_withoutEnd]
    _ = ((items (a ++ b)).map (List.map fun item =>
          (item.renumber (shiftedAfter a.length)).withoutEnd)).map ofItems := by
        rw [items_insert hphase hheredoc hx]
    _ = (ofLines (a ++ b)).map fun d => (d.renumber (shiftedAfter a.length)).withoutEnds := by
        rw [ofLines, except_map_map, except_map_map]
        simp only [← ofItems_renumber hone, ← ofItems_withoutEnd, List.map_map, Function.comp_def]

/-- A comment between the two lines of an instruction, after a directive that chooses their escape
character. -/
theorem ofLines_insert_within_instruction :
    let a : List Text := ["# escape=`", "FROM a `"]
    let b : List Text := ["  AS b", "RUN x"]
    let x : Text := " # <<EOF"
    (∀ l ∈ a ++ b, ¬ ("<<" : Text) <:+: l) ∧ (leadingDirectives (a ++ b)).length < a.length ∧
      isIgnored (Text.trim x) = true ∧
      (ofLines (a ++ x :: b)).map withoutEnds
        = (ofLines (a ++ b)).map (fun d => (d.renumber (shiftedAfter a.length)).withoutEnds) ∧
      ∃ d, ofLines (a ++ x :: b) = .ok d ∧ d.instructions.map Instruction.line = [2, 5] := by
  intro a b x
  have hplain : ∀ l ∈ a ++ b, ¬ ("<<" : Text) <:+: l := by decide +kernel
  have hdirectives : (leadingDirectives (a ++ b)).length < a.length := by decide +kernel
  have hx : isIgnored (Text.trim x) = true := by decide +kernel
  exact ⟨hplain, hdirectives, hx, ofLines_insert hplain hdirectives hx, _, rfl, by decide +kernel⟩

end OpsLint.Dockerfile

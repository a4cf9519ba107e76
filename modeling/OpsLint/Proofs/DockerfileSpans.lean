import OpsLint.Proofs.DockerfileStep
import OpsLint.Proofs.LineNumbers

/-!
# The lines of an instruction

Every instruction of a Dockerfile takes up a run of lines of the file, and these runs come one after
another (`spans_ofLines`). This is so whatever is at the end of the file: an instruction that goes
on past it, or heredocs that have no end. The first line of a run says something, and the column of
the instruction is where this begins.

Problems are reported in the order of the lines, no line twice. The one about the file as a whole is
the last and is there exactly if there is no base image.

The order is that of the items: a line completes one item at a time, and what is open has begun
after all of them. What is open at the end of the file can be an instruction and a problem at the
same time, that of a heredoc without an end. Both are then on the line where the instruction begins.
-/

namespace OpsLint.Dockerfile

/-! ## What a statement is -/

/-- The instruction that a statement with the lines of its heredoc bodies is. -/
def Statement.instruction (s : Statement) (body : List Text) (endLine : Nat) : Instruction where
  keyword := s.keyword
  arguments := if body.isEmpty then s.arguments else s.arguments ++ "\n" ++ Text.join "\n" body
  line := s.place.line
  column := s.place.column
  endLine := endLine

/-- What a statement is: it is left out, it is an instruction, or it is reported. -/
inductive Statement.Emits (s : Statement) (body : List Text) (endLine : Nat) : List Item → Prop
  | leftOut (h : s.keyword = ("ARG" : Text)) : Emits s body endLine []
  | instruction (h : keywords.contains s.keyword = true) :
      Emits s body endLine [.instruction (s.instruction body endLine)]
  | unknown (h : keywords.contains s.keyword = false) :
      Emits s body endLine [.fault ⟨s.place.line, s.place.column, .unknownInstruction s.word⟩]

theorem emits_emit (s : Statement) (body : List Text) (endLine : Nat) :
    s.Emits body endLine (s.emit body endLine) := by
  unfold Statement.emit
  split
  · rename_i h
    exact .leftOut h
  · split
    · rename_i h
      exact .instruction h
    · rename_i h
      exact .unknown (eq_false_of_ne_true h)

theorem emit_eq_nil_or_singleton (s : Statement) (body : List Text) (endLine : Nat) :
    s.emit body endLine = [] ∨ ∃ item, s.emit body endLine = [item] := by
  have hemits := emits_emit s body endLine
  generalize s.emit body endLine = items at hemits
  cases hemits with
  | leftOut => exact .inl rfl
  | instruction => exact .inr ⟨_, rfl⟩
  | unknown => exact .inr ⟨_, rfl⟩

/-- A statement that can have heredocs is an instruction. -/
theorem emit_of_heredocKeyword {s : Statement} (h : heredocKeywords.contains s.keyword = true)
    (body : List Text) (endLine : Nat) :
    s.emit body endLine = [.instruction (s.instruction body endLine)] := by
  have hkeyword : s.keyword ∈ heredocKeywords := List.contains_iff_mem.1 h
  have hknown : ∀ keyword ∈ heredocKeywords,
      keyword ≠ ("ARG" : Text) ∧ keywords.contains keyword = true := by decide
  obtain ⟨hargument, hinstruction⟩ := hknown _ hkeyword
  unfold Statement.emit
  rw [if_neg hargument, if_pos hinstruction]
  rfl

theorem heredocKeyword_of_heredocs {s : Statement} {word : Text} {later : List Text}
    (h : s.heredocs = word :: later) : heredocKeywords.contains s.keyword = true := by
  unfold Statement.heredocs at h
  split at h
  · assumption
  · exact nomatch h

/-! ## Where instructions begin and end -/

/-- A place where an instruction can begin: on a line of the file that says something, after its
leading blanks. -/
def BeginsAt (lines : List Text) (place : Place) : Prop :=
  ∃ before raw, before ++ [raw] <+: lines ∧ place.line = before.length + 1 ∧
    isIgnored (Text.trim raw) = false ∧ place.column = (raw.takeWhile Text.isBlank).length + 1

theorem BeginsAt.append {lines : List Text} {place : Place} (h : BeginsAt lines place) (l : Text) :
    BeginsAt (lines ++ [l]) place := by
  obtain ⟨before, raw, hprefix, hplace⟩ := h
  exact ⟨before, raw, hprefix.trans (List.prefix_append lines [l]), hplace⟩

theorem BeginsAt.isLineNumber {lines : List Text} {place : Place} (h : BeginsAt lines place) :
    IsLineNumber lines.length place.line := by
  obtain ⟨before, raw, hprefix, hline, -⟩ := h
  have hle := hprefix.length_le
  rw [List.length_append, List.length_singleton, ← hline] at hle
  exact ⟨hline ▸ Nat.le_add_left 1 _, hle⟩

theorem beginsAt_placeOf (lines : List Text) {raw : Text}
    (hbody : isIgnored (Text.trim raw) = false) :
    BeginsAt (lines ++ [raw]) (placeOf (lines.length + 1) raw) := by
  refine ⟨lines, raw, List.prefix_rfl, rfl, hbody, ?_⟩
  have hlength :=
    congrArg List.length (List.takeWhile_append_dropWhile (p := Text.isBlank) (l := raw))
  rw [List.length_append] at hlength
  show raw.length - (raw.dropWhile Text.isBlank).length + 1 = _
  omega

/-- What holds of an item: it begins where it says. An instruction ends on a line of the file that
is not before it, and a problem is not one of the file as a whole. -/
def Item.Sound (lines : List Text) : Item → Prop
  | .instruction i =>
    BeginsAt lines ⟨i.line, i.column⟩ ∧ i.line ≤ i.endLine ∧ i.endLine ≤ lines.length
  | .fault f => BeginsAt lines ⟨f.line, f.column⟩ ∧ f.problem ≠ .noFrom

theorem Item.Sound.append {lines : List Text} {item : Item} (h : item.Sound lines) (l : Text) :
    item.Sound (lines ++ [l]) := by
  cases item with
  | instruction i =>
    obtain ⟨hbegins, hle, hend⟩ := h
    exact ⟨hbegins.append l, hle, Nat.le_trans hend (by simp)⟩
  | fault f => exact ⟨h.1.append l, h.2⟩

theorem sound_emit {lines : List Text} {s : Statement} (hplace : BeginsAt lines s.place)
    (body : List Text) : ∀ item ∈ s.emit body lines.length, item.Sound lines := by
  have hemits := emits_emit s body lines.length
  generalize s.emit body lines.length = items at hemits
  cases hemits with
  | leftOut => exact nofun
  | instruction =>
    exact List.forall_mem_singleton.2 ⟨hplace, hplace.isLineNumber.2, Nat.le_refl _⟩
  | unknown => exact List.forall_mem_singleton.2 ⟨hplace, nofun⟩

/-- Where the open instruction begins. -/
def Phase.place? : Phase → Option Place
  | .directives | .idle => none
  | .continued place _ => some place
  | .heredoc s _ _ _ => some s.place

/-- What holds of a state: the open instruction begins where it says, and if its heredocs are being
read it is one that can have heredocs. -/
structure Anchored (lines : List Text) (st : State) : Prop where
  begins : ∀ place, st.phase.place? = some place → BeginsAt lines place
  heredoc : ∀ s word later body, st.phase = .heredoc s word later body →
    heredocKeywords.contains s.keyword = true

/-- The text of an instruction begins where the instruction does. -/
theorem Phase.Gives.beginsAt {phase : Phase} {lines : List Text} {raw : Text} {place : Place}
    {text : Text} (h : phase.Gives (lines.length + 1) raw place text)
    (hbody : isIgnored (Text.trim raw) = false)
    (hphase : ∀ place, phase.place? = some place → BeginsAt lines place) :
    BeginsAt (lines ++ [raw]) place := by
  cases h with
  | itself => exact beginsAt_placeOf lines hbody
  | joined h => exact (hphase place (by rw [h]; rfl)).append raw

/-- **What one line keeps.** -/
theorem anchored_step {lines : List Text} {st : State} (hst : Anchored lines st) (raw : Text) :
    Anchored (lines ++ [raw]) (step (lines.length + 1) raw st).1 ∧
      ∀ item ∈ (step (lines.length + 1) raw st).2, item.Sound (lines ++ [raw]) := by
  have hcount : (lines ++ [raw]).length = lines.length + 1 := by simp
  -- what was open before begins where it did
  have hopen : ∀ place, st.phase.place? = some place → BeginsAt (lines ++ [raw]) place :=
    fun place hplace => (hst.begins place hplace).append raw
  have hreads := reads_step (lines.length + 1) raw st
  generalize step (lines.length + 1) raw st = r at hreads
  cases hreads with
  | directive h => exact ⟨⟨hopen, hst.heredoc⟩, nofun⟩
  | ignored => exact ⟨⟨nofun, nofun⟩, nofun⟩
  | passed => exact ⟨⟨hopen, hst.heredoc⟩, nofun⟩
  | continued hgives hbody =>
    refine ⟨⟨fun place hplace => ?_, nofun⟩, nofun⟩
    exact Option.some.inj hplace ▸ hgives.beginsAt hbody hst.begins
  | completed hgives hbody _ hs =>
    refine ⟨⟨nofun, nofun⟩, hcount ▸ sound_emit ?_ []⟩
    rw [place_of_statement? hs]
    exact hgives.beginsAt hbody hst.begins
  | opened hgives hbody _ hs hheredocs =>
    refine ⟨⟨fun place hplace => ?_, fun s word later body hphase => ?_⟩, nofun⟩
    · rw [← Option.some.inj hplace, place_of_statement? hs]
      exact hgives.beginsAt hbody hst.begins
    · obtain ⟨rfl, -⟩ := Phase.heredoc.inj hphase
      exact heredocKeyword_of_heredocs hheredocs
  | body h =>
    refine ⟨⟨fun place hplace => hopen place (by rw [h]; exact hplace),
      fun s word later body hphase => ?_⟩, nofun⟩
    obtain ⟨rfl, -⟩ := Phase.heredoc.inj hphase
    exact hst.heredoc _ _ _ _ h
  | nextBody h =>
    refine ⟨⟨fun place hplace => hopen place (by rw [h]; exact hplace),
      fun s word later body hphase => ?_⟩, nofun⟩
    obtain ⟨rfl, -⟩ := Phase.heredoc.inj hphase
    exact hst.heredoc _ _ _ _ h
  | @closed s word body h =>
    exact ⟨⟨nofun, nofun⟩, hcount ▸ sound_emit (hopen s.place (by rw [h]; rfl)) body.reverse⟩

theorem anchored_ofLines (lines : List Text) :
    Anchored lines (Reading.ofLines step {} lines).state ∧
      ∀ item ∈ (Reading.ofLines step {} lines).items, item.Sound lines :=
  Reading.forall_ofLines step {} Anchored Item.Sound ⟨nofun, nofun⟩
    (fun _ l _ h => h.append l) (fun _ l _ hst => (anchored_step hst l).1)
    (fun _ l _ hst => (anchored_step hst l).2) lines

/-! ## The end of a file -/

/-- What is completed at the end of a file: at most one instruction and at most one problem. -/
structure Last (lines : List Text) (finished : List Item) : Prop where
  sound : ∀ item ∈ finished, item.Sound lines
  instructions : (finished.filterMap Item.instruction?).length ≤ 1
  faults : (finished.filterMap Item.fault?).length ≤ 1

theorem last_emit {lines : List Text} {s : Statement} (hplace : BeginsAt lines s.place)
    (body : List Text) : Last lines (s.emit body lines.length) := by
  have hlength : (s.emit body lines.length).length ≤ 1 := by
    rcases emit_eq_nil_or_singleton s body lines.length with h | ⟨item, h⟩ <;> simp [h]
  exact ⟨sound_emit hplace body, Nat.le_trans (List.length_filterMap_le _ _) hlength,
    Nat.le_trans (List.length_filterMap_le _ _) hlength⟩

theorem last_unterminated {lines : List Text} {s : Statement} (hplace : BeginsAt lines s.place)
    (hkeyword : heredocKeywords.contains s.keyword = true) (word : Text) (body : List Text) :
    Last lines (unterminated s word body lines.length) := by
  unfold unterminated
  rw [emit_of_heredocKeyword hkeyword]
  refine ⟨List.forall_mem_cons.2 ⟨⟨hplace, nofun⟩, ?_⟩, Nat.le_refl 1, Nat.le_refl 1⟩
  exact emit_of_heredocKeyword hkeyword body lines.length ▸ sound_emit hplace body

theorem last_of_finish {lines : List Text} {st : State} (hst : Anchored lines st)
    {finished : List Item} (h : st.finish lines.length = .ok finished) : Last lines finished := by
  have hfinishes := finishes_finish st lines.length
  rw [h] at hfinishes
  cases hfinishes with
  | nothing => exact ⟨nofun, Nat.zero_le 1, Nat.zero_le 1⟩
  | completed hphase hs =>
    refine last_emit (hst.begins _ ?_) []
    rw [hphase, place_of_statement? hs]
    rfl
  | bodiless hphase hs hheredocs =>
    refine last_unterminated (hst.begins _ ?_) (heredocKeyword_of_heredocs hheredocs) _ []
    rw [hphase, place_of_statement? hs]
    rfl
  | openBody hphase =>
    refine last_unterminated (hst.begins _ ?_) (hst.heredoc _ _ _ _ hphase) _ _
    rw [hphase]
    rfl

/-! ## Items in the order of the lines -/

/-- **A line completes one thing at a time**, and leaves no instruction open then. -/
theorem step_completes_one (line : Nat) (raw : Text) (st : State) :
    (step line raw st).2 = [] ∨
      ∃ item, (step line raw st).2 = [item] ∧ (step line raw st).1.lineNumbers = [] := by
  have hemit : ∀ (s : Statement) (body : List Text),
      s.emit body line = [] ∨ ∃ item, s.emit body line = [item] ∧
        State.lineNumbers { st with phase := .idle } = [] :=
    fun s body => (emit_eq_nil_or_singleton s body line).imp_right fun ⟨item, h⟩ => ⟨item, h, rfl⟩
  have hreads := reads_step line raw st
  generalize step line raw st = r at hreads
  cases hreads with
  | directive => exact .inl rfl
  | ignored => exact .inl rfl
  | passed => exact .inl rfl
  | continued => exact .inl rfl
  | completed => exact hemit _ []
  | opened => exact .inl rfl
  | body => exact .inl rfl
  | nextBody => exact .inl rfl
  | closed => exact hemit _ _

/-- What is picked out of the items of a Dockerfile is in the order of the lines, if not more than
one of it is completed at the end of the file. -/
theorem pairwise_filterMap_items {α : Type} {pick? : Item → Option α} {R : α → α → Prop}
    (hpick : ∀ a b x y, pick? a = some x → pick? b = some y →
      Before Item.lineNumbers a b → R x y)
    {lines : List Text} {finished : List Item}
    (hfinish : (Reading.ofLines step {} lines).state.finish lines.length = .ok finished)
    (hone : (finished.filterMap pick?).length ≤ 1) :
    (((Reading.ofLines step {} lines).items ++ finished).filterMap pick?).Pairwise R := by
  obtain ⟨hread, hopen⟩ := Reading.pairwise_ofLines (rfl : State.lineNumbers {} = [])
    drawnFrom_step step_completes_one lines
  obtain ⟨hstate, -⟩ := Reading.isLineNumber_ofLines (rfl : State.lineNumbers {} = [])
    drawnFrom_step lines
  have hlater : ∀ a ∈ (Reading.ofLines step {} lines).items, ∀ b ∈ finished,
      Before Item.lineNumbers a b := by
    intro a ha b hb m hm n hn
    obtain ⟨first, hfirst, hn⟩ := mem_of_mem_finish hfinish hb hn
    have hlt := hopen a ha m hm first hfirst
    rcases List.mem_cons.1 hn with rfl | hn
    · exact hlt
    · rw [List.mem_singleton.1 hn]
      exact Nat.lt_of_lt_of_le hlt (hstate first hfirst).2
  rw [List.filterMap_append]
  refine List.pairwise_append.2 ⟨?_, ?_, fun x hx y hy => ?_⟩
  · exact hread.filterMap _ fun a b hab x hx y hy => hpick a b x y hx hy hab
  · cases hlast : finished.filterMap pick? with
    | nil => exact .nil
    | cons x rest =>
      have hrest : rest = [] := by simpa [hlast] using hone
      rw [hrest]
      exact List.pairwise_singleton R x
  · obtain ⟨a, ha, hx⟩ := List.mem_filterMap.1 hx
    obtain ⟨b, hb, hy⟩ := List.mem_filterMap.1 hy
    exact hpick a b x y hx hy (hlater a ha b hb)

/-! ## The spans of instructions -/

/-- The problem of a Dockerfile without a base image. -/
def noFromFinding : Finding :=
  { line := 1, column := 0, message := "Dockerfile has no FROM instruction" }

/-- **How instructions and problems lie in the lines of a Dockerfile.** -/
structure Spans (lines : List Text) (d : Dockerfile) : Prop where
  within : ∀ i ∈ d.instructions, 1 ≤ i.line ∧ i.line ≤ i.endLine ∧ i.endLine ≤ lines.length
  apart : d.instructions.Pairwise fun i j => i.endLine < j.line
  begins : ∀ i ∈ d.instructions, BeginsAt lines ⟨i.line, i.column⟩
  /-- A missing base image is reported last, and all else in the order of the lines. -/
  findings : ∃ others, d.findings = others ++
      (if ∃ i ∈ d.instructions, i.keyword = ("FROM" : Text) then [] else [noFromFinding]) ∧
    (∀ f ∈ others, f.message ≠ noFromFinding.message) ∧ others.Pairwise fun f g => f.line < g.line

/-- The finding of a fault. -/
def Fault.finding (f : Fault) : Finding :=
  { line := f.line, column := f.column, message := f.problem.message }

/-- What is wrong with a part of a Dockerfile is not worded as the missing base image is. -/
theorem message_ne {problem : Problem} (h : problem ≠ .noFrom) :
    problem.message ≠ noFromFinding.message := by
  intro hmessage
  have hhead := congrArg List.head? hmessage
  cases problem with
  | unterminatedHeredoc word => exact nomatch hhead
  | unknownInstruction word => exact nomatch hhead
  | noFrom => exact h rfl

/-- **The Dockerfile that items make**: a missing base image is reported after all else. -/
theorem ofItems_eq (items : List Item) :
    ofItems items
      = { instructions := items.filterMap Item.instruction?
          faults := items.filterMap Item.fault? ++
            if (items.filterMap Item.instruction?).any (·.keyword = ("FROM" : Text)) then []
            else [⟨1, 0, .noFrom⟩] } := by
  unfold ofItems has
  dsimp only
  split
  · rw [List.append_nil]
  · rfl

@[simp] theorem instructions_ofItems (items : List Item) :
    (ofItems items).instructions = items.filterMap Item.instruction? := by
  rw [ofItems_eq]

theorem findings_ofItems (items : List Item) :
    (ofItems items).findings = (items.filterMap Item.fault?).map Fault.finding ++
      (if ∃ i ∈ (ofItems items).instructions, i.keyword = ("FROM" : Text) then []
        else [noFromFinding]) := by
  have hany : (items.filterMap Item.instruction?).any (·.keyword = ("FROM" : Text)) = true ↔
      ∃ i ∈ (ofItems items).instructions, i.keyword = ("FROM" : Text) := by
    rw [instructions_ofItems, List.any_eq_true]
    simp only [decide_eq_true_eq]
  rw [ofItems_eq] at hany ⊢
  unfold findings
  dsimp only at hany ⊢
  simp only [← hany]
  rw [List.map_append]
  split <;> rfl

theorem sound_of_instruction? {lines : List Text} {item : Item} {i : Instruction}
    (hitem : item.Sound lines) (h : item.instruction? = some i) :
    Item.Sound lines (.instruction i) := by
  cases item with
  | instruction i' => exact Option.some.inj h ▸ hitem
  | fault f => exact nomatch h

theorem sound_of_fault? {lines : List Text} {item : Item} {f : Fault} (hitem : item.Sound lines)
    (h : item.fault? = some f) : Item.Sound lines (.fault f) := by
  cases item with
  | instruction i => exact nomatch h
  | fault f' => exact Option.some.inj h ▸ hitem

/-- **Instructions take up lines of the file one after another**, also where one of them goes on
past the end of the file or has heredocs without an end. -/
theorem spans_ofLines {lines : List Text} {d : Dockerfile} (h : ofLines lines = .ok d) :
    Spans lines d := by
  obtain ⟨found, hfound, rfl⟩ := exists_ok_of_map_ok h
  obtain ⟨finished, hfinish, rfl⟩ := exists_ok_of_map_ok hfound
  rw [Reading.count_ofLines] at hfinish
  obtain ⟨hstate, hread⟩ := anchored_ofLines lines
  have hlast := last_of_finish hstate hfinish
  have hsound : ∀ item ∈ (Reading.ofLines step {} lines).items ++ finished, item.Sound lines :=
    fun item hitem => (List.mem_append.1 hitem).elim (hread item) (hlast.sound item)
  have hinstructions :
      ∀ i ∈ (ofItems ((Reading.ofLines step {} lines).items ++ finished)).instructions,
        Item.Sound lines (.instruction i) := by
    intro i hi
    rw [instructions_ofItems] at hi
    obtain ⟨item, hitem, hsome⟩ := List.mem_filterMap.1 hi
    exact sound_of_instruction? (hsound item hitem) hsome
  constructor
  case within =>
    intro i hi
    obtain ⟨hbegins, hle, hend⟩ := hinstructions i hi
    exact ⟨hbegins.isLineNumber.1, hle, hend⟩
  case apart =>
    rw [instructions_ofItems]
    refine pairwise_filterMap_items (fun a b i j hi hj hab => ?_) hfinish hlast.instructions
    refine hab _ ?_ _ ?_
    · rw [lineNumbers_of_instruction? hi]
      exact List.mem_cons_of_mem _ List.mem_cons_self
    · rw [lineNumbers_of_instruction? hj]
      exact List.mem_cons_self
  case begins => exact fun i hi => (hinstructions i hi).1
  case findings =>
    refine ⟨_, findings_ofItems _, fun f hf => ?_, ?_⟩
    · obtain ⟨fault, hfault, rfl⟩ := List.mem_map.1 hf
      obtain ⟨item, hitem, hsome⟩ := List.mem_filterMap.1 hfault
      exact message_ne (sound_of_fault? (hsound item hitem) hsome).2
    · refine List.pairwise_map.2 (pairwise_filterMap_items (fun a b f g hf hg hab => ?_) hfinish
        hlast.faults)
      exact Int.ofNat_lt.2 (hab _ (line_mem_of_fault? hf) _ (line_mem_of_fault? hg))

/-- A continued instruction with a comment in it, an unknown one, and one that goes on past the end
of the file with a heredoc that has no body. -/
theorem spans_ofLines_of_open_heredoc :
    let lines : List Text :=
      ["# syntax=x", "FROM a \\", "# comment", "  AS b", " FOO", "", "RUN <<EOF \\", ""]
    ∃ d, ofLines lines = .ok d ∧ Spans lines d ∧
      d.instructions.map (fun i => (i.line, i.endLine)) = [(2, 4), (7, 8)] ∧
      d.faults.map Fault.line = [5, 7] := by
  intro lines
  obtain ⟨d, hd, hlines⟩ : ∃ d, ofLines lines = .ok d ∧
      d.instructions.map (fun i => (i.line, i.endLine)) = [(2, 4), (7, 8)] ∧
      d.faults.map Fault.line = [5, 7] := ⟨_, rfl, by decide +kernel, by decide +kernel⟩
  exact ⟨d, hd, spans_ofLines hd, hlines⟩

end OpsLint.Dockerfile

import OpsLint.Proofs.DockerfileComments

/-!
# Heredocs

The bodies of the heredocs of an instruction belong to its arguments, whatever is in them: comments,
lines that look like instructions, lines that end in the escape character, or the word of another
heredoc (`ofLines_heredocs`). Each body ends at the first line that consists of its word, and the
next one begins after it. What follows the last of these lines is read as if nothing had been there.

So lines of a body can be replaced by as many other lines, as long as no body ends elsewhere. All
that changes in the Dockerfile are the arguments of this one instruction.

A heredoc is here the lines it takes up (`Heredoc`). That no line of its body consists of its word
is part of what a heredoc is.
-/

namespace OpsLint.Dockerfile

/-! ## Reading on -/

/-- The items of lines that are read from a state on, when so many lines have been read, and of what
is open after them. -/
def itemsFrom (st : State) (count : Nat) (lines : List Text) : Except ReadError (List Item) :=
  let r := Reading.onward step count st lines
  (r.state.finish (count + lines.length)).map (r.items ++ ·)

theorem itemsFrom_cons (st : State) (count : Nat) (l : Text) (lines : List Text) :
    itemsFrom st count (l :: lines)
      = (itemsFrom (step (count + 1) l st).1 (count + 1) lines).map
          ((step (count + 1) l st).2 ++ ·) := by
  unfold itemsFrom
  dsimp only
  rw [Reading.state_onward_cons, Reading.items_onward_cons, except_map_map, List.length_cons,
    Nat.add_comm lines.length, Nat.add_assoc]
  simp only [List.append_assoc]

/-- A line that completes nothing. -/
theorem itemsFrom_cons_of_step {st st' : State} {count : Nat} {l : Text}
    (h : step (count + 1) l st = (st', [])) (lines : List Text) :
    itemsFrom st count (l :: lines) = itemsFrom st' (count + 1) lines := by
  rw [itemsFrom_cons, h]
  cases itemsFrom st' (count + 1) lines <;> rfl

theorem items_append (a b : List Text) :
    items (a ++ b)
      = (itemsFrom (Reading.ofLines step {} a).state a.length b).map
          ((Reading.ofLines step {} a).items ++ ·) := by
  unfold items itemsFrom
  dsimp only
  rw [Reading.count_ofLines, Reading.state_ofLines_append, Reading.items_ofLines_append,
    except_map_map, List.length_append]
  simp only [List.append_assoc]

/-- Lines after which no instruction is open. -/
def IsComplete (lines : List Text) : Prop :=
  (Reading.ofLines step {} lines).state.phase.place? = none

theorem IsComplete.items_eq {lines : List Text} (h : IsComplete lines) :
    items lines = .ok (Reading.ofLines step {} lines).items := by
  unfold items
  unfold IsComplete at h
  dsimp only
  generalize Reading.ofLines step {} lines = r at h ⊢
  have hfinish : r.state.finish r.count = .ok [] := by
    unfold State.finish
    cases hphase : r.state.phase with
    | directives => rfl
    | idle => rfl
    | continued place text => rw [hphase] at h; exact nomatch h
    | heredoc s word later body => rw [hphase] at h; exact nomatch h
  rw [hfinish]
  exact congrArg Except.ok (List.append_nil _)

/-! ## The lines of heredocs -/

/-- The lines of a heredoc: those of its body, and the first one that consists of its word. -/
structure Heredoc where
  body : List Text
  stop : Text
  goes_on : ∀ l ∈ body, Text.trim l ≠ Text.trim stop

namespace Heredoc

/-- The word of a heredoc. -/
def word (d : Heredoc) : Text := Text.trim d.stop

/-- All lines of a heredoc. -/
def lines (d : Heredoc) : List Text := d.body ++ [d.stop]

/-- The lines of the bodies of heredocs that follow one another. -/
def bodies (ds : List Heredoc) : List Text := ds.flatMap body

/-- All lines of heredocs that follow one another. -/
def allLines (ds : List Heredoc) : List Text := ds.flatMap lines

theorem allLines_cons_append (d : Heredoc) (ds : List Heredoc) (rest : List Text) :
    allLines (d :: ds) ++ rest = d.body ++ d.stop :: (allLines ds ++ rest) := by
  simp [allLines, lines]

theorem length_allLines_cons (d : Heredoc) (ds : List Heredoc) :
    (allLines (d :: ds)).length = d.body.length + 1 + (allLines ds).length := by
  simp [allLines, lines]
  omega

end Heredoc

section

variable (escape : Char) (s : Statement)

/-- **Lines of a body are gathered**, whatever they are. -/
theorem itemsFrom_body (word : Text) (later : List Text) {body : List Text}
    (hbody : ∀ l ∈ body, Text.trim l ≠ word) (gathered : List Text) (count : Nat)
    (rest : List Text) :
    itemsFrom ⟨escape, .heredoc s word later gathered⟩ count (body ++ rest)
      = itemsFrom ⟨escape, .heredoc s word later (body.reverse ++ gathered)⟩ (count + body.length)
          rest := by
  induction body generalizing gathered count with
  | nil => rfl
  | cons l body ih =>
    obtain ⟨hl, hbody⟩ := List.forall_mem_cons.1 hbody
    have hstep : step (count + 1) l ⟨escape, .heredoc s word later gathered⟩
        = (⟨escape, .heredoc s word later (l :: gathered)⟩, []) := if_neg hl
    rw [List.cons_append, itemsFrom_cons_of_step hstep, ih hbody, List.reverse_cons,
      List.append_assoc, List.length_cons, Nat.add_comm body.length, Nat.add_assoc]
    rfl

/-- **Heredocs are read to the end of the last one**, and then they and their statement are an
item. -/
theorem itemsFrom_heredocs (d : Heredoc) (ds : List Heredoc) (gathered : List Text) (count : Nat)
    (rest : List Text) :
    itemsFrom ⟨escape, .heredoc s d.word (ds.map Heredoc.word) gathered⟩ count
        (Heredoc.allLines (d :: ds) ++ rest)
      = (itemsFrom ⟨escape, .idle⟩ (count + (Heredoc.allLines (d :: ds)).length) rest).map
          (s.emit (gathered.reverse ++ Heredoc.bodies (d :: ds))
            (count + (Heredoc.allLines (d :: ds)).length) ++ ·) := by
  induction ds generalizing d gathered count with
  | nil =>
    have hstep : step (count + d.body.length + 1) d.stop
          ⟨escape, .heredoc s d.word [] (d.body.reverse ++ gathered)⟩
        = (⟨escape, .idle⟩, s.emit (gathered.reverse ++ d.body) (count + d.body.length + 1)) := by
      refine (if_pos rfl).trans ?_
      simp
    rw [Heredoc.allLines_cons_append, List.map_nil, itemsFrom_body _ _ d.word _ d.goes_on,
      itemsFrom_cons, hstep]
    simp [Heredoc.allLines, Heredoc.lines, Heredoc.bodies, Nat.add_assoc]
  | cons next ds ih =>
    have hstep : step (count + d.body.length + 1) d.stop
          ⟨escape, .heredoc s d.word (next.word :: ds.map Heredoc.word)
            (d.body.reverse ++ gathered)⟩
        = (⟨escape, .heredoc s next.word (ds.map Heredoc.word) (d.body.reverse ++ gathered)⟩,
            []) := if_pos rfl
    rw [Heredoc.allLines_cons_append, List.map_cons, itemsFrom_body _ _ d.word _ d.goes_on,
      itemsFrom_cons_of_step hstep, ih, Heredoc.length_allLines_cons d]
    simp [Heredoc.bodies, Nat.add_assoc]

end

/-! ## The line that opens heredocs -/

/-- The statement of a line that holds all of it. -/
def lineStatement (line : Nat) (raw : Text) : Statement where
  place := placeOf line raw
  word := (Text.firstWord (Text.trim raw)).1
  arguments := (Text.firstWord (Text.trim raw)).2

/-- A line that begins with a keyword says something. -/
theorem isIgnored_of_keyword {line : Nat} {raw : Text}
    (h : (lineStatement line raw).keyword ∈ heredocKeywords) :
    isIgnored (Text.trim raw) = false := by
  have hknown : ∀ keyword ∈ heredocKeywords, keyword ≠ [] ∧ keyword.head? ≠ some '#' := by decide
  obtain ⟨hne, hcomment⟩ := hknown _ h
  have hhead := Text.head?_firstWord (Text.trimLeft_trim raw)
  unfold Statement.keyword lineStatement at hne hcomment
  dsimp only at hne hcomment
  cases hword : (Text.firstWord (Text.trim raw)).1 with
  | nil =>
    rw [hword] at hne
    exact absurd rfl hne
  | cons c w =>
    rw [hword] at hcomment hhead
    unfold isIgnored
    rw [← hhead, Bool.or_eq_false_iff]
    refine ⟨?_, ?_⟩
    · cases hbody : Text.trim raw with
      | nil => rw [hbody] at hhead; exact nomatch hhead
      | cons d r => rfl
    · refine decide_eq_false ?_
      rintro ⟨rfl⟩
      exact hcomment rfl

theorem statement?_trim {raw : Text} (h : Text.trim raw ≠ []) (line : Nat) :
    statement? (placeOf line raw) (Text.trim raw) = some (lineStatement line raw) := by
  cases hs : statement? (placeOf line raw) (Text.trim raw) with
  | none =>
    rw [statement?_eq_none_iff, Text.trimLeft_trim] at hs
    exact absurd hs h
  | some s => exact congrArg some (eq_of_statement? hs)

theorem step_of_ready {st : State} {raw : Text} (h : st.phase.Ready raw) (line : Nat) :
    step line raw st = st.start line raw := by
  unfold step
  obtain h | ⟨h, hraw⟩ := h
  · simp only [h]
  · simp only [h, hraw]

theorem ready_of_place? {phase : Phase} (h : phase.place? = none) {raw : Text}
    (hraw : isIgnored (Text.trim raw) = false) : phase.Ready raw := by
  cases phase with
  | idle => exact .inl rfl
  | directives =>
    refine .inr ⟨rfl, ?_⟩
    cases hdirective : directive? (Text.trim raw) with
    | none => rfl
    | some parts =>
      rw [isIgnored_of_directive? hdirective] at hraw
      exact nomatch hraw
  | continued place text => exact nomatch h
  | heredoc s word later body => exact nomatch h

/-- **A line opens the heredocs that its arguments name.** -/
theorem step_of_heredocWords {st : State} (hst : st.phase.place? = none) {line : Nat} {raw : Text}
    (hkeyword : (lineStatement line raw).keyword ∈ heredocKeywords)
    (hend : Text.endsWith (Text.trim raw) st.escape = false) {word : Text} {later : List Text}
    (hwords : heredocWords (Text.firstWord (Text.trim raw)).2 = word :: later) :
    step line raw st
      = ({ st with phase := .heredoc (lineStatement line raw) word later [] }, []) := by
  have hraw := isIgnored_of_keyword hkeyword
  have hheredocs : (lineStatement line raw).heredocs = word :: later := by
    unfold Statement.heredocs
    rw [if_pos (List.contains_iff_mem.2 hkeyword)]
    exact hwords
  rw [step_of_ready (ready_of_place? hst hraw)]
  unfold State.start
  dsimp only
  rw [if_neg (ne_true_of_eq_false hraw)]
  unfold State.text
  rw [if_neg (ne_true_of_eq_false hend)]
  have hs := statement?_trim (trim_ne_nil_of_isIgnored hraw) line
  unfold placeOf at hs
  rw [hs]
  show st.afterStatement line _ = _
  unfold State.afterStatement
  rw [hheredocs]

/-! ## Dockerfiles but for one instruction -/

/-- A Dockerfile but for one of its instructions. -/
structure Frame where
  before : List Instruction
  after : List Instruction
  faults : List Fault

/-- The Dockerfile with this instruction in its place. -/
def Frame.fill (f : Frame) (i : Instruction) : Dockerfile where
  instructions := f.before ++ i :: f.after
  faults := f.faults

/-- What items make around an instruction between them. -/
def frameOf (before after : List Item) : Frame where
  before := before.filterMap Item.instruction?
  after := after.filterMap Item.instruction?
  faults := (ofItems (before ++ after)).faults

theorem ofItems_frame {i : Instruction} (h : i.keyword ≠ ("FROM" : Text))
    (before after : List Item) :
    ofItems (before ++ .instruction i :: after) = (frameOf before after).fill i := by
  have hinstructions : (before ++ .instruction i :: after).filterMap Item.instruction?
      = before.filterMap Item.instruction? ++ i :: after.filterMap Item.instruction? := by
    rw [List.filterMap_append]
    rfl
  have hfaults : (before ++ .instruction i :: after).filterMap Item.fault?
      = (before ++ after).filterMap Item.fault? := by
    rw [List.filterMap_append, List.filterMap_cons_none rfl, ← List.filterMap_append]
  have hany : (before.filterMap Item.instruction? ++ i :: after.filterMap Item.instruction?).any
        (·.keyword = ("FROM" : Text))
      = ((before ++ after).filterMap Item.instruction?).any (·.keyword = ("FROM" : Text)) := by
    rw [List.filterMap_append, List.any_append, List.any_append, List.any_cons,
      decide_eq_false h, Bool.false_or]
  unfold frameOf
  rw [ofItems_eq, ofItems_eq, hinstructions, hfaults, hany]
  rfl

/-! ## Heredocs in a Dockerfile -/

/-- Lines with a line that opens heredocs, the lines of these, and further lines. -/
def withHeredocs (front : List Text) (raw : Text) (ds : List Heredoc) (rest : List Text) :
    List Text :=
  front ++ raw :: (Heredoc.allLines ds ++ rest)

/-- The instruction of a line with its heredocs. It ends where the last of them does. -/
def withBodies (line : Nat) (raw : Text) (ds : List Heredoc) : Instruction :=
  (lineStatement line raw).instruction (Heredoc.bodies ds) (line + (Heredoc.allLines ds).length)

section

variable {front : List Text} (hfront : IsComplete front) {raw : Text}
variable (hkeyword : (lineStatement (front.length + 1) raw).keyword ∈ heredocKeywords)
variable (hend : Text.endsWith (Text.trim raw) (escapeChar front) = false)

include hfront hkeyword hend

theorem items_withHeredocs {ds : List Heredoc} (hne : ds ≠ [])
    (hwords : heredocWords (Text.firstWord (Text.trim raw)).2 = ds.map Heredoc.word)
    (rest : List Text) :
    items (withHeredocs front raw ds rest)
      = (itemsFrom ⟨escapeChar front, .idle⟩ (front.length + 1 + (Heredoc.allLines ds).length)
          rest).map ((Reading.ofLines step {} front).items ++
            .instruction (withBodies (front.length + 1) raw ds) :: ·) := by
  cases ds with
  | nil => exact absurd rfl hne
  | cons d ds =>
    have hescape := (directives_ofLines front).2
    rw [← hescape] at hend ⊢
    have hstep := step_of_heredocWords hfront hkeyword hend hwords
    unfold withHeredocs
    rw [items_append, itemsFrom_cons_of_step hstep, itemsFrom_heredocs, except_map_map,
      emit_of_heredocKeyword (List.contains_iff_mem.2 hkeyword)]
    rfl

theorem ofLines_withHeredocs {ds : List Heredoc} (hne : ds ≠ [])
    (hwords : heredocWords (Text.firstWord (Text.trim raw)).2 = ds.map Heredoc.word)
    (rest : List Text) :
    ofLines (withHeredocs front raw ds rest)
      = ((itemsFrom ⟨escapeChar front, .idle⟩ (front.length + 1 + (Heredoc.allLines ds).length)
          rest).map (frameOf (Reading.ofLines step {} front).items)).map
            (·.fill (withBodies (front.length + 1) raw ds)) := by
  have hfrom : ∀ keyword ∈ heredocKeywords, keyword ≠ ("FROM" : Text) := by decide
  unfold ofLines
  rw [items_withHeredocs hfront hkeyword hend hne hwords, except_map_map, except_map_map]
  simp only [ofItems_frame (hfrom _ hkeyword : (withBodies (front.length + 1) raw ds).keyword ≠ _)]

/-- **Heredocs are captured, and their bodies are opaque.** The line that opens them and all their
lines are one instruction, and the lines after them are read as after any other instruction. With
other bodies that take up as many lines, nothing but the arguments of this instruction changes. -/
theorem ofLines_heredocs {ds : List Heredoc} (hne : ds ≠ [])
    (hwords : heredocWords (Text.firstWord (Text.trim raw)).2 = ds.map Heredoc.word)
    (rest : List Text) :
    (∃ before, items front = .ok before ∧
        items (withHeredocs front raw ds rest)
          = (itemsFrom ⟨escapeChar front, .idle⟩ (front.length + 1 + (Heredoc.allLines ds).length)
              rest).map (before ++ .instruction (withBodies (front.length + 1) raw ds) :: ·)) ∧
      ∀ ds' : List Heredoc, ds'.map Heredoc.word = ds.map Heredoc.word →
        (Heredoc.allLines ds').length = (Heredoc.allLines ds).length →
        ∃ frame : Except ReadError Frame,
          ofLines (withHeredocs front raw ds rest)
              = frame.map (·.fill (withBodies (front.length + 1) raw ds)) ∧
            ofLines (withHeredocs front raw ds' rest)
              = frame.map (·.fill { withBodies (front.length + 1) raw ds with
                  arguments := (withBodies (front.length + 1) raw ds').arguments }) := by
  refine ⟨⟨_, hfront.items_eq, items_withHeredocs hfront hkeyword hend hne hwords rest⟩,
    fun ds' hwords' hlength => ?_⟩
  have hne' : ds' ≠ [] := by
    rintro rfl
    exact hne (List.map_eq_nil_iff.1 hwords'.symm)
  have hbodies : withBodies (front.length + 1) raw ds'
      = { withBodies (front.length + 1) raw ds with
          arguments := (withBodies (front.length + 1) raw ds').arguments } := by
    unfold withBodies
    rw [hlength]
    rfl
  refine ⟨_, ofLines_withHeredocs hfront hkeyword hend hne hwords rest, ?_⟩
  rw [← hbodies, ← hlength]
  exact ofLines_withHeredocs hfront hkeyword hend hne' (hwords.trans hwords'.symm) rest

end

/-- Two heredocs of one instruction. The first body has the word of the second, a comment and an
instruction that would be continued, and it can be replaced. -/
theorem ofLines_heredocs_of_two_words :
    let front : List Text := ["# escape=`", "FROM a"]
    let raw : Text := " run <<A cat <<-'B' > x\\"
    let first : Heredoc := ⟨["B", "# comment", "FROM b `"], "A", by decide +kernel⟩
    let other : Heredoc := ⟨["", "RUN <<A", "B"], " A", by decide +kernel⟩
    let second : Heredoc := ⟨["A", "exit"], "\tB ", by decide +kernel⟩
    let rest : List Text := ["USER u"]
    let i := withBodies 3 raw [first, second]
    IsComplete front ∧ (lineStatement 3 raw).keyword ∈ heredocKeywords ∧
      Text.endsWith (Text.trim raw) (escapeChar front) = false ∧
      heredocWords (Text.firstWord (Text.trim raw)).2 = [first, second].map Heredoc.word ∧
      i = { keyword := "RUN"
            arguments := "<<A cat <<-'B' > x\\\nB\n# comment\nFROM b `\nA\nexit"
            line := 3, column := 2, endLine := 10 } ∧
      (∃ before, items front = .ok before ∧
        items (withHeredocs front raw [first, second] rest)
          = (itemsFrom ⟨escapeChar front, .idle⟩ 10 rest).map (before ++ .instruction i :: ·)) ∧
      ∃ frame : Except ReadError Frame,
        ofLines (withHeredocs front raw [first, second] rest) = frame.map (·.fill i) ∧
          ofLines (withHeredocs front raw [other, second] rest)
            = frame.map (·.fill { i with
                arguments := "<<A cat <<-'B' > x\\\n\nRUN <<A\nB\nA\nexit" }) := by
  intro front raw first other second rest i
  have hfront : IsComplete front := rfl
  have hkeyword : (lineStatement 3 raw).keyword ∈ heredocKeywords := by decide +kernel
  have hend : Text.endsWith (Text.trim raw) (escapeChar front) = false := by decide +kernel
  have hwords : heredocWords (Text.firstWord (Text.trim raw)).2
      = [first, second].map Heredoc.word := by decide +kernel
  obtain ⟨hcaptured, hopaque⟩ :=
    ofLines_heredocs hfront hkeyword hend (List.cons_ne_nil first [second]) hwords rest
  exact ⟨hfront, hkeyword, hend, hwords, by decide +kernel, hcaptured,
    hopaque [other, second] (by decide +kernel) rfl⟩

end OpsLint.Dockerfile

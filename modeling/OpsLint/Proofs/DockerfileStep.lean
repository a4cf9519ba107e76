import OpsLint.Dockerfile.Basic
import OpsLint.Proofs.Reading
import OpsLint.Proofs.Words

/-!
# One line of a Dockerfile

All that reading one line of a Dockerfile can do, said once (`reads_step`), and all that can come of
what is open at the end (`finishes_finish`). A line that says something is the text of an
instruction, or is joined to the text of one that is to be continued (`Phase.Gives`). The text then
ends in the escape character and goes on, or it is a statement, which may have heredocs.

There is **always a keyword** in a text that does not go on: it ends in a line that says something.
Only at the end of a file can it be missing.

Directives count only in front of everything else, and the last one that chooses an escape character
counts (`directives_ofLines`).

Heredocs are opened by two characters next to each other. Joining lines puts a blank between them,
so a file without these two characters in one of its lines has no heredocs
(`plain_ofLines`).
-/

namespace OpsLint.Dockerfile

/-- A text that goes on, and the line it goes on with. -/
def joined (text raw : Text) : Text := text ++ " " ++ Text.trim raw

theorem joined_eq (text raw : Text) : joined text raw = text ++ ' ' :: Text.trim raw := by
  unfold joined
  rw [List.append_assoc]
  rfl

theorem trimLeft_joined_ne_nil {raw : Text} (h : Text.trim raw ≠ []) (text : Text) :
    Text.trimLeft (joined text raw) ≠ [] := by
  by_cases hblank : Text.trimLeft (text ++ " ") = []
  · rwa [joined, Text.trimLeft_append_of_blank hblank, Text.trimLeft_trim]
  · rw [joined, Text.trimLeft_append hblank]
    exact List.append_ne_nil_of_left_ne_nil hblank _

/-- A text that goes on, without the escape character that says so. -/
def withoutEscape (text : Text) : Text := Text.trimRight text.dropLast

/-- Where an instruction begins that begins on a line. -/
def placeOf (line : Nat) (raw : Text) : Place :=
  ⟨line, raw.length - (Text.trimLeft raw).length + 1⟩

theorem trim_ne_nil_of_isIgnored {raw : Text} (h : isIgnored (Text.trim raw) = false) :
    Text.trim raw ≠ [] := by
  intro hnil
  rw [hnil] at h
  exact nomatch h

/-! ## Statements -/

theorem firstWord_eq_nil_iff (text : Text) :
    (Text.firstWord text).1 = [] ↔ Text.trimLeft text = [] := by
  constructor
  · intro h
    cases hleft : Text.trimLeft text with
    | nil => rfl
    | cons c r =>
      have hword : (Text.firstWord text).1 = (c :: r).takeWhile (!Text.isBlank ·) := by
        rw [← hleft]
        rfl
      rw [hword, List.takeWhile_cons_of_pos (by rw [Text.isBlank_of_trimLeft_eq_cons hleft]; rfl)]
        at h
      exact nomatch h
  · intro h
    show (Text.trimLeft text).takeWhile _ = []
    rw [h]
    rfl

/-- **A text is a statement unless it is blank.** -/
theorem statement?_eq_none_iff (place : Place) (text : Text) :
    statement? place text = none ↔ Text.trimLeft text = [] := by
  rw [← firstWord_eq_nil_iff, ← List.isEmpty_iff]
  show (if (Text.firstWord text).1.isEmpty = true then none else some _) = none ↔ _
  split <;> simp_all

theorem eq_of_statement? {place : Place} {text : Text} {s : Statement}
    (h : statement? place text = some s) :
    s = ⟨place, (Text.firstWord text).1, (Text.firstWord text).2⟩ := by
  unfold statement? at h
  dsimp only at h
  split at h
  · exact nomatch h
  · exact (Option.some.inj h).symm

/-! ## Lines -/

/-- A line can begin an instruction: none is open, and it is not a directive. -/
def Phase.Ready (phase : Phase) (raw : Text) : Prop :=
  phase = .idle ∨ phase = .directives ∧ directive? (Text.trim raw) = none

/-- What a line that says something comes to: where its instruction begins, and the text of it up to
here. -/
inductive Phase.Gives (phase : Phase) (line : Nat) (raw : Text) : Place → Text → Prop
  | itself (h : phase.Ready raw) : Gives phase line raw (placeOf line raw) (Text.trim raw)
  | joined {place : Place} {text : Text} (h : phase = .continued place text) :
      Gives phase line raw place (joined text raw)

/-- What a line does. -/
inductive Reads (line : Nat) (raw : Text) (st : State) : State × List Item → Prop
  | directive {name value : Text} (h : st.phase = .directives)
      (hraw : directive? (Text.trim raw) = some (name, value)) :
      Reads line raw st ({ st with escape := (escapeOf? name value).getD st.escape }, [])
  | ignored (h : st.phase.Ready raw) (hbody : isIgnored (Text.trim raw) = true) :
      Reads line raw st ({ st with phase := .idle }, [])
  | passed {place : Place} {text : Text} (h : st.phase = .continued place text)
      (hbody : isIgnored (Text.trim raw) = true) : Reads line raw st (st, [])
  | continued {place : Place} {text : Text} (hgives : st.phase.Gives line raw place text)
      (hbody : isIgnored (Text.trim raw) = false) (h : Text.endsWith text st.escape = true) :
      Reads line raw st ({ st with phase := .continued place (withoutEscape text) }, [])
  | completed {place : Place} {text : Text} {s : Statement}
      (hgives : st.phase.Gives line raw place text) (hbody : isIgnored (Text.trim raw) = false)
      (h : Text.endsWith text st.escape = false) (hs : statement? place text = some s)
      (hheredocs : s.heredocs = []) :
      Reads line raw st ({ st with phase := .idle }, s.emit [] line)
  | opened {place : Place} {text : Text} {s : Statement} {word : Text} {later : List Text}
      (hgives : st.phase.Gives line raw place text) (hbody : isIgnored (Text.trim raw) = false)
      (h : Text.endsWith text st.escape = false) (hs : statement? place text = some s)
      (hheredocs : s.heredocs = word :: later) :
      Reads line raw st ({ st with phase := .heredoc s word later [] }, [])
  | body {s : Statement} {word : Text} {later body : List Text}
      (h : st.phase = .heredoc s word later body) (hword : Text.trim raw ≠ word) :
      Reads line raw st ({ st with phase := .heredoc s word later (raw :: body) }, [])
  | nextBody {s : Statement} {word next : Text} {later body : List Text}
      (h : st.phase = .heredoc s word (next :: later) body) (hword : Text.trim raw = word) :
      Reads line raw st ({ st with phase := .heredoc s next later body }, [])
  | closed {s : Statement} {word : Text} {body : List Text}
      (h : st.phase = .heredoc s word [] body) (hword : Text.trim raw = word) :
      Reads line raw st ({ st with phase := .idle }, s.emit body.reverse line)

section

variable {line : Nat} {raw : Text} {st : State}

/-- The text of an instruction ends as the line does that it was read up to. -/
theorem Phase.Gives.endsWith {phase : Phase} {place : Place} {text : Text}
    (h : phase.Gives line raw place text) (hbody : isIgnored (Text.trim raw) = false) (c : Char) :
    Text.endsWith text c = Text.endsWith (Text.trim raw) c := by
  cases h with
  | itself => rfl
  | joined => exact Text.endsWith_append (trim_ne_nil_of_isIgnored hbody) _ c

/-- The text of an instruction is not blank once a line has been read that says something. -/
theorem Phase.Gives.trimLeft_ne_nil {phase : Phase} {place : Place} {text : Text}
    (h : phase.Gives line raw place text) (hbody : isIgnored (Text.trim raw) = false) :
    Text.trimLeft text ≠ [] := by
  have hne := trim_ne_nil_of_isIgnored hbody
  cases h with
  | itself => rwa [Text.trimLeft_trim]
  | joined => exact trimLeft_joined_ne_nil hne _

theorem reads_text {place : Place} {text : Text} (hgives : st.phase.Gives line raw place text)
    (hbody : isIgnored (Text.trim raw) = false) : Reads line raw st (st.text line place text) := by
  unfold State.text
  split
  · rename_i h
    exact .continued hgives hbody h
  · rename_i h
    split
    · rename_i s hs
      unfold State.afterStatement
      split
      · rename_i hheredocs
        exact .completed hgives hbody (eq_false_of_ne_true h) hs hheredocs
      · rename_i word later hheredocs
        exact .opened hgives hbody (eq_false_of_ne_true h) hs hheredocs
    · rename_i hs
      exact absurd ((statement?_eq_none_iff place text).1 hs) (hgives.trimLeft_ne_nil hbody)

theorem reads_start (h : st.phase.Ready raw) : Reads line raw st (st.start line raw) := by
  unfold State.start
  dsimp only
  split
  · rename_i hbody
    exact .ignored h hbody
  · rename_i hbody
    exact reads_text (.itself h) (eq_false_of_ne_true hbody)

end

/-- **What one line does.** -/
theorem reads_step (line : Nat) (raw : Text) (st : State) :
    Reads line raw st (step line raw st) := by
  unfold step
  split
  · rename_i h
    split
    · rename_i name value hraw
      exact .directive h hraw
    · rename_i hraw
      exact reads_start (.inr ⟨h, hraw⟩)
  · rename_i h
    exact reads_start (.inl h)
  · rename_i place text h
    dsimp only
    split
    · rename_i hbody
      exact .passed h hbody
    · rename_i hbody
      exact reads_text (.joined h) (eq_false_of_ne_true hbody)
  · rename_i s word later body h
    split
    · rename_i hword
      split
      · exact .closed h hword
      · exact .nextBody h hword
    · rename_i hword
      exact .body h hword

/-! ## The end of a file -/

/-- What comes of what is open at the end of a file of so many lines. -/
inductive Finishes (st : State) (count : Nat) : Except ReadError (List Item) → Prop
  | nothing (h : st.phase = .idle ∨ st.phase = .directives) : Finishes st count (.ok [])
  | noKeyword {place : Place} {text : Text} (h : st.phase = .continued place text)
      (hs : statement? place text = none) : Finishes st count (.error .noKeyword)
  | completed {place : Place} {text : Text} {s : Statement} (h : st.phase = .continued place text)
      (hs : statement? place text = some s) (hheredocs : s.heredocs = []) :
      Finishes st count (.ok (s.emit [] count))
  | bodiless {place : Place} {text : Text} {s : Statement} {word : Text} {later : List Text}
      (h : st.phase = .continued place text) (hs : statement? place text = some s)
      (hheredocs : s.heredocs = word :: later) :
      Finishes st count (.ok (unterminated s word [] count))
  | openBody {s : Statement} {word : Text} {later body : List Text}
      (h : st.phase = .heredoc s word later body) :
      Finishes st count (.ok (unterminated s word body.reverse count))

/-- **What comes of what is open at the end.** -/
theorem finishes_finish (st : State) (count : Nat) : Finishes st count (st.finish count) := by
  unfold State.finish
  split
  · rename_i h
    exact .nothing (.inr h)
  · rename_i h
    exact .nothing (.inl h)
  · rename_i place text h
    split
    · rename_i hs
      exact .noKeyword h hs
    · rename_i s hs
      split
      · rename_i hheredocs
        exact .completed h hs hheredocs
      · rename_i word later hheredocs
        exact .bodiless h hs hheredocs
  · rename_i s word later body h
    exact .openBody h

/-! ## Directives -/

/-- A line is a directive. -/
def isDirective (raw : Text) : Bool := (directive? (Text.trim raw)).isSome

/-- A directive is a comment. -/
theorem isIgnored_of_directive? {body name value : Text}
    (h : directive? body = some (name, value)) : isIgnored body = true := by
  unfold directive? at h
  split at h
  · rfl
  · exact nomatch h

/-- The escape character that a line chooses. -/
def chosenEscape? (raw : Text) : Option Char :=
  (directive? (Text.trim raw)).bind fun (name, value) => escapeOf? name value

/-- The directives that a file begins with. -/
def leadingDirectives (lines : List Text) : List Text := lines.takeWhile isDirective

/-- The escape character of a file: the one chosen last by the directives it begins with. -/
def escapeChar (lines : List Text) : Char :=
  ((leadingDirectives lines).filterMap chosenEscape?).getLast?.getD '\\'

theorem leadingDirectives_concat {lines : List Text} {l : Text}
    (h : ¬ ((∀ m ∈ lines, isDirective m = true) ∧ isDirective l = true)) :
    leadingDirectives (lines ++ [l]) = leadingDirectives lines := by
  unfold leadingDirectives
  by_cases hlines : ∀ m ∈ lines, isDirective m = true
  · have hl : isDirective l = false := eq_false_of_ne_true fun hl => h ⟨hlines, hl⟩
    rw [List.takeWhile_append_of_pos hlines, List.takeWhile_cons_of_neg (ne_true_of_eq_false hl),
      List.append_nil, List.takeWhile_eq_self_iff.2 hlines]
  · have hlength : (lines.takeWhile isDirective).length ≠ lines.length := by
      intro hlength
      exact hlines (List.takeWhile_eq_self_iff.1
        ((List.takeWhile_prefix isDirective).eq_of_length hlength))
    rw [List.takeWhile_append, if_neg hlength]

theorem Phase.Ready.not_directive {phase : Phase} {raw : Text} (h : phase.Ready raw)
    (hphase : phase = .directives) : isDirective raw = false := by
  obtain hidle | ⟨-, hraw⟩ := h
  · rw [hphase] at hidle
    exact nomatch hidle
  · rw [isDirective, hraw]
    rfl

theorem Phase.Gives.not_directive {phase : Phase} {line : Nat} {raw : Text} {place : Place}
    {text : Text} (h : phase.Gives line raw place text) (hphase : phase = .directives) :
    isDirective raw = false := by
  cases h with
  | itself h => exact h.not_directive hphase
  | joined h => rw [hphase] at h; exact nomatch h

/-- **A line is a directive among directives, or directives are over.** -/
theorem directive_or_over (line : Nat) (raw : Text) (st : State) :
    st.phase = .directives ∧ isDirective raw = true ∧ (step line raw st).1.phase = .directives ∧
        (step line raw st).1.escape = (chosenEscape? raw).getD st.escape ∨
      (st.phase = .directives → isDirective raw = false) ∧
        (step line raw st).1.phase ≠ .directives ∧ (step line raw st).1.escape = st.escape := by
  have hreads := reads_step line raw st
  generalize step line raw st = r at hreads
  cases hreads with
  | directive h hraw =>
    refine .inl ⟨h, ?_, h, ?_⟩
    · rw [isDirective, hraw]
      rfl
    · rw [chosenEscape?, hraw]
      rfl
  | ignored h => exact .inr ⟨h.not_directive, nofun, rfl⟩
  | passed h => exact .inr ⟨by simp [h], by simp [h], rfl⟩
  | continued hgives => exact .inr ⟨hgives.not_directive, nofun, rfl⟩
  | completed hgives => exact .inr ⟨hgives.not_directive, nofun, rfl⟩
  | opened hgives => exact .inr ⟨hgives.not_directive, nofun, rfl⟩
  | body h => exact .inr ⟨by simp [h], nofun, rfl⟩
  | nextBody h => exact .inr ⟨by simp [h], nofun, rfl⟩
  | closed h => exact .inr ⟨by simp [h], nofun, rfl⟩

/-- **The state after some lines**, as far as directives are concerned. -/
theorem directives_ofLines (lines : List Text) :
    ((Reading.ofLines step {} lines).state.phase = .directives ↔
        ∀ l ∈ lines, isDirective l = true) ∧
      (Reading.ofLines step {} lines).state.escape = escapeChar lines := by
  induction lines using List.reverseRecOn with
  | nil => exact ⟨⟨nofun, fun _ => rfl⟩, rfl⟩
  | append_singleton lines l ih =>
    obtain ⟨hphase, hescape⟩ := ih
    rw [Reading.state_ofLines_concat]
    rcases directive_or_over (lines.length + 1) l (Reading.ofLines step {} lines).state with
      ⟨hdirectives, hl, hnext, hchosen⟩ | ⟨hl, hnext, hkept⟩
    · have hall : ∀ m ∈ lines ++ [l], isDirective m = true := by
        simpa [or_imp, forall_and, hl] using hphase.1 hdirectives
      refine ⟨⟨fun _ => hall, fun _ => hnext⟩, ?_⟩
      have hlines := hphase.1 hdirectives
      unfold escapeChar leadingDirectives at hescape ⊢
      rw [List.takeWhile_eq_self_iff.2 hlines] at hescape
      rw [List.takeWhile_eq_self_iff.2 hall, List.filterMap_append, hchosen, hescape]
      cases hchosen' : chosenEscape? l with
      | none => simp [hchosen']
      | some c => simp [hchosen']
    · have hover : ¬ ((∀ m ∈ lines, isDirective m = true) ∧ isDirective l = true) := by
        rintro ⟨hlines, hdirective⟩
        rw [hl (hphase.2 hlines)] at hdirective
        exact nomatch hdirective
      refine ⟨⟨fun h => absurd h hnext, fun hall => ?_⟩, ?_⟩
      · exact absurd ⟨fun m hm => hall m (by simp [hm]), hall l (by simp)⟩ hover
      · rw [hkept, hescape, escapeChar, escapeChar, leadingDirectives_concat hover]

/-! ## Files without heredocs -/

/-- A heredoc operator begins with two characters that then occur in the text. -/
theorem heredocOperator?_eq_none {s : Text} (h : ¬ ("<<" : Text) <+: s) :
    heredocOperator? s = none := by
  unfold heredocOperator?
  split
  · exact absurd ⟨_, rfl⟩ h
  · exact absurd ⟨_, rfl⟩ h
  · rfl

theorem heredocWords_eq_nil {s : Text} (h : ¬ ("<<" : Text) <:+: s) : heredocWords s = [] := by
  unfold heredocWords
  induction s with
  | nil => rfl
  | cons c s ih =>
    have hstart : ¬ ("<<" : Text) <+: c :: s := fun hprefix => h hprefix.isInfix
    rw [heredocWordsFrom, if_neg (by simp), heredocOperator?_eq_none hstart]
    exact ih fun hoccurs => h (hoccurs.trans (List.suffix_cons c s).isInfix)

theorem heredocs_eq_nil {place : Place} {text : Text} {s : Statement}
    (hs : statement? place text = some s) (h : ¬ ("<<" : Text) <:+: text) : s.heredocs = [] := by
  have harguments : s.arguments <:+ text := by
    rw [eq_of_statement? hs]
    exact (List.dropWhile_suffix _).trans
      ((List.dropWhile_suffix _).trans (List.dropWhile_suffix _))
  unfold Statement.heredocs
  split
  · exact heredocWords_eq_nil fun hoccurs => h (hoccurs.trans harguments.isInfix)
  · rfl

/-- The state after lines that open no heredoc. -/
structure Plain (st : State) : Prop where
  text : ∀ place text, st.phase = .continued place text → ¬ ("<<" : Text) <:+: text
  notHeredoc : ∀ s word later body, st.phase ≠ .heredoc s word later body

theorem Phase.Gives.not_infix {phase : Phase} {line : Nat} {raw : Text} {place : Place}
    {text : Text} (h : phase.Gives line raw place text) (hraw : ¬ ("<<" : Text) <:+: raw)
    (hphase : ∀ place text, phase = .continued place text → ¬ ("<<" : Text) <:+: text) :
    ¬ ("<<" : Text) <:+: text := by
  have htrim : ¬ ("<<" : Text) <:+: Text.trim raw :=
    fun hoccurs => hraw (hoccurs.trans (Text.trim_infix raw))
  cases h with
  | itself => exact htrim
  | @joined place text h =>
    rw [joined_eq]
    exact fun hoccurs => (Text.infix_of_infix_append_cons (by decide) hoccurs).elim
      (hphase place text h) htrim

theorem plain_step (line : Nat) {raw : Text} (hraw : ¬ ("<<" : Text) <:+: raw) {st : State}
    (hst : Plain st) : Plain (step line raw st).1 := by
  have hreads := reads_step line raw st
  generalize step line raw st = r at hreads
  cases hreads with
  | directive h => exact ⟨fun _ _ hphase => by simp [h] at hphase, fun _ _ _ _ => by simp [h]⟩
  | ignored => exact ⟨nofun, nofun⟩
  | passed => exact hst
  | @continued place text hgives =>
    refine ⟨fun place' text' hphase hoccurs => ?_, nofun⟩
    obtain ⟨rfl, rfl⟩ := Phase.continued.inj hphase
    have hprefix : withoutEscape text <+: text :=
      (List.rdropWhile_prefix _ _).trans (List.dropLast_prefix text)
    exact hgives.not_infix hraw hst.text (hoccurs.trans hprefix.isInfix)
  | completed => exact ⟨nofun, nofun⟩
  | opened hgives _ _ hs hheredocs =>
    rw [heredocs_eq_nil hs (hgives.not_infix hraw hst.text)] at hheredocs
    exact nomatch hheredocs
  | body h => exact absurd h (hst.notHeredoc _ _ _ _)
  | nextBody h => exact absurd h (hst.notHeredoc _ _ _ _)
  | closed h => exact absurd h (hst.notHeredoc _ _ _ _)

/-- **Lines without two such characters open no heredoc.** -/
theorem plain_ofLines {lines : List Text} (h : ∀ l ∈ lines, ¬ ("<<" : Text) <:+: l) :
    Plain (Reading.ofLines step {} lines).state :=
  Reading.state_ofLines_of_forall step {} Plain ⟨nofun, nofun⟩
    (fun line _ _ hraw hst => plain_step line hraw hst) h

end OpsLint.Dockerfile

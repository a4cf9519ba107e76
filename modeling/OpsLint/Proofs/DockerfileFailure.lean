import OpsLint.Proofs.DockerfileStep

/-!
# Dockerfiles that cannot be read

Reading a Dockerfile fails if its last instruction has no keyword, because nothing is left of its
lines when the escape characters at their ends are taken off. In a file without heredocs this is
seen from the lines that say something, trimmed (`spokenLines`). The file cannot be read **exactly
if** the last instruction consists of lines that are the escape character and nothing else
(`ofLines_eq_error_iff`).

Where the last instruction begins is seen from the lines as well: it is the first line or follows a
line that does not end in the escape character. A line that ends in two of them is no exception. It
is continued, and one of the two stays and is the keyword if nothing else is.

The state after some lines knows this much about them (`Phase.Knows`): whether the last of them is
to be continued, and if it is, whether the text up to there is blank.
-/

namespace OpsLint.Dockerfile

/-- The lines of a file that say something, trimmed. -/
def spokenLines (lines : List Text) : List Text := (lines.map Text.trim).filter (!isIgnored ·)

theorem spokenLines_concat_of_isIgnored {raw : Text} (h : isIgnored (Text.trim raw) = true)
    (lines : List Text) : spokenLines (lines ++ [raw]) = spokenLines lines := by
  simp [spokenLines, h]

theorem spokenLines_concat {raw : Text} (h : isIgnored (Text.trim raw) = false)
    (lines : List Text) : spokenLines (lines ++ [raw]) = spokenLines lines ++ [Text.trim raw] := by
  simp [spokenLines, h]

/-! ## Lines of an escape character only -/

/-- The last of some lines, if there is one, is not to be continued. -/
def Settled (escape : Char) (spoken : List Text) : Prop :=
  ∀ l, spoken.getLast? = some l → Text.endsWith l escape = false

/-- Some lines end in an instruction of which each line is the escape character and nothing else:
before these lines nothing is to be continued. -/
def EndsBare (escape : Char) (spoken : List Text) : Prop :=
  ∃ front n, spoken = front ++ List.replicate (n + 1) [escape] ∧ Settled escape front

theorem settled_concat (escape : Char) (spoken : List Text) (l : Text) :
    Settled escape (spoken ++ [l]) ↔ Text.endsWith l escape = false := by
  simp [Settled]

theorem EndsBare.not_settled {escape : Char} {spoken : List Text} (h : EndsBare escape spoken) :
    ¬ Settled escape spoken := by
  obtain ⟨front, n, rfl, -⟩ := h
  intro hsettled
  have hlast := hsettled [escape] (by simp [List.getLast?_replicate])
  simp [Text.endsWith] at hlast

/-- **A further line**: it is the escape character, and either it begins an instruction or the lines
before it end in this way already. -/
theorem endsBare_concat (escape : Char) (spoken : List Text) (l : Text) :
    EndsBare escape (spoken ++ [l]) ↔
      l = [escape] ∧ (EndsBare escape spoken ∨ Settled escape spoken) := by
  constructor
  · rintro ⟨front, n, hcut, hfront⟩
    rw [List.replicate_succ', ← List.append_assoc] at hcut
    obtain ⟨rfl, hl⟩ := List.append_inj' hcut rfl
    refine ⟨List.singleton_inj.1 hl, ?_⟩
    cases n with
    | zero => exact .inr (by simpa using hfront)
    | succ n => exact .inl ⟨front, n, rfl, hfront⟩
  · rintro ⟨rfl, ⟨front, n, rfl, hfront⟩ | hsettled⟩
    · refine ⟨front, n + 1, ?_, hfront⟩
      rw [List.append_assoc, ← List.replicate_succ']
    · exact ⟨spoken, 0, rfl, hsettled⟩

/-! ## Texts of which nothing is left -/

theorem trimLeft_withoutEscape_eq_nil_iff (text : Text) :
    Text.trimLeft (withoutEscape text) = [] ↔ ∀ c ∈ text.dropLast, Text.isBlank c = true := by
  rw [withoutEscape, Text.trimLeft_trimRight_eq_nil_iff, Text.trimLeft_eq_nil_iff]

/-- Nothing is left of a line without the escape character exactly if that is all there was. -/
theorem trimLeft_withoutEscape_trim_eq_nil_iff {raw : Text} {escape : Char}
    (h : Text.endsWith (Text.trim raw) escape = true) :
    Text.trimLeft (withoutEscape (Text.trim raw)) = [] ↔ Text.trim raw = [escape] := by
  obtain ⟨front, hfront⟩ := List.getLast?_eq_some_iff.1 (beq_iff_eq.1 h)
  have hdrop : (Text.trim raw).dropLast = front := by rw [hfront, List.dropLast_concat]
  rw [trimLeft_withoutEscape_eq_nil_iff, hdrop]
  constructor
  · intro hblank
    cases front with
    | nil => exact hfront
    | cons c front =>
      -- the first character of a trimmed line is not blank
      have hleft : Text.trimLeft (Text.trim raw) = c :: (front ++ [escape]) := by
        rw [Text.trimLeft_trim, hfront]
        rfl
      have hc := hblank c List.mem_cons_self
      rw [Text.isBlank_of_trimLeft_eq_cons hleft] at hc
      exact nomatch hc
  · intro heq
    have hnil : front = [] := by simpa [heq] using hfront.symm
    rw [hnil]
    exact nofun

/-- Nothing is left of joined lines exactly if nothing was left of the first and the second is the
escape character. -/
theorem trimLeft_withoutEscape_joined_eq_nil_iff {raw : Text} {escape : Char}
    (h : Text.endsWith (Text.trim raw) escape = true) (text : Text) :
    Text.trimLeft (withoutEscape (joined text raw)) = [] ↔
      Text.trimLeft text = [] ∧ Text.trim raw = [escape] := by
  have hne : Text.trim raw ≠ [] := by
    intro hnil
    rw [hnil] at h
    exact nomatch h
  have hdrop : (joined text raw).dropLast = text ++ ' ' :: (Text.trim raw).dropLast := by
    rw [joined_eq, List.dropLast_append_cons, List.dropLast_cons_of_ne_nil hne]
  rw [← trimLeft_withoutEscape_trim_eq_nil_iff h, trimLeft_withoutEscape_eq_nil_iff,
    trimLeft_withoutEscape_eq_nil_iff, Text.trimLeft_eq_nil_iff, hdrop, List.forall_mem_append,
    List.forall_mem_cons]
  have hspace : Text.isBlank ' ' = true := rfl
  exact and_congr_right' (and_iff_right hspace)

/-! ## What a state knows -/

/-- What a state knows about the lines up to here that say something. -/
def Phase.Knows (escape : Char) (spoken : List Text) : Phase → Prop
  | .directives => spoken = []
  | .idle => Settled escape spoken
  | .continued _ text =>
    ¬ Settled escape spoken ∧ (Text.trimLeft text = [] ↔ EndsBare escape spoken)
  | .heredoc _ _ _ _ => False

theorem Phase.Knows.settled {escape : Char} {spoken : List Text} {phase : Phase} {raw : Text}
    (h : phase.Knows escape spoken) (hready : phase.Ready raw) : Settled escape spoken := by
  obtain rfl | ⟨rfl, -⟩ := hready
  · exact h
  · rw [show spoken = [] from h]
    exact nofun

/-- A line that is to be continued, and whether anything is left of the text up to there. -/
theorem knows_continued {escape : Char} {spoken : List Text} {phase : Phase} {line : Nat}
    {raw : Text} {place : Place} {text : Text} (hphase : phase.Knows escape spoken)
    (hgives : phase.Gives line raw place text) (h : Text.endsWith (Text.trim raw) escape = true) :
    Phase.Knows escape (spoken ++ [Text.trim raw]) (.continued place (withoutEscape text)) := by
  refine ⟨by simp [settled_concat, h], ?_⟩
  rw [endsBare_concat]
  cases hgives with
  | itself hready =>
    have hsettled := hphase.settled hready
    rw [trimLeft_withoutEscape_trim_eq_nil_iff h]
    exact ⟨fun hraw => ⟨hraw, .inr hsettled⟩, And.left⟩
  | @joined place text hcontinued =>
    rw [hcontinued] at hphase
    obtain ⟨hopen, hblank⟩ := hphase
    rw [trimLeft_withoutEscape_joined_eq_nil_iff h, hblank, or_iff_left hopen, and_comm]

/-- **What a state knows after one more line.** -/
theorem knows_step {lines : List Text} {st : State} (hplain : Plain st)
    (hst : st.phase.Knows st.escape (spokenLines lines)) {raw : Text}
    (hraw : ¬ ("<<" : Text) <:+: raw) :
    (step (lines.length + 1) raw st).1.phase.Knows (step (lines.length + 1) raw st).1.escape
      (spokenLines (lines ++ [raw])) := by
  have hnext := plain_step (lines.length + 1) hraw hplain
  have hreads := reads_step (lines.length + 1) raw st
  generalize step (lines.length + 1) raw st = r at hnext hreads
  cases hreads with
  | directive h hdirective =>
    rw [spokenLines_concat_of_isIgnored (isIgnored_of_directive? hdirective)]
    rw [h] at hst ⊢
    exact hst
  | ignored h hbody =>
    rw [spokenLines_concat_of_isIgnored hbody]
    exact hst.settled h
  | passed h hbody =>
    rw [spokenLines_concat_of_isIgnored hbody]
    exact hst
  | continued hgives hbody h =>
    rw [spokenLines_concat hbody]
    exact knows_continued hst hgives (hgives.endsWith hbody _ ▸ h)
  | completed hgives hbody h =>
    rw [spokenLines_concat hbody]
    exact (settled_concat _ _ _).2 (hgives.endsWith hbody _ ▸ h)
  | opened => exact absurd rfl (hnext.notHeredoc _ _ _ _)
  | body => exact absurd rfl (hnext.notHeredoc _ _ _ _)
  | nextBody => exact absurd rfl (hnext.notHeredoc _ _ _ _)
  | closed h => exact absurd h (hplain.notHeredoc _ _ _ _)

theorem knows_ofLines {lines : List Text} (h : ∀ l ∈ lines, ¬ ("<<" : Text) <:+: l) :
    (Reading.ofLines step {} lines).state.phase.Knows (escapeChar lines) (spokenLines lines) := by
  rw [← (directives_ofLines lines).2]
  induction lines using List.reverseRecOn with
  | nil => rfl
  | append_singleton lines l ih =>
    have hlines : ∀ m ∈ lines, ¬ ("<<" : Text) <:+: m := fun m hm => h m (by simp [hm])
    rw [Reading.state_ofLines_concat]
    exact knows_step (plain_ofLines hlines) (ih hlines) (h l (by simp))

/-! ## When reading fails -/

/-- An instruction is open of which nothing is left. -/
def Phase.Blank (phase : Phase) : Prop :=
  ∃ place text, phase = .continued place text ∧ Text.trimLeft text = []

/-- What a phase knows decides whether it is blank. -/
theorem Phase.Knows.blank_iff {escape : Char} {spoken : List Text} {phase : Phase}
    (h : phase.Knows escape spoken) : phase.Blank ↔ EndsBare escape spoken := by
  cases phase with
  | directives =>
    rw [show spoken = [] from h]
    exact ⟨nofun, fun hbare => (hbare.not_settled nofun).elim⟩
  | idle => exact ⟨nofun, fun hbare => (hbare.not_settled h).elim⟩
  | continued place text =>
    rw [← h.2]
    exact ⟨fun ⟨_, _, heq, hblank⟩ => (Phase.continued.inj heq).2 ▸ hblank,
      fun hblank => ⟨place, text, rfl, hblank⟩⟩
  | heredoc => exact h.elim

/-- Finishing fails exactly if nothing is left of the instruction that is open. -/
theorem finish_eq_error_iff (st : State) (count : Nat) :
    st.finish count = .error .noKeyword ↔ st.phase.Blank := by
  have hne {place : Place} {text : Text} {s : Statement} (hs : statement? place text = some s) :
      Text.trimLeft text ≠ [] := by
    rw [ne_eq, ← statement?_eq_none_iff place, hs]
    exact nofun
  have hfinishes := finishes_finish st count
  generalize st.finish count = r at hfinishes
  cases hfinishes with
  | nothing h => rcases h with h | h <;> simp [Phase.Blank, h]
  | noKeyword h hs => exact iff_of_true rfl ⟨_, _, h, (statement?_eq_none_iff _ _).1 hs⟩
  | completed h hs => simp [Phase.Blank, h, hne hs]
  | bodiless h hs => simp [Phase.Blank, h, hne hs]
  | openBody h => simp [Phase.Blank, h]

/-- A reading fails exactly if finishing does. -/
theorem ofLines_eq_error_iff_finish (lines : List Text) :
    ofLines lines = .error .noKeyword ↔
      (Reading.ofLines step {} lines).state.finish lines.length = .error .noKeyword := by
  unfold ofLines items
  dsimp only
  rw [Reading.count_ofLines]
  cases (Reading.ofLines step {} lines).state.finish lines.length with
  | error e =>
    cases e
    exact iff_of_true rfl rfl
  | ok finished => exact ⟨nofun, nofun⟩

/-- **When a Dockerfile cannot be read.** If no line has two characters `<` in a row, reading fails
exactly if the lines that say something end in an instruction of which each line is the escape
character and nothing else. In every other case there is a result. -/
theorem ofLines_eq_error_iff {lines : List Text} (h : ∀ l ∈ lines, ¬ ("<<" : Text) <:+: l) :
    (ofLines lines = .error .noKeyword ↔ EndsBare (escapeChar lines) (spokenLines lines)) ∧
      (¬ EndsBare (escapeChar lines) (spokenLines lines) → ∃ d, ofLines lines = .ok d) := by
  have hiff : ofLines lines = .error .noKeyword ↔
      EndsBare (escapeChar lines) (spokenLines lines) := by
    rw [ofLines_eq_error_iff_finish, finish_eq_error_iff]
    exact (knows_ofLines h).blank_iff
  refine ⟨hiff, fun hbare => ?_⟩
  cases hread : ofLines lines with
  | ok d => exact ⟨d, rfl⟩
  | error e =>
    cases e
    exact absurd (hiff.1 hread) hbare

/-- The escape character is chosen in the first line. The last instruction begins in the third line,
goes on after a comment, and is continued at the end of the file. -/
theorem ofLines_eq_error_iff_after_comment :
    let lines : List Text := ["# escape=`", "FROM a\\", "`", "# b", " ` "]
    (∀ l ∈ lines, ¬ ("<<" : Text) <:+: l) ∧
      EndsBare (escapeChar lines) (spokenLines lines) ∧ ofLines lines = .error .noKeyword := by
  intro lines
  have hplain : ∀ l ∈ lines, ¬ ("<<" : Text) <:+: l := by decide +kernel
  have hfront : Settled (escapeChar lines) ["FROM a\\"] :=
    (settled_concat _ [] _).2 (by decide +kernel)
  have hbare : EndsBare (escapeChar lines) (spokenLines lines) :=
    ⟨["FROM a\\"], 1, by decide +kernel, hfront⟩
  exact ⟨hplain, hbare, (ofLines_eq_error_iff hplain).1.2 hbare⟩

end OpsLint.Dockerfile

import OpsLint.Proofs.Characters
import OpsLint.Proofs.CrontabDetection

/-!
# Lines of crontabs

Reading a crontab loses nothing (`transcribes_ofLines`). Every line that is neither blank nor a
comment nor an assignment is one entry or one problem, and no other line is anything. The words of
an entry, in order, are the words of its line: the five fields or the nickname, the account if there
is one, and the words of the command.

A line is taken apart three times in different ways. All its words are counted, then the command is
cut off by skipping words, and then the account is cut off the command, with trimming in between.
The three views agree because each cut takes one word away from the words and trimming takes none
(`words_splitUser`, `words_afterWords`, `Text.words_trim`).
-/

namespace OpsLint.Crontab

/-! ## What says nothing -/

/-- **A line that says nothing**: it is blank, a comment, or the assignment of a variable. -/
def IsSilent (raw : Text) : Prop :=
  Text.trim raw = [] ∨ (Text.trim raw).head? = some '#' ∨
    ∃ name gap rest, Text.trim raw = name ++ gap ++ '=' :: rest ∧
      Text.isIdentifier name = true ∧ ∀ c ∈ gap, Text.isBlank c = true

theorem isIgnored_iff (raw : Text) : isIgnored (Text.trim raw) = true ↔ IsSilent raw := by
  rw [isIgnored, Bool.or_eq_true, Bool.or_eq_true, List.isEmpty_iff, decide_eq_true_eq,
    Text.beginsAssignment_iff, or_assoc]
  rfl

/-! ## The words of an entry -/

/-- Taking an account off a command takes its first word. -/
theorem words_splitUser (s : Text) :
    Text.words s = (splitUser s).1.toList ++ Text.words (splitUser s).2 := by
  unfold splitUser
  dsimp only
  split
  · rename_i h
    have hne : Text.trimLeft s ≠ [] := by
      intro hnil
      rw [Text.firstWord, hnil] at h
      exact Bool.false_ne_true h
    rw [Text.words_eq_cons hne, Text.words_trim]
    rfl
  · rfl

/-- The words of a line that begins with a nickname. -/
structure Nicknamed (words : List Text) (name : Text) (schedule : Schedule) (rest : List Text) :
    Prop where
  words : ∃ word, words = word :: rest ∧ Text.lower word = name
  schedule : nicknames.lookup name = some schedule

/-- The words of a line that begins with a schedule in five fields. -/
structure WrittenOut (words : List Text) (schedule : Schedule) (rest : List Text) : Prop where
  words : words = schedule.fields ++ rest
  fields : ∀ f ∈ schedule.fields, isScheduleField f = true
  rest : ∀ w ∈ rest.head?, isScheduleField w = false

theorem nicknamed_or_writtenOut {body : Text} {schedule : Schedule} {nickname : Option Text}
    {rest : Text} (h : readSchedule body = .ok (schedule, nickname, rest)) :
    (∃ name, nickname = some name ∧
      Nicknamed (Text.words body) name schedule (Text.words rest)) ∨
    nickname = none ∧ WrittenOut (Text.words body) schedule (Text.words rest) := by
  unfold readSchedule at h
  split at h
  · rename_i hhead
    dsimp only at h
    split at h
    · exact nomatch h
    · rename_i found hlookup
      obtain ⟨rfl, rfl, rfl⟩ := by simpa using Except.ok.inj h
      obtain ⟨s, rfl⟩ := List.head?_eq_some_iff.1 hhead
      have hne : Text.trimLeft ('@' :: s) ≠ [] := by
        rw [Text.trimLeft_cons_of_not_blank rfl]
        exact List.cons_ne_nil _ _
      exact .inl ⟨_, rfl, ⟨_, Text.words_eq_cons hne, rfl⟩, hlookup⟩
  · split at h
    · rename_i minute hour dayOfMonth month dayOfWeek hfields
      obtain ⟨rfl, rfl, rfl⟩ := by simpa using Except.ok.inj h
      -- the words are the run of fields and what stops it
      have hwords : Text.words body = [minute, hour, dayOfMonth, month, dayOfWeek]
          ++ (Text.words body).dropWhile isScheduleField := by
        rw [← hfields, List.takeWhile_append_dropWhile]
      have hrest : Text.words (afterWords 5 body) = (Text.words body).dropWhile isScheduleField :=
        (words_afterWords 5 body).trans (congrArg (List.drop 5) hwords)
      refine .inr ⟨rfl, hrest ▸ hwords, fun f hf => ?_, fun w hw => ?_⟩
      · have hmem : f ∈ (Text.words body).takeWhile isScheduleField := by
          rw [hfields]
          exact hf
        exact List.mem_takeWhile_imp hmem
      · rw [hrest] at hw
        have hstop := List.head?_dropWhile_not isScheduleField (Text.words body)
        rw [Option.mem_def.1 hw] at hstop
        exact hstop
    · exact nomatch h

theorem exists_of_readEntry {line : Nat} {body : Text} {e : Entry}
    (h : readEntry line body = .ok e) :
    ∃ rest, readSchedule body = .ok (e.schedule, e.nickname, rest) ∧
      splitUser (Text.trim rest) = (e.user, e.command) ∧ e.command ≠ [] := by
  rw [readEntry_eq] at h
  cases hschedule : readSchedule body with
  | error problem =>
    rw [hschedule] at h
    exact nomatch h
  | ok found =>
    rw [hschedule, Except.bind] at h
    split at h
    · exact nomatch h
    · rename_i hcommand
      obtain rfl := Except.ok.inj h
      exact ⟨found.2.2, rfl, rfl, fun hnil => hcommand (List.isEmpty_iff.2 hnil)⟩

/-- **An entry restores the words of its line.** -/
structure Entry.Restores (e : Entry) (raw : Text) : Prop where
  command : e.command ≠ []
  nicknamed : ∀ name, e.nickname = some name →
    Nicknamed (Text.words raw) name e.schedule (e.user.toList ++ Text.words e.command)
  reboot : e.nickname = some ("@reboot" : Text) → ∀ f ∈ e.schedule.fields, f = []
  writtenOut : e.nickname = none →
    WrittenOut (Text.words raw) e.schedule (e.user.toList ++ Text.words e.command)
  /-- There is a sixth word, and it does not look like a field. -/
  sixth : e.nickname = none →
    ∃ w, (Text.words raw)[5]? = some w ∧ isScheduleField w = false

theorem restores_of_readEntry {line : Nat} {raw : Text} {e : Entry}
    (h : readEntry line (Text.trim raw) = .ok e) : e.Restores raw := by
  obtain ⟨rest, hschedule, hsplit, hcommand⟩ := exists_of_readEntry h
  have hrest : Text.words rest = e.user.toList ++ Text.words e.command := by
    rw [← Text.words_trim rest, words_splitUser, hsplit]
  obtain ⟨name, hname, hwords⟩ | ⟨hnone, hwords⟩ := nicknamed_or_writtenOut hschedule
  · rw [Text.words_trim, hrest] at hwords
    refine ⟨hcommand, fun name' hname' => ?_, fun hreboot => ?_, fun hnone => ?_, fun hnone => ?_⟩
    · obtain rfl := Option.some.inj (hname'.symm.trans hname)
      exact hwords
    · have hlookup := hwords.schedule
      rw [← Option.some.inj (hreboot.symm.trans hname)] at hlookup
      rw [← Option.some.inj hlookup]
      decide
    · exact nomatch hname.symm.trans hnone
    · exact nomatch hname.symm.trans hnone
  · have hne : Text.words rest ≠ [] := by
      rw [Ne, ← isEmpty_command_iff, hsplit, List.isEmpty_iff]
      exact hcommand
    obtain ⟨w, ws, hw⟩ := List.exists_cons_of_ne_nil hne
    rw [Text.words_trim] at hwords
    refine ⟨hcommand, fun name hname => ?_, fun hreboot => ?_, fun _ => hrest ▸ hwords,
      fun _ => ⟨w, ?_, hwords.rest w (by rw [hw]; rfl)⟩⟩
    · exact nomatch hnone.symm.trans hname
    · exact nomatch hnone.symm.trans hreboot
    · rw [hwords.words, hw]
      rfl

/-! ## Nothing is lost -/

theorem mem_entries_iff_readEntry {lines : List Text} {e : Entry} :
    e ∈ (ofLines lines).entries ↔ ∃ n raw, lines[n]? = some raw ∧
      isIgnored (Text.trim raw) = false ∧ readEntry (n + 1) (Text.trim raw) = .ok e := by
  rw [mem_entries_iff]
  constructor
  · intro h
    rw [items_eq] at h
    obtain ⟨n, raw, hraw, -, hread⟩ :=
      exists_of_mem_read readLine (fun _ _ _ => lineNumbers_of_readLine) h
    rw [Nat.add_comm] at hread
    have hignored : isIgnored (Text.trim raw) = false := by
      refine eq_false_of_ne_true (fun hignored => ?_)
      rw [readLine, if_pos hignored] at hread
      exact nomatch hread
    exact ⟨n, raw, hraw, hignored, (readLine_eq_entry_iff hignored).1 hread⟩
  · rintro ⟨n, raw, hraw, hignored, hread⟩
    rw [items_eq, List.mem_filterMap]
    refine ⟨(raw, n + 1), ?_, (readLine_eq_entry_iff hignored).2 hread⟩
    rw [List.mk_mem_zipIdx_iff_le_and_getElem?_sub]
    exact ⟨Nat.le_add_left 1 n, hraw⟩

/-- **A crontab says what its lines say.** -/
structure Transcribes (lines : List Text) (c : Crontab) : Prop where
  /-- A line is one entry or one problem, unless it says nothing. -/
  once : ∀ n raw, lines[n]? = some raw → ¬ IsSilent raw →
    c.entries.countP (·.line = n + 1) + c.faults.countP (·.1 = n + 1) = 1
  silent : ∀ n raw, lines[n]? = some raw → IsSilent raw →
    c.entries.countP (·.line = n + 1) + c.faults.countP (·.1 = n + 1) = 0
  within : ∀ n ∈ c.lineNumbers, IsLineNumber lines.length n
  entries : c.entries.Pairwise fun a b => a.line < b.line
  faults : c.faults.Pairwise fun f g => f.1 < g.1
  restores : ∀ e ∈ c.entries, ∃ raw, lines[e.line - 1]? = some raw ∧ e.Restores raw

theorem length_readLine (line : Nat) (raw : Text) :
    (readLine line raw).toList.length = if isIgnored (Text.trim raw) then 0 else 1 := by
  unfold readLine
  dsimp only
  split <;> rfl

/-- An item is an entry or a problem. -/
theorem countP_items (items : List Item) (n : Nat) :
    (items.filterMap Item.entry?).countP (·.line = n)
        + (items.filterMap Item.fault?).countP (·.1 = n)
      = items.countP (·.lineNumbers = [n]) := by
  induction items with
  | nil => rfl
  | cons item items ih =>
    cases item with
    | entry e =>
      show (e :: items.filterMap Item.entry?).countP (·.line = n)
        + (items.filterMap Item.fault?).countP (·.1 = n) = _
      rw [List.countP_cons, List.countP_cons, ← ih]
      simp only [Item.lineNumbers, List.singleton_inj]
      omega
    | fault line problem =>
      show (items.filterMap Item.entry?).countP (·.line = n)
        + ((line, problem) :: items.filterMap Item.fault?).countP (·.1 = n) = _
      rw [List.countP_cons, List.countP_cons, ← ih]
      simp only [Item.lineNumbers, List.singleton_inj]
      omega

theorem countP_ofLines {lines : List Text} {n : Nat} {raw : Text} (h : lines[n]? = some raw) :
    (ofLines lines).entries.countP (·.line = n + 1) + (ofLines lines).faults.countP (·.1 = n + 1)
      = if isIgnored (Text.trim raw) then 0 else 1 := by
  have hcount := countP_of_read readLine (fun _ _ _ => lineNumbers_of_readLine) 1 h
  rw [← items_eq, length_readLine, Nat.add_comm 1] at hcount
  exact (countP_items _ _).trans hcount

theorem pairwise_items (lines : List Text) : (items lines).Pairwise (Before Item.lineNumbers) := by
  rw [items_eq]
  exact pairwise_of_read readLine (fun _ _ _ => lineNumbers_of_readLine) 1 lines

/-- **Reading a crontab loses nothing.** -/
theorem transcribes_ofLines (lines : List Text) : Transcribes lines (ofLines lines) where
  once := by
    intro n raw h hsilent
    rw [countP_ofLines h, if_neg (mt (isIgnored_iff raw).1 hsilent)]
  silent := by
    intro n raw h hsilent
    rw [countP_ofLines h, if_pos ((isIgnored_iff raw).2 hsilent)]
  within := fun _ hn => isLineNumber_of_mem hn
  entries := by
    refine (pairwise_items lines).filterMap _ (fun _ _ hbefore _ ha _ hb => ?_)
    have hfirst := line_mem_of_entry? ha
    have hsecond := line_mem_of_entry? hb
    exact hbefore _ hfirst _ hsecond
  faults := by
    refine (pairwise_items lines).filterMap _ (fun _ _ hbefore _ hf _ hg => ?_)
    exact hbefore _ (line_mem_of_fault? hf) _ (line_mem_of_fault? hg)
  restores := by
    intro e he
    obtain ⟨n, raw, hraw, -, hread⟩ := mem_entries_iff_readEntry.1 he
    refine ⟨raw, ?_, restores_of_readEntry hread⟩
    rw [line_of_readEntry hread, Nat.add_sub_cancel]
    exact hraw

end OpsLint.Crontab

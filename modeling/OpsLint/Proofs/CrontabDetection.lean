import OpsLint.Detect
import OpsLint.Proofs.LineNumbers
import OpsLint.Proofs.Words

/-!
# Detecting crontabs

Whether a text looks like a crontab is decided by the words of its first meaningful line: a nickname
and one more word, or five fields and one more word (`beginsEntry`). Reading the line asks other
questions. It counts **all** tokens at its start that look like fields, cuts the command off by
words, takes an account off the command, and wants something to remain.

Still the two agree on every text but for one difference. A line with six or more tokens that look
like fields begins like an entry, and is none: reading reports the number of its fields
(`beginsEntry_iff`). So a text looks like a crontab if and only if its first meaningful line is read
as an entry or reported for too many fields.
-/

namespace OpsLint

theorem Text.ofNat_inj {m n : Nat} (h : Text.ofNat m = Text.ofNat n) : m = n := by
  rw [← Nat.ofDigitChars_ten_toDigits (n := m), ← Nat.ofDigitChars_ten_toDigits (n := n)]
  exact congrArg (Nat.ofDigitChars 10 · 0) h

namespace Crontab

/-! ## Commands -/

/-- Skipping words drops them from the words. -/
theorem words_afterWords (n : Nat) (s : Text) :
    Text.words (afterWords n s) = (Text.words s).drop n := by
  induction n generalizing s with
  | zero => rfl
  | succ n ih => rw [afterWords, ih, Text.words_firstWord_snd, List.drop_tail]

/-- Taking an account off a command leaves something of it. -/
theorem splitUser_eq_nil_iff (s : Text) : (splitUser s).2 = [] ↔ s = [] := by
  unfold splitUser
  dsimp only
  split
  · rename_i h
    have hrest : (Text.firstWord s).2 ≠ [] := by
      intro hnil
      rw [hnil] at h
      exact nomatch h
    have hs : s ≠ [] := by
      rintro rfl
      exact hrest rfl
    -- what follows the first word begins with a character that is not blank
    rw [Text.trim_eq_nil_iff, Text.trimLeft_firstWord_snd]
    exact ⟨fun hnil => absurd hnil hrest, fun hnil => absurd hnil hs⟩
  · rfl

/-- There is a command if and only if there are words after the schedule. -/
theorem isEmpty_command_iff (rest : Text) :
    (splitUser (Text.trim rest)).2.isEmpty = true ↔ Text.words rest = [] := by
  rw [List.isEmpty_iff, splitUser_eq_nil_iff, Text.trim_eq_nil_iff, Text.words_eq_nil_iff]

theorem readEntry_of_error {line : Nat} {body : Text} {problem : Problem}
    (h : readSchedule body = .error problem) : readEntry line body = .error problem := by
  rw [readEntry_eq, h]
  rfl

theorem readEntry_of_no_words {line : Nat} {body : Text} {found : Schedule × Option Text × Text}
    (h : readSchedule body = .ok found) (hwords : Text.words found.2.2 = []) :
    readEntry line body = .error .noCommand := by
  rw [readEntry_eq, h]
  exact if_pos ((isEmpty_command_iff _).2 hwords)

theorem exists_readEntry_of_words {line : Nat} {body : Text}
    {found : Schedule × Option Text × Text} (h : readSchedule body = .ok found)
    (hwords : Text.words found.2.2 ≠ []) : ∃ e, readEntry line body = .ok e := by
  rw [readEntry_eq, h]
  exact ⟨_, if_neg (mt (isEmpty_command_iff _).1 hwords)⟩

/-! ## Schedules -/

/-- The run of elements at the start of a list that pass a test has a given length at least, if and
only if the list is as long and so many elements pass. -/
theorem le_length_takeWhile_iff {α : Type} (p : α → Bool) (n : Nat) (l : List α) :
    n ≤ (l.takeWhile p).length ↔ n ≤ l.length ∧ (l.take n).all p = true := by
  induction l generalizing n with
  | nil => simp
  | cons x l ih =>
    cases n with
    | zero => simp
    | succ n =>
      by_cases hx : p x = true
      · rw [List.takeWhile_cons_of_pos hx, List.length_cons, List.length_cons, List.take_succ_cons,
          List.all_cons, hx, Bool.true_and, Nat.add_le_add_iff_right, Nat.add_le_add_iff_right, ih]
      · rw [List.takeWhile_cons_of_neg hx, List.take_succ_cons, List.all_cons,
          eq_false_of_ne_true hx]
        simp

theorem readSchedule_of_nickname {body : Text} (hhead : body.head? = some '@') {schedule : Schedule}
    (h : nicknames.lookup (Text.lower (Text.firstWord body).1) = some schedule) :
    readSchedule body
      = .ok (schedule, some (Text.lower (Text.firstWord body).1), (Text.firstWord body).2) := by
  unfold readSchedule
  rw [if_pos hhead]
  dsimp only
  rw [h]

theorem readSchedule_of_unknown {body : Text} (hhead : body.head? = some '@')
    (h : nicknames.lookup (Text.lower (Text.firstWord body).1) = none) :
    readSchedule body = .error (.unknownNickname (Text.lower (Text.firstWord body).1)) := by
  unfold readSchedule
  rw [if_pos hhead]
  dsimp only
  rw [h]

/-- Five fields are a schedule, and what follows them is the command. -/
theorem readSchedule_of_five {body : Text} (hhead : body.head? ≠ some '@')
    (hlength : ((Text.words body).takeWhile isScheduleField).length = 5) :
    ∃ schedule, readSchedule body = .ok (schedule, none, afterWords 5 body) := by
  obtain ⟨minute, fields, hfields⟩ := List.exists_cons_of_length_eq_add_one hlength
  have hfour : fields.length = 4 := by
    rw [hfields, List.length_cons] at hlength
    exact Nat.succ.inj hlength
  obtain ⟨hour, dayOfMonth, month, dayOfWeek, rfl⟩ := List.length_eq_four.1 hfour
  unfold readSchedule
  rw [if_neg hhead, hfields]
  exact ⟨_, rfl⟩

/-- Any other number of fields is reported. -/
theorem readSchedule_of_not_five {body : Text} (hhead : body.head? ≠ some '@')
    (hlength : ((Text.words body).takeWhile isScheduleField).length ≠ 5) :
    readSchedule body
      = .error (.fieldCount ((Text.words body).takeWhile isScheduleField).length) := by
  unfold readSchedule
  rw [if_neg hhead]
  split
  · rename_i hfields
    rw [hfields] at hlength
    exact absurd rfl hlength
  · rfl

/-! ## Entries -/

/-- A line is read as an entry, or reported for more fields than an entry has. -/
def IsEntryLike (r : Except Problem Entry) : Prop :=
  (∃ e, r = .ok e) ∨ ∃ k, 6 ≤ k ∧ r = .error (.fieldCount k)

theorem isEntryLike_error_iff (p : Problem) :
    IsEntryLike (.error p) ↔ ∃ k, 6 ≤ k ∧ p = .fieldCount k := by
  constructor
  · rintro (⟨e, h⟩ | ⟨k, hk, h⟩)
    · exact nomatch h
    · exact ⟨k, hk, Except.error.inj h⟩
  · rintro ⟨k, hk, rfl⟩
    exact .inr ⟨k, hk, rfl⟩

/-- With a schedule at the start of a line, everything depends on the words after it. -/
theorem isEntryLike_iff_words {line : Nat} {body : Text} {found : Schedule × Option Text × Text}
    (h : readSchedule body = .ok found) :
    IsEntryLike (readEntry line body) ↔ Text.words found.2.2 ≠ [] := by
  by_cases hwords : Text.words found.2.2 = []
  · rw [readEntry_of_no_words h hwords, isEntryLike_error_iff]
    refine iff_of_false ?_ (fun hne => hne hwords)
    rintro ⟨k, -, hk⟩
    exact nomatch hk
  · exact iff_of_true (.inl (exists_readEntry_of_words h hwords)) hwords

theorem beginsEntry_iff_of_nickname {body : Text} (htrim : Text.trimLeft body = body)
    (hhead : body.head? = some '@') (line : Nat) :
    beginsEntry (Text.words body) = true ↔ IsEntryLike (readEntry line body) := by
  have hne : Text.trimLeft body ≠ [] := by
    rw [htrim]
    rintro rfl
    exact nomatch hhead
  have hbegins : beginsEntry (Text.words body)
      = ((nicknames.lookup (Text.lower (Text.firstWord body).1)).isSome &&
          decide (1 < (Text.words (Text.firstWord body).2).length + 1)) := by
    rw [Text.words_eq_cons hne]
    exact if_pos ((Text.head?_firstWord htrim).trans hhead)
  cases hlookup : nicknames.lookup (Text.lower (Text.firstWord body).1) with
  | none =>
    rw [hbegins, hlookup, readEntry_of_error (readSchedule_of_unknown hhead hlookup),
      isEntryLike_error_iff]
    refine iff_of_false Bool.false_ne_true ?_
    rintro ⟨k, -, hk⟩
    exact nomatch hk
  | some schedule =>
    rw [hbegins, hlookup, isEntryLike_iff_words (readSchedule_of_nickname hhead hlookup),
      Option.isSome_some, Bool.true_and, decide_eq_true_iff, Nat.lt_add_left_iff_pos,
      List.length_pos_iff]

theorem beginsEntry_iff_of_fields {body : Text} (hne : body ≠ [])
    (htrim : Text.trimLeft body = body) (hhead : body.head? ≠ some '@') (line : Nat) :
    beginsEntry (Text.words body) = true ↔ IsEntryLike (readEntry line body) := by
  have hbegins : beginsEntry (Text.words body)
      = (decide (5 < (Text.words body).length) &&
          ((Text.words body).take 5).all isScheduleField) := by
    rw [Text.words_eq_cons (htrim.symm ▸ hne)]
    exact if_neg (mt (Text.head?_firstWord htrim).symm.trans hhead)
  -- in terms of the run of fields: it has five elements at least, and there is a sixth word
  rw [hbegins, Bool.and_eq_true, decide_eq_true_iff]
  have hfive := le_length_takeWhile_iff isScheduleField 5 (Text.words body)
  have hsix := le_length_takeWhile_iff isScheduleField 6 (Text.words body)
  by_cases hlength : ((Text.words body).takeWhile isScheduleField).length = 5
  · obtain ⟨schedule, hschedule⟩ := readSchedule_of_five hhead hlength
    rw [isEntryLike_iff_words hschedule, words_afterWords, Ne, List.drop_eq_nil_iff, Nat.not_le]
    exact ⟨And.left, fun hlt => ⟨hlt, (hfive.1 hlength.ge).2⟩⟩
  · rw [readEntry_of_error (readSchedule_of_not_five hhead hlength), isEntryLike_error_iff]
    constructor
    · rintro ⟨hlt, hall⟩
      have hle := hfive.2 ⟨Nat.le_of_lt hlt, hall⟩
      exact ⟨_, Nat.lt_of_le_of_ne hle (Ne.symm hlength), rfl⟩
    · rintro ⟨k, hk, hcount⟩
      rw [← Problem.fieldCount.inj hcount] at hk
      exact ⟨(hsix.1 hk).1, (hfive.1 (Nat.le_of_lt hk)).2⟩

/-- **A line begins like an entry** if and only if it is read as one or reported for more fields
than an entry has. -/
theorem beginsEntry_iff {raw : Text} (h : isIgnored (Text.trim raw) = false) (line : Nat) :
    beginsEntry (Text.words (Text.trim raw)) = true ↔
      IsEntryLike (readEntry line (Text.trim raw)) := by
  have hne : Text.trim raw ≠ [] := by
    intro hnil
    rw [hnil] at h
    exact nomatch h
  by_cases hhead : (Text.trim raw).head? = some '@'
  · exact beginsEntry_iff_of_nickname (Text.trimLeft_trim raw) hhead line
  · exact beginsEntry_iff_of_fields hne (Text.trimLeft_trim raw) hhead line

/-! ## Lines of a crontab -/

/-- What a crontab has on a line is what this line is. -/
theorem mem_items_iff {before after : List Text} {raw : Text} {item : Item}
    (h : item.lineNumbers = [before.length + 1]) :
    item ∈ items (before ++ raw :: after) ↔ readLine (before.length + 1) raw = some item := by
  have hraw : (before ++ raw :: after)[before.length + 1 - 1]? = some raw := by simp
  rw [items_eq, List.mem_filterMap]
  constructor
  · rintro ⟨⟨l, n⟩, ht, hread⟩
    have hn : n = before.length + 1 :=
      (List.cons.inj ((lineNumbers_of_readLine hread).symm.trans h)).1
    rw [hn, List.mk_mem_zipIdx_iff_le_and_getElem?_sub, hraw] at ht
    rw [Option.some.inj ht.2, ← hn]
    exact hread
  · intro hread
    exact ⟨(raw, before.length + 1), List.mk_mem_zipIdx_iff_le_and_getElem?_sub.2
      ⟨Nat.le_add_left 1 _, hraw⟩, hread⟩

theorem mem_entries_iff {lines : List Text} {e : Entry} :
    e ∈ (ofLines lines).entries ↔ .entry e ∈ items lines := by
  show e ∈ (items lines).filterMap Item.entry? ↔ _
  rw [List.mem_filterMap]
  constructor
  · rintro ⟨item, hitem, h⟩
    cases item with
    | entry e' => exact Option.some.inj h ▸ hitem
    | fault line problem => exact nomatch h
  · exact fun h => ⟨_, h, rfl⟩

theorem mem_faults_iff {lines : List Text} {line : Nat} {problem : Problem} :
    (line, problem) ∈ (ofLines lines).faults ↔ .fault line problem ∈ items lines := by
  show _ ∈ (items lines).filterMap Item.fault? ↔ _
  rw [List.mem_filterMap]
  constructor
  · rintro ⟨item, hitem, h⟩
    cases item with
    | entry e => exact nomatch h
    | fault line' problem' =>
      obtain ⟨rfl, rfl⟩ := Prod.mk.inj (Option.some.inj h)
      exact hitem
  · exact fun h => ⟨_, h, rfl⟩

/-- The wording tells the number of fields. -/
theorem message_eq_iff (p : Problem) (k : Nat) :
    p.message = "Expected 5 schedule fields, found " ++ Text.ofNat k ↔ p = .fieldCount k := by
  constructor
  · intro h
    cases p with
    | unknownNickname name =>
      have hhead := congrArg List.head? h
      exact nomatch hhead
    | fieldCount count =>
      exact congrArg _ (Text.ofNat_inj (List.append_cancel_left h))
    | noCommand =>
      have hhead := congrArg List.head? h
      exact nomatch hhead
  · rintro rfl
    rfl

section

variable {before after : List Text} {raw : Text} (hraw : isIgnored (Text.trim raw) = false)

include hraw

theorem readLine_eq_entry_iff {line : Nat} {e : Entry} :
    readLine line raw = some (.entry e) ↔ readEntry line (Text.trim raw) = .ok e := by
  unfold readLine
  dsimp only
  rw [if_neg (ne_true_of_eq_false hraw)]
  cases readEntry line (Text.trim raw) with
  | ok e' => simp
  | error problem => simp

theorem readLine_eq_fault_iff {line : Nat} {problem : Problem} :
    readLine line raw = some (.fault line problem) ↔
      readEntry line (Text.trim raw) = .error problem := by
  unfold readLine
  dsimp only
  rw [if_neg (ne_true_of_eq_false hraw)]
  cases readEntry line (Text.trim raw) with
  | ok e => simp
  | error problem' => simp

/-- There is an entry on a meaningful line if and only if it is read as one. -/
theorem exists_entry_iff :
    (∃ e ∈ (ofLines (before ++ raw :: after)).entries, e.line = before.length + 1) ↔
      ∃ e, readEntry (before.length + 1) (Text.trim raw) = .ok e := by
  constructor
  · rintro ⟨e, he, hline⟩
    have hnumber : (Item.entry e).lineNumbers = [before.length + 1] := hline ▸ rfl
    have hread := (mem_items_iff hnumber).1 (mem_entries_iff.1 he)
    exact ⟨e, (readLine_eq_entry_iff hraw).1 hread⟩
  · rintro ⟨e, he⟩
    have hline := line_of_readEntry he
    have hnumber : (Item.entry e).lineNumbers = [before.length + 1] := hline ▸ rfl
    have hitem : .entry e ∈ items (before ++ raw :: after) :=
      (mem_items_iff hnumber).2 ((readLine_eq_entry_iff hraw).2 he)
    exact ⟨e, mem_entries_iff.2 hitem, hline⟩

/-- The number of fields of a meaningful line is reported on it if and only if this is the problem
with the line. -/
theorem exists_finding_iff :
    (∃ f ∈ (ofLines (before ++ raw :: after)).findings, f.line = (before.length + 1 : Nat) ∧
      ∃ k, 6 ≤ k ∧ f.message = "Expected 5 schedule fields, found " ++ Text.ofNat k) ↔
      ∃ k, 6 ≤ k ∧ readEntry (before.length + 1) (Text.trim raw) = .error (.fieldCount k) := by
  have hfault : ∀ p, (before.length + 1, p) ∈ (ofLines (before ++ raw :: after)).faults ↔
      readEntry (before.length + 1) (Text.trim raw) = .error p :=
    fun p => mem_faults_iff.trans ((mem_items_iff rfl).trans (readLine_eq_fault_iff hraw))
  constructor
  · rintro ⟨f, hf, hline, k, hk, hmessage⟩
    obtain ⟨⟨line, p⟩, hp, rfl⟩ := List.mem_map.1 hf
    obtain rfl := Int.ofNat.inj hline
    rw [(message_eq_iff p k).1 hmessage] at hp
    exact ⟨k, hk, (hfault _).1 hp⟩
  · rintro ⟨k, hk, h⟩
    exact ⟨_, List.mem_map_of_mem ((hfault _).2 h), rfl, k, hk, rfl⟩

end

/-! ## Texts -/

/-- The first meaningful line decides. -/
theorem looksLikeCrontab_eq {text raw : Text} {before after : List Text}
    (hlines : Text.lines text = before ++ raw :: after)
    (hbefore : ∀ l ∈ before, isIgnored (Text.trim l) = true)
    (hraw : isIgnored (Text.trim raw) = false) :
    looksLikeCrontab text = beginsEntry (Text.words (Text.trim raw)) := by
  have hfind : (before ++ raw :: after).find? ((!isIgnored ·) ∘ Text.trim) = some raw := by
    refine List.find?_eq_some_iff_append.2 ⟨?_, before, after, rfl, fun l hl => ?_⟩
    · simp [hraw]
    · simp [hbefore l hl]
  unfold looksLikeCrontab
  rw [hlines, List.find?_map, hfind]
  rfl

theorem exists_meaningful_of_looksLikeCrontab {text : Text} (h : looksLikeCrontab text = true) :
    ∃ before raw after, Text.lines text = before ++ raw :: after ∧
      (∀ l ∈ before, isIgnored (Text.trim l) = true) ∧ isIgnored (Text.trim raw) = false := by
  unfold looksLikeCrontab at h
  rw [List.find?_map] at h
  cases hfind : (Text.lines text).find? ((!isIgnored ·) ∘ Text.trim) with
  | none =>
    rw [hfind] at h
    exact nomatch h
  | some raw =>
    obtain ⟨hraw, before, after, hlines, hbefore⟩ := List.find?_eq_some_iff_append.1 hfind
    refine ⟨before, raw, after, hlines, fun l hl => ?_, by simpa using hraw⟩
    simpa using hbefore l hl

/-- **Detection and reading agree.** A text looks like a crontab if and only if it has a meaningful
line and the first of them is read as an entry or reported for having six fields or more. -/
theorem looksLikeCrontab_iff (text : Text) :
    looksLikeCrontab text = true ↔
      ∃ before raw after, Text.lines text = before ++ raw :: after ∧
        (∀ l ∈ before, isIgnored (Text.trim l) = true) ∧ isIgnored (Text.trim raw) = false ∧
        ((∃ e ∈ (ofLines (Text.lines text)).entries, e.line = before.length + 1) ∨
          ∃ f ∈ (ofLines (Text.lines text)).findings, f.line = (before.length + 1 : Nat) ∧
            ∃ k, 6 ≤ k ∧ f.message = "Expected 5 schedule fields, found " ++ Text.ofNat k) := by
  constructor
  · intro h
    obtain ⟨before, raw, after, hlines, hbefore, hraw⟩ := exists_meaningful_of_looksLikeCrontab h
    rw [looksLikeCrontab_eq hlines hbefore hraw, beginsEntry_iff hraw (before.length + 1)] at h
    refine ⟨before, raw, after, hlines, hbefore, hraw, ?_⟩
    rw [hlines]
    exact h.imp (exists_entry_iff hraw).2 (exists_finding_iff hraw).2
  · rintro ⟨before, raw, after, hlines, hbefore, hraw, h⟩
    rw [looksLikeCrontab_eq hlines hbefore hraw, beginsEntry_iff hraw (before.length + 1)]
    rw [hlines] at h
    exact h.imp (exists_entry_iff hraw).1 (exists_finding_iff hraw).1

-- an account alone is a command, and a sixth field makes a line no entry
example : looksLikeCrontab "MAILTO=ops\n@Daily root\n" = true := by decide +kernel
example : (ofLines ["MAILTO=ops", "@Daily root"]).entries.map Entry.command = ["root"] := by
  decide +kernel
example : looksLikeCrontab "0 4 * * 1 2 backup\n" = true := by decide +kernel
example : (ofLines ["0 4 * * 1 2 backup"]).faults = [(1, .fieldCount 6)] := by decide +kernel

end Crontab

end OpsLint

import OpsLint.Proofs.EnvValues
import OpsLint.Proofs.LineNumbers

/-!
# Lines of environment files

Reading an environment file loses nothing (`lossless_ofLines`). Every line that says something is
one assignment or one problem, and no other line is anything. The parts of an assignment, with the
text in front of its key, are the line as written.

What an assignment is read from is said in both directions (`readAssignment_eq_ok_iff`), so that
later proofs about lines with given parts need not look at the reader again.
-/

namespace OpsLint.Env

/-! ## What stands in front of a key -/

theorem afterExport?_eq_some_iff (s rest : Text) :
    afterExport? s = some rest ↔
      ∃ c t, s = ("export" : Text) ++ c :: t ∧ Text.isBlank c = true ∧ rest = Text.trimLeft t := by
  unfold afterExport?
  constructor
  · intro h
    split at h
    · rename_i c t hdrop
      split at h
      · rename_i hc
        exact ⟨c, t, (Text.dropStart?_eq_some_iff _ _ _).1 hdrop, hc, (Option.some.inj h).symm⟩
      · exact nomatch h
    · exact nomatch h
  · rintro ⟨c, t, rfl, hc, rfl⟩
    rw [(Text.dropStart?_eq_some_iff _ _ _).2 rfl]
    exact if_pos hc

/-- What can stand in front of a key: blanks, and after them perhaps the word `export` and
blanks. -/
def IsLead (lead : Text) : Prop :=
  ∃ indent, (∀ c ∈ indent, Text.isBlank c = true) ∧
    (lead = indent ∨ ∃ gap, gap ≠ [] ∧ (∀ c ∈ gap, Text.isBlank c = true) ∧
      lead = indent ++ ("export" : Text) ++ gap)

theorem exists_isLead (raw : Text) : ∃ lead, raw = lead ++ assignmentPart raw ∧ IsLead lead := by
  have hindent : ∀ c ∈ raw.takeWhile Text.isBlank, Text.isBlank c = true :=
    fun _ hc => List.mem_takeWhile_imp hc
  have hraw : raw = raw.takeWhile Text.isBlank ++ Text.trimLeft raw :=
    List.takeWhile_append_dropWhile.symm
  unfold assignmentPart
  dsimp only
  cases hexport : afterExport? (Text.trimLeft raw) with
  | none => exact ⟨_, hraw, _, hindent, .inl rfl⟩
  | some rest =>
    obtain ⟨c, t, hbody, hc, rfl⟩ := (afterExport?_eq_some_iff _ _).1 hexport
    have ht : t = t.takeWhile Text.isBlank ++ Text.trimLeft t :=
      List.takeWhile_append_dropWhile.symm
    refine ⟨raw.takeWhile Text.isBlank ++ ("export" : Text) ++ c :: t.takeWhile Text.isBlank, ?_,
      _, hindent, .inr ⟨_, List.cons_ne_nil _ _, List.forall_mem_cons.2 ⟨hc, ?_⟩, rfl⟩⟩
    · nth_rewrite 1 [hraw]
      nth_rewrite 1 [hbody, ht]
      simp
    · exact fun _ hc => List.mem_takeWhile_imp hc

/-! ## What an assignment is read from -/

/-- **An assignment is what a line says.** -/
structure Assignment.ReadFrom (a : Assignment) (line : Nat) (raw : Text) : Prop where
  part : assignmentPart raw = a.rawKey ++ '=' :: a.rawValue
  rawKey : '=' ∉ a.rawKey
  key : a.key = Text.trim a.rawKey
  isKey : Text.isKey a.key = true
  value : valueProblem? a.key a.rawValue = none
  quoted : a.quoted = beginsQuoted (Text.trim a.rawValue)
  line : a.line = line
  column : a.equalsColumn = raw.length - (assignmentPart raw).length + a.rawKey.length + 1

theorem readAssignment_eq_ok_iff (line : Nat) (raw : Text) (a : Assignment) :
    readAssignment line raw = .ok a ↔ a.ReadFrom line raw := by
  rw [readAssignment_eq]
  constructor
  · intro h
    cases hcut : Text.cut? '=' (assignmentPart raw) with
    | none => rw [hcut] at h; exact nomatch h
    | some parts =>
      obtain ⟨rawKey, rawValue⟩ := parts
      obtain ⟨hpart, hequals⟩ := (Text.cut?_eq_some_iff _ _ _ _).1 hcut
      rw [hcut] at h
      dsimp only at h
      split at h
      · exact nomatch h
      · split at h
        · exact nomatch h
        · rename_i hkey
          cases hvalue : valueProblem? (Text.trim rawKey) rawValue with
          | some problem => rw [hvalue] at h; exact nomatch h
          | none =>
            rw [hvalue] at h
            obtain rfl := Except.ok.inj h
            exact ⟨hpart, hequals, rfl, by simpa using hkey, hvalue, rfl, rfl, rfl⟩
  · intro h
    have hkey := h.isKey
    rw [h.key] at hkey
    have hne : ¬ (Text.trim a.rawKey).isEmpty = true := by
      intro hempty
      rw [List.isEmpty_iff.1 hempty] at hkey
      exact nomatch hkey
    rw [(Text.cut?_eq_some_iff _ _ _ _).2 ⟨h.part, h.rawKey⟩]
    dsimp only
    rw [if_neg hne, if_neg (by simp [hkey]), ← h.key, h.value, ← h.quoted, ← h.column, ← h.line]

theorem Assignment.ReadFrom.unique {a b : Assignment} {line : Nat} {raw : Text}
    (ha : a.ReadFrom line raw) (hb : b.ReadFrom line raw) : a = b :=
  Except.ok.inj (((readAssignment_eq_ok_iff line raw a).2 ha).symm.trans
    ((readAssignment_eq_ok_iff line raw b).2 hb))

theorem Assignment.ReadFrom.means {a : Assignment} {line : Nat} {raw : Text}
    (h : a.ReadFrom line raw) : Means a.rawValue a.value a.quoted := by
  rw [h.quoted]
  exact means_of_valueProblem? h.value

/-- What is read begins as its key does. -/
theorem Assignment.ReadFrom.head?_part {a : Assignment} {line : Nat} {raw : Text}
    (h : a.ReadFrom line raw) : (Text.trimLeft (assignmentPart raw)).head? = a.key.head? := by
  have hne : Text.trimLeft a.rawKey ≠ [] := by
    intro hnil
    have hkey := h.isKey
    rw [h.key, (Text.trim_eq_nil_iff _).2 hnil] at hkey
    exact nomatch hkey
  rw [h.part, Text.trimLeft_append hne, List.head?_append_of_ne_nil _ hne, h.key,
    Text.head?_trim_eq]

/-- A line that is read as an assignment is neither blank nor a comment. -/
theorem Assignment.ReadFrom.not_ignored {a : Assignment} {line : Nat} {raw : Text}
    (h : a.ReadFrom line raw) : isIgnored (Text.trim raw) = false := by
  have hhead := h.head?_part
  have hkey := h.isKey
  unfold assignmentPart at hhead
  dsimp only at hhead
  unfold isIgnored
  rw [Text.head?_trim_eq, Bool.or_eq_false_iff, List.isEmpty_eq_false_iff, ne_eq,
    Text.trim_eq_nil_iff, decide_eq_false_iff_not]
  cases hbody : Text.trimLeft raw with
  | nil =>
    rw [hbody] at hhead
    rw [List.head?_eq_none_iff.1 hhead.symm] at hkey
    exact nomatch hkey
  | cons c t =>
    refine ⟨List.cons_ne_nil c t, ?_⟩
    rintro ⟨rfl⟩
    -- the number sign would begin the key
    rw [hbody] at hhead
    obtain ⟨s, hs⟩ := List.head?_eq_some_iff.1 hhead.symm
    rw [hs] at hkey
    exact nomatch hkey

theorem readLine_eq_assignment_iff (line : Nat) (raw : Text) (a : Assignment) :
    readLine line raw = some (.assignment a) ↔ a.ReadFrom line raw := by
  rw [← readAssignment_eq_ok_iff]
  unfold readLine
  constructor
  · intro h
    split at h
    · exact nomatch h
    · cases hread : readAssignment line raw with
      | ok a' => rw [hread] at h; simpa using h
      | error f => rw [hread] at h; simp at h
  · intro h
    rw [if_neg (ne_true_of_eq_false ((readAssignment_eq_ok_iff line raw a).1 h).not_ignored), h]

/-- **The assignments of a file are those of its lines.** -/
theorem mem_assignments_iff {lines : List Text} {a : Assignment} :
    a ∈ (ofLines lines).assignments ↔
      ∃ n raw, lines[n]? = some raw ∧ a.ReadFrom (n + 1) raw := by
  show a ∈ (items lines).filterMap Item.assignment? ↔ _
  rw [items_eq, List.mem_filterMap]
  constructor
  · rintro ⟨item, hitem, hsome⟩
    obtain ⟨n, raw, hraw, -, hread⟩ :=
      exists_of_mem_read readLine (fun _ _ _ => lineNumbers_of_readLine) hitem
    cases item with
    | fault f => exact nomatch hsome
    | assignment a' =>
      obtain rfl := Option.some.inj hsome
      rw [Nat.add_comm] at hread
      exact ⟨n, raw, hraw, (readLine_eq_assignment_iff _ _ _).1 hread⟩
  · rintro ⟨n, raw, hraw, hfrom⟩
    refine ⟨.assignment a, List.mem_filterMap.2 ⟨(raw, n + 1), ?_, ?_⟩, rfl⟩
    · rw [List.mk_mem_zipIdx_iff_le_and_getElem?_sub]
      exact ⟨Nat.le_add_left 1 n, hraw⟩
    · exact (readLine_eq_assignment_iff _ _ _).2 hfrom

/-! ## Nothing is lost -/

/-- **An assignment restores its line**, and what it means is found in the parts of it. -/
structure Assignment.Restores (a : Assignment) (raw : Text) : Prop where
  line : ∃ lead, raw = lead ++ a.rawKey ++ '=' :: a.rawValue ∧ IsLead lead ∧
    a.equalsColumn = lead.length + a.rawKey.length + 1
  rawKey : '=' ∉ a.rawKey
  key : a.key = Text.trim a.rawKey
  isKey : Text.isKey a.key = true
  quoted : a.quoted = true ↔
    (Text.trim a.rawValue).head? = some '\'' ∨ (Text.trim a.rawValue).head? = some '"'
  /-- After the closing quote there is nothing or a comment. -/
  quotation : a.quoted = true → ∃ quote rest,
    Text.trim a.rawValue = quote :: (a.value ++ quote :: rest) ∧
      (Text.trim rest = [] ∨ (Text.trim rest).head? = some '#')

theorem beginsQuoted_iff (text : Text) :
    beginsQuoted text = true ↔ text.head? = some '\'' ∨ text.head? = some '"' := by
  cases text with
  | nil => simp [beginsQuoted]
  | cons c s => simp [beginsQuoted, isQuote]

theorem Assignment.ReadFrom.restores {a : Assignment} {line : Nat} {raw : Text}
    (h : a.ReadFrom line raw) : a.Restores raw where
  line := by
    obtain ⟨lead, hraw, hlead⟩ := exists_isLead raw
    refine ⟨lead, ?_, hlead, ?_⟩
    · rw [List.append_assoc, ← h.part]
      exact hraw
    · have hlength := congrArg List.length hraw
      rw [List.length_append] at hlength
      rw [h.column, hlength, Nat.add_sub_cancel]
  rawKey := h.rawKey
  key := h.key
  isKey := h.isKey
  quoted := by rw [h.quoted, beginsQuoted_iff]
  quotation := by
    intro hquoted
    have hmeans := h.means
    rw [hquoted, means_true_iff] at hmeans
    obtain ⟨quote, rest, htext, -, -, hrest⟩ := hmeans
    exact ⟨quote, rest, htext, hrest⟩

/-- **A file is read without loss.** -/
structure Lossless (lines : List Text) (e : Env) : Prop where
  /-- A line is one assignment or one problem, unless it is blank or a comment. -/
  once : ∀ n raw, lines[n]? = some raw →
    e.assignments.countP (·.line = n + 1) + e.faults.countP (·.line = n + 1)
      = if isIgnored (Text.trim raw) then 0 else 1
  within : ∀ n ∈ e.lineNumbers, IsLineNumber lines.length n
  assignments : e.assignments.Pairwise fun a b => a.line < b.line
  faults : e.faults.Pairwise fun f g => f.line < g.line
  restores : ∀ a ∈ e.assignments, ∃ raw, lines[a.line - 1]? = some raw ∧ a.Restores raw

theorem length_readLine (line : Nat) (raw : Text) :
    (readLine line raw).toList.length = if isIgnored (Text.trim raw) then 0 else 1 := by
  unfold readLine
  split <;> rfl

/-- An item is an assignment or a problem. -/
theorem countP_items (items : List Item) (n : Nat) :
    (items.filterMap Item.assignment?).countP (·.line = n)
        + (items.filterMap Item.fault?).countP (·.line = n)
      = items.countP (·.lineNumbers = [n]) := by
  induction items with
  | nil => rfl
  | cons item items ih =>
    cases item with
    | assignment a =>
      show (a :: items.filterMap Item.assignment?).countP (·.line = n)
        + (items.filterMap Item.fault?).countP (·.line = n) = _
      rw [List.countP_cons, List.countP_cons, ← ih]
      simp only [Item.lineNumbers, List.singleton_inj]
      omega
    | fault f =>
      show (items.filterMap Item.assignment?).countP (·.line = n)
        + (f :: items.filterMap Item.fault?).countP (·.line = n) = _
      rw [List.countP_cons, List.countP_cons, ← ih]
      simp only [Item.lineNumbers, List.singleton_inj]
      omega

theorem pairwise_items (lines : List Text) : (items lines).Pairwise (Before Item.lineNumbers) := by
  rw [items_eq]
  exact pairwise_of_read readLine (fun _ _ _ => lineNumbers_of_readLine) 1 lines

/-- **Reading an environment file loses nothing.** -/
theorem lossless_ofLines (lines : List Text) : Lossless lines (ofLines lines) where
  once := by
    intro n raw h
    have hcount := countP_of_read readLine (fun _ _ _ => lineNumbers_of_readLine) 1 h
    rw [← items_eq, length_readLine, Nat.add_comm 1] at hcount
    exact (countP_items _ _).trans hcount
  within := fun _ hn => isLineNumber_of_mem hn
  assignments := (pairwise_items lines).filterMap _ fun _ _ hbefore _ ha _ hb =>
    hbefore _ (line_mem_of_assignment? ha) _ (line_mem_of_assignment? hb)
  faults := (pairwise_items lines).filterMap _ fun _ _ hbefore _ hf _ hg =>
    hbefore _ (line_mem_of_fault? hf) _ (line_mem_of_fault? hg)
  restores := by
    intro a ha
    obtain ⟨n, raw, hraw, hfrom⟩ := mem_assignments_iff.1 ha
    refine ⟨raw, ?_, hfrom.restores⟩
    rw [hfrom.line, Nat.add_sub_cancel]
    exact hraw

end OpsLint.Env

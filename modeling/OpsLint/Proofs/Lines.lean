import OpsLint.Files.Load

/-!
# Lines put together again

Lines can be put together with line feeds between them and cut again. The text that arises is not
the one they were cut from: its terminators are line feeds now, whatever they were, and an empty
last line has lost the terminator that made it a line. That last line is all that the second cut can
lose (`Text.lines_textOfLines`).

The step that cuts a text reads it from its end, so what is known about `lines (l ++ s)` is proved
by induction on `l`, and `s` is the part already read.
-/

namespace OpsLint.Text

/-- A text that is a single line: no character in it ends one. -/
def IsLine (l : Text) : Prop := ∀ c ∈ l, isTerminator c = false

instance (l : Text) : Decidable (IsLine l) := List.decidableBAll _ l

theorem IsLine.of_cons {c : Char} {l : Text} (h : IsLine (c :: l)) : IsLine l :=
  fun d hd => h d (List.mem_cons_of_mem c hd)

theorem IsLine.append {s t : Text} (hs : IsLine s) (ht : IsLine t) : IsLine (s ++ t) :=
  List.forall_mem_append.2 ⟨hs, ht⟩

theorem IsLine.cons {c : Char} {s : Text} (hc : isTerminator c = false) (hs : IsLine s) :
    IsLine (c :: s) :=
  List.forall_mem_cons.2 ⟨hc, hs⟩

theorem isBlank_of_isTerminator {c : Char} (h : isTerminator c = true) : isBlank c = true := by
  unfold isTerminator at h
  unfold isBlank
  simp only [Bool.or_eq_true, Bool.and_eq_true, decide_eq_true_eq, beq_iff_eq] at h ⊢
  omega

/-- A text without blanks is a line. -/
theorem isLine_of_forall_isBlank {s : Text} (h : ∀ c ∈ s, isBlank c = false) : IsLine s :=
  fun c hc => eq_false_of_ne_true fun hend =>
    Bool.false_ne_true ((h c hc).symm.trans (isBlank_of_isTerminator hend))

/-- A character that ends no line is put in front of the first one. -/
theorem LinesState.read_of_not_terminator {c : Char} (hc : isTerminator c = false)
    (st : LinesState) :
    LinesState.read c st
      = { found := (c :: st.found.headD []) :: st.found.tail } := by
  have hreturn : c ≠ '\r' := by
    rintro rfl
    exact absurd hc (by decide)
  unfold LinesState.read
  cases st.found with
  | nil =>
    rw [if_neg (by simp [hreturn]), if_neg (by simp [hc])]
    rfl
  | cons line rest =>
    rw [if_neg (by simp [hreturn]), if_neg (by simp [hc])]
    rfl

/-- A line and its line feed in front of a text are cut off it. -/
theorem lines_append_feed {l : Text} (hl : IsLine l) (s : Text) :
    lines (l ++ '\n' :: s) = l :: lines s := by
  unfold lines
  induction l with
  | nil => rfl
  | cons c l ih =>
    rw [List.cons_append, List.foldr_cons,
      LinesState.read_of_not_terminator (hl c List.mem_cons_self), ih hl.of_cons]
    rfl

/-- A text without a terminator is its only line, if it is not empty. -/
theorem lines_of_isLine {l : Text} (hl : IsLine l) (hne : l ≠ []) : lines l = [l] := by
  unfold lines
  induction l with
  | nil => exact absurd rfl hne
  | cons c l ih =>
    rw [List.foldr_cons, LinesState.read_of_not_terminator (hl c List.mem_cons_self)]
    cases l with
    | nil => rfl
    | cons d l =>
      rw [ih hl.of_cons (List.cons_ne_nil d l)]
      rfl

/-- What is cut from a text are lines. -/
theorem isLine_of_mem_lines {s l : Text} (h : l ∈ lines s) : IsLine l := by
  unfold lines at h
  induction s generalizing l with
  | nil => exact absurd h List.not_mem_nil
  | cons c s ih =>
    rw [List.foldr_cons] at h
    -- all that matters about what is read already is that lines were found in it
    generalize s.foldr LinesState.read {} = st at h ih
    unfold LinesState.read at h
    split at h
    · exact ih h
    · split at h
      · rcases List.mem_cons.1 h with rfl | h
        · exact fun d hd => absurd hd List.not_mem_nil
        · exact ih h
      · rename_i hc
        have hcons : ∀ line : Text, IsLine line → IsLine (c :: line) := by
          intro line hline
          exact List.forall_mem_cons.2 ⟨by simpa using hc, hline⟩
        split at h
        · rw [List.mem_singleton.1 h]
          exact hcons [] (fun d hd => absurd hd List.not_mem_nil)
        · rename_i line rest hfound
          rw [hfound] at ih
          rcases List.mem_cons.1 h with rfl | h
          · exact hcons line (ih List.mem_cons_self)
          · exact ih (List.mem_cons_of_mem line h)

/-- **Lines that are put together are cut as they were**, except that an empty last line is lost. -/
theorem lines_textOfLines {ls : List Text} (hls : ∀ l ∈ ls, IsLine l) :
    lines (textOfLines ls) = ls ∨ lines (textOfLines ls) ++ [[]] = ls := by
  unfold textOfLines join
  induction ls with
  | nil => exact .inl rfl
  | cons l ls ih =>
    have hl := hls l List.mem_cons_self
    cases ls with
    | nil =>
      rw [List.intercalate_singleton]
      cases l with
      | nil => exact .inr rfl
      | cons c l => exact .inl (lines_of_isLine hl (List.cons_ne_nil c l))
    | cons l' ls =>
      have hcut : lines (List.intercalate "\n".toList (l :: l' :: ls))
          = l :: lines (List.intercalate "\n".toList (l' :: ls)) := by
        rw [List.intercalate_cons_cons, List.append_assoc]
        exact lines_append_feed hl _
      rw [hcut, List.cons_append]
      rcases ih (fun m hm => hls m (List.mem_cons_of_mem l hm)) with h | h
      · exact .inl (congrArg (l :: ·) h)
      · exact .inr (congrArg (l :: ·) h)

end OpsLint.Text

import OpsLint.Lint
import OpsLint.Proofs.FieldRecognition
import OpsLint.Text.Lines

/-!
# Rules for crontabs do not fail

The test of a schedule field can fail, and a rule that fails is reported instead of what it would
have found. On a crontab whose lines are not too long this never happens (`answers_of_short_lines`).

Nothing in the rule prevents it. It is the reader that does, since it takes for fields only words
that the test can handle: what looks like a field has digits and letters of names in it, and no
character that is a digit and has no value (`isReadable_of_isScheduleField`). The few letters beyond
ASCII that are taken for letters of names are no digits either. The fields that stand for a nickname
are not read from the file and are not tested.
-/

namespace OpsLint

namespace Crontab

/-! ## What looks like a field can be read -/

theorem toNat_of_continuesNumeric {c : Char} (h : continuesNumeric c = true) : c.toNat < 128 := by
  obtain h | rfl | rfl | rfl | rfl := (continuesNumeric_iff c).1 h
  · have hcode := Text.toNat_of_isDigit h
    omega
  all_goals decide

/-- Letters of names are no digits, also those beyond ASCII. -/
theorem isDigitLike_of_isLower_foldLetter {c : Char} (h : (foldLetter c).isLower = true) :
    Text.isDigitLike c = false := by
  unfold foldLetter at h
  split at h
  · rename_i hlong
    rw [hlong]
    decide +kernel
  · split at h
    · rename_i hdots
      rw [Bool.or_eq_true, decide_eq_true_eq, decide_eq_true_eq] at hdots
      obtain rfl | rfl := hdots
      · decide +kernel
      · decide +kernel
    · have halpha := Text.isAlpha_of_isLower_toLower h
      have hcode := Text.toNat_of_isAlpha halpha
      rw [Text.isDigitLike_of_ascii (by omega)]
      exact Text.isDigit_of_isAlpha halpha

/-- What looks like a field has digits, marks and letters of names. -/
theorem continuesNumeric_or_of_hasFieldShape {token : Text} (h : hasFieldShape token = true) :
    ∀ c ∈ token, continuesNumeric c = true ∨ (foldLetter c).isLower = true := by
  rw [hasFieldShape, Bool.or_eq_true, List.all_eq_true] at h
  intro c hc
  obtain h | h := h
  · exact .inl (continuesNumeric_of_isNumericField h c hc)
  · by_cases hcomma : c = ','
    · exact .inl (hcomma ▸ rfl)
    · obtain ⟨item, hitem, hmem⟩ := Text.exists_mem_splitOn hc hcomma
      obtain hletter | rfl := isLower_foldLetter_of_isNameItem (h item hitem) c hmem
      · exact .inr hletter
      · exact .inl rfl

theorem decimal_of_hasFieldShape {token : Text} (h : hasFieldShape token = true) :
    ∀ c ∈ token, Text.isDigitLike c = true → Text.decimalValue? c ≠ none := by
  intro c hc hdigit
  obtain hnumeric | hletter := continuesNumeric_or_of_hasFieldShape h c hc
  · exact Text.decimalValue?_ne_none_of_ascii (toNat_of_continuesNumeric hnumeric) hdigit
  · exact absurd (hdigit.symm.trans (isDigitLike_of_isLower_foldLetter hletter)) (by decide)

/-- **What looks like a field and is not too long can be read.** -/
theorem isReadable_of_isScheduleField {token : Text} (h : isScheduleField token = true)
    (hshort : token.length ≤ Numeral.digitLimit) : IsReadable token where
  short := hshort
  decimal := by
    rw [isScheduleField, Bool.or_eq_true, Bool.and_eq_true] at h
    obtain h | ⟨hend, h⟩ := h
    · exact decimal_of_hasFieldShape h
    · -- the line feed at the end is no digit
      have htoken : token = token.dropLast ++ ['\n'] := by
        have hlast : token.getLast? = some '\n' := by simpa [Text.endsWith] using hend
        exact (List.dropLast_append_getLast? _ hlast).symm
      rw [htoken, List.forall_mem_append, List.forall_mem_singleton]
      exact ⟨decimal_of_hasFieldShape h, fun hdigit => absurd hdigit (by decide)⟩

/-! ## Success of the rules -/

theorem isWritable_of_mem : ∀ r ∈ fieldRanges, r.2.IsWritable := by
  have hbounds : ∀ r ∈ fieldRanges, r.2.low < Nat.pow 10 Numeral.digitLimit ∧
      r.2.high < Nat.pow 10 Numeral.digitLimit := by
    decide +kernel
  intro r hr
  obtain ⟨hlow, hhigh⟩ := hbounds r hr
  exact (Schedule.hasUsualNames_of_mem r hr).isWritable hlow hhigh

theorem exists_entryFindings {e : Entry}
    (h : e.nickname = none → ∀ f ∈ e.schedule.fields, IsReadable f) :
    ∃ found, entryFindings e = .ok found := by
  unfold entryFindings
  cases hnickname : e.nickname with
  | some name => exact ⟨[], rfl⟩
  | none =>
    obtain ⟨found, hfound⟩ : ∃ found, (e.schedule.fields.zip fieldRanges).mapM
        (fun p => fieldFinding? e.line p.1 p.2.1 p.2.2) = .ok found := by
      refine exists_mapM_of_forall (fun p hp => ?_)
      obtain ⟨hfield, hrange⟩ := List.of_mem_zip hp
      obtain ⟨answer, hanswer⟩ :=
        FieldRange.exists_complaint? (isWritable_of_mem _ hrange) (h hnickname _ hfield)
      unfold fieldFinding?
      rw [hanswer]
      exact ⟨_, rfl⟩
    refine ⟨found.filterMap id, ?_⟩
    show (_ >>= _) = _
    rw [hfound]
    rfl

variable {lines : List Text} (hshort : ∀ raw ∈ lines, raw.length ≤ Numeral.digitLimit)

include hshort

/-- The fields of an entry are words of its line that look like fields. -/
theorem isReadable_of_mem_entries {e : Entry} (he : e ∈ (ofLines lines).entries)
    (hnickname : e.nickname = none) : ∀ f ∈ e.schedule.fields, IsReadable f := by
  obtain ⟨n, raw, hraw, -, hread⟩ := mem_entries_iff_readEntry.1 he
  have hwritten := (restores_of_readEntry hread).writtenOut hnickname
  intro f hf
  have hword : f ∈ Text.words raw := hwritten.words ▸ List.mem_append_left _ hf
  refine isReadable_of_isScheduleField (hwritten.fields f hf) ?_
  exact Nat.le_trans (Text.sublist_of_mem_words hword).length_le
    (hshort raw (List.mem_of_getElem? hraw))

theorem exists_invalidFields : ∃ found, invalidFields (ofLines lines) = .ok found := by
  obtain ⟨found, hfound⟩ := exists_mapM_of_forall (fun e he =>
    exists_entryFindings (isReadable_of_mem_entries hshort he))
  refine ⟨found.flatten, ?_⟩
  rw [invalidFields, hfound]
  rfl

end Crontab

/-! ## Diagnostics -/

/-- If no rule fails, all diagnostics are of the reader or of a rule. -/
theorem Model.ruleId_of_mem_diagnostics {model : Model} {settings : Settings} {registry : Registry}
    {path : Text} (hrules : ∀ rule ∈ registry.forKind model.kind,
      ∃ found, rule.check (settings.context path rule) model = .ok found)
    {d : Diagnostic} (h : d ∈ model.diagnostics settings registry path) :
    d.ruleId = parseErrorId ∨ d.ruleId ∈ registry.idsFor model.kind := by
  obtain h | h := List.mem_append.1 h
  · obtain ⟨f, -, rfl⟩ := List.mem_map.1 h
    exact .inl rfl
  · obtain ⟨rule, hrule, h⟩ := List.mem_flatMap.1 h
    obtain ⟨found, hfound⟩ := hrules rule hrule
    unfold ruleBlock at h
    split at h
    · rw [hfound] at h
      obtain ⟨f, -, rfl⟩ := List.mem_map.1 h
      exact .inr (List.mem_map_of_mem (registry.forKindOrUnknown_some _ ▸ hrule))
    · exact nomatch h

theorem Rule.exists_check_crontab {c : Crontab} (h : ∃ found, c.invalidFields = .ok found)
    (context : Rule → Rule.Context) : ∀ rule ∈ Registry.standard.forKind .crontab,
      ∃ found, rule.check (context rule) (.crontab c) = .ok found := by
  have hrules : Registry.standard.forKind .crontab = (Rule.standard.drop 10).take 2 := rfl
  rw [hrules]
  refine List.forall_mem_cons.2 ⟨?_, List.forall_mem_singleton.2 ⟨_, rfl⟩⟩
  obtain ⟨found, hfound⟩ := h
  refine ⟨found, ?_⟩
  show c.invalidFields.mapError _ = _
  rw [hfound]
  rfl

namespace Crontab

/-- **No rule fails on a crontab without overlong lines**, although the test of a field fails on
every text of digits that is too long or has a digit without a value. -/
theorem answers_of_short_lines (text : Text)
    (hshort : ∀ raw ∈ Text.lines text, raw.length ≤ Numeral.digitLimit) :
    (∃ found, invalidFields (ofLines (Text.lines text)) = .ok found) ∧
      (∀ settings path, ∀ d ∈ (Model.crontab (ofLines (Text.lines text))).diagnostics settings
        .standard path, d.ruleId ≠ ruleErrorId) ∧
      ∀ (range : FieldRange) (s : Text), Text.isDigits s = true →
        (Numeral.digitLimit < s.length ∨ ∃ c ∈ s, Text.decimalValue? c = none) →
        ∃ e, range.complaint? s = .error e := by
  have hfound := exists_invalidFields hshort
  refine ⟨hfound, fun settings path d hd => ?_, fun _ _ hdigits h =>
    FieldRange.exists_error_of_isDigits hdigits h⟩
  have hids : ruleErrorId ∉ parseErrorId :: Registry.standard.idsFor FileKind.crontab := by
    decide +kernel
  have hid : d.ruleId ∈ parseErrorId :: Registry.standard.idsFor FileKind.crontab :=
    List.mem_cons.2
      (Model.ruleId_of_mem_diagnostics
        (Rule.exists_check_crontab hfound (settings.context path)) hd)
  exact fun herror => hids (herror ▸ hid)

/-- A long s in the name of a weekday, numbers that are too great, a nickname, and superscripts that
are no fields; and a superscript by itself. -/
theorem answers_of_short_lines_with_superscripts :
    let text : Text := "0 24-99 * jan,DEC ſun root x\n@reboot y\n² ² * * * z\n"
    (∃ found, invalidFields (ofLines (Text.lines text)) = .ok found) ∧
      ∃ e, FieldRange.complaint? { low := 0, high := 59 } "²" = .error e := by
  intro text
  obtain ⟨hfound, -, herror⟩ := answers_of_short_lines text (by decide +kernel)
  exact ⟨hfound, herror _ _ (by decide +kernel) (.inr ⟨'²', by decide +kernel⟩)⟩

end Crontab

end OpsLint

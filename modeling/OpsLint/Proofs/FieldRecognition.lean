import OpsLint.Proofs.CrontabLines
import OpsLint.Proofs.FieldGrammar

/-!
# Recognising fields

What looks like a field and what is a field are two questions, and the second is asked only of what
has passed the first: a line is an entry if its first five words, and no more, look like fields.

The two do not agree. A field may name a month and give the next one by its number, or give a name
and a step after it (`jan-3`, `mon,5`, `jan/2`), and none of these looks like one: what looks like a
field has names and separators of names only, or has no names at all. That is the whole difference
(`isScheduleField_iff`). So a line with a valid schedule is read as an entry if and only if no field
of it is **mixed** (`readAs_iff`).
-/

namespace OpsLint

namespace Crontab

/-! ## Characters of fields -/

namespace FieldRange

variable {range : FieldRange} (hnamed : range.IsNamed)

section

variable {P : Char → Prop} (htoken : ∀ s n, Denotes range.names s n → ∀ c ∈ s, P c)
variable (hmark : P '*' ∧ P '-' ∧ P '/' ∧ P ',')

include htoken hmark

theorem forall_of_isBase {base : Text} (h : range.IsBase base) : ∀ c ∈ base, P c := by
  cases h with
  | star => exact List.forall_mem_singleton.2 hmark.1
  | value h _ _ => exact htoken _ _ h
  | interval hs ht _ _ _ =>
    rw [List.forall_mem_append, List.forall_mem_cons]
    exact ⟨htoken _ _ hs, hmark.2.1, htoken _ _ ht⟩

theorem forall_of_isItem {item : Text} (h : range.IsItem item) : ∀ c ∈ item, P c := by
  cases h with
  | every h => exact forall_of_isBase htoken hmark h
  | step h hstep _ =>
    rw [List.forall_mem_append, List.forall_mem_cons]
    exact ⟨forall_of_isBase htoken hmark h, hmark.2.2.1, htoken _ _ (.numeral hstep)⟩

include hnamed in
/-- What holds of the characters of tokens and of the four marks holds of all characters of a
field. -/
theorem forall_of_isField {field : Text} (h : range.IsField field) : ∀ c ∈ field, P c := by
  rw [isField_iff hnamed] at h
  intro c hc
  by_cases hcomma : c = ','
  · exact hcomma ▸ hmark.2.2.2
  · obtain ⟨item, hitem, hmem⟩ := Text.exists_mem_splitOn hc hcomma
    exact forall_of_isItem htoken hmark (h item hitem) c hmem

end

include hnamed

/-- A base begins with a letter, a digit or a star. -/
theorem head_of_isBase {c : Char} {s : Text} (h : range.IsBase (c :: s)) :
    c.isAlphanum = true ∨ c = '*' := by
  generalize hbase : c :: s = base at h
  cases h with
  | star => exact .inr (List.cons.inj hbase).1
  | value h _ _ => exact .inl ((alphanum_of_denotes hnamed h).2 c (hbase ▸ List.mem_cons_self))
  | @interval first last _ _ hs _ _ _ _ =>
    obtain ⟨d, t, rfl⟩ := List.exists_cons_of_ne_nil (alphanum_of_denotes hnamed hs).1
    rw [(List.cons.inj hbase).1]
    exact .inl ((alphanum_of_denotes hnamed hs).2 d List.mem_cons_self)

theorem head_of_isItem {c : Char} {s : Text} (h : range.IsItem (c :: s)) :
    c.isAlphanum = true ∨ c = '*' := by
  generalize hitem : c :: s = item at h
  cases h with
  | every h => exact head_of_isBase hnamed (hitem ▸ h)
  | @step base step h _ _ =>
    obtain ⟨d, t, rfl⟩ := List.exists_cons_of_ne_nil (ne_nil_of_isBase hnamed h)
    rw [(List.cons.inj hitem).1]
    exact head_of_isBase hnamed h

theorem not_isItem_nil : ¬ range.IsItem [] := by
  rw [isItem_iff_of_no_slash List.not_mem_nil]
  exact fun h => ne_nil_of_isBase hnamed h rfl

/-- A field begins with a letter, a digit or a star. -/
theorem head_of_isField {field : Text} (h : range.IsField field) :
    ∃ c s, field = c :: s ∧ (c.isAlphanum = true ∨ c = '*') := by
  rw [isField_iff hnamed] at h
  cases field with
  | nil => exact absurd (h [] List.mem_cons_self) (not_isItem_nil hnamed)
  | cons c s =>
    have hc : c ≠ ',' := by
      rintro rfl
      have hfirst : [] ∈ Text.splitOn ',' (',' :: s) := by
        rw [Text.splitOn, if_pos rfl]
        exact List.mem_cons_self
      exact not_isItem_nil hnamed (h [] hfirst)
    obtain ⟨w, hw⟩ := Text.exists_splitOn_cons hc s
    exact ⟨c, s, rfl, head_of_isItem hnamed (h _ hw)⟩

theorem alphanum_or_mark_of_isField {field : Text} (h : range.IsField field) :
    ∀ c ∈ field, c.isAlphanum = true ∨ c = '*' ∨ c = '-' ∨ c = '/' ∨ c = ',' := by
  refine forall_of_isField hnamed (fun s n hs c hc => ?_) (by decide) h
  exact .inl ((alphanum_of_denotes hnamed hs).2 c hc)

theorem toNat_of_isField {field : Text} (h : range.IsField field) :
    ∀ c ∈ field, 33 ≤ c.toNat ∧ c.toNat < 128 := by
  refine forall_of_isField hnamed (fun s n hs c hc => ?_) (by decide) h
  have hcode := Text.toNat_of_isAlphanum ((alphanum_of_denotes hnamed hs).2 c hc)
  omega

end FieldRange

/-! ## Names -/

theorem foldLetter_of_ascii {c : Char} (h : c.toNat < 128) : foldLetter c = c.toLower := by
  have hlong : c ≠ 'ſ' := by
    rintro rfl
    exact absurd h (by decide)
  have hdots : ¬ (c = 'ı' || c = 'İ') = true := by
    rw [Bool.or_eq_true, decide_eq_true_eq, decide_eq_true_eq]
    rintro (rfl | rfl)
    · exact absurd h (by decide)
    · exact absurd h (by decide)
  rw [foldLetter, if_neg hlong, if_neg hdots]

theorem isLower_of_mem_names : ∀ name ∈ monthNames ++ dayNames, name.all Char.isLower = true := by
  decide +kernel

theorem mem_names_of_mem_table : ∀ p ∈ months ++ days, p.1 ∈ monthNames ++ dayNames := by
  decide +kernel

/-- The letters of names. -/
theorem isLower_foldLetter_of_isFieldName {s : Text} (h : isFieldName s = true) :
    ∀ c ∈ s, (foldLetter c).isLower = true := by
  intro c hc
  exact List.all_eq_true.1 (isLower_of_mem_names _ (of_decide_eq_true h)) _
    (List.mem_map_of_mem hc)

theorem isFieldName_of_denotes {range : FieldRange} (husual : range.HasUsualNames) {s : Text}
    {n : Nat} (h : Denotes range.names s n) (hascii : ∀ c ∈ s, c.toNat < 128)
    (hdigit : ∀ c ∈ s, c.isDigit = false) : isFieldName s = true := by
  cases h with
  | numeral h =>
    obtain ⟨c, t, rfl⟩ := List.exists_cons_of_ne_nil h.1
    have hc := hdigit c List.mem_cons_self
    rw [h.2 c List.mem_cons_self] at hc
    exact absurd hc.symm Bool.false_ne_true
  | name htable h =>
    have hmem : (s.map Char.toLower, n) ∈ months ++ days := by
      obtain rfl | rfl := husual.eq_of_some htable
      · exact List.mem_append_left _ h
      · exact List.mem_append_right _ h
    have hfold : s.map foldLetter = s.map Char.toLower :=
      List.map_congr_left (fun c hc => foldLetter_of_ascii (hascii c hc))
    rw [isFieldName, hfold]
    exact decide_eq_true (mem_names_of_mem_table _ hmem)

theorem isLower_foldLetter_of_isNameItem {item : Text} (h : isNameItem item = true) :
    ∀ c ∈ item, (foldLetter c).isLower = true ∨ c = '-' := by
  unfold isNameItem at h
  cases hcut : Text.cut? '-' item with
  | none =>
    rw [hcut] at h
    exact fun c hc => .inl (isLower_foldLetter_of_isFieldName h c hc)
  | some parts =>
    obtain ⟨first, last⟩ := parts
    rw [hcut, Bool.and_eq_true] at h
    obtain ⟨rfl, -⟩ := (Text.cut?_eq_some_iff _ _ _ _).1 hcut
    intro c hc
    obtain hc | hc := List.mem_append.1 hc
    · exact .inl (isLower_foldLetter_of_isFieldName h.1 c hc)
    · obtain rfl | hc := List.mem_cons.1 hc
      · exact .inr rfl
      · exact .inl (isLower_foldLetter_of_isFieldName h.2 c hc)

theorem isNameItem_of_isItem {range : FieldRange} (husual : range.HasUsualNames) {item : Text}
    (h : range.IsItem item) (hascii : ∀ c ∈ item, c.toNat < 128)
    (hname : ∀ c ∈ item, c.isDigit = false ∧ c ≠ '*' ∧ c ≠ '/') : isNameItem item = true := by
  have hbase : range.IsBase item := by
    refine (FieldRange.isItem_iff_of_no_slash ?_).1 h
    exact fun hmem => (hname '/' hmem).2.2 rfl
  unfold isNameItem
  cases hbase with
  | star => exact absurd rfl (hname '*' List.mem_cons_self).2.1
  | value h _ _ =>
    rw [(Text.cut?_eq_none_iff '-' item).2 (FieldRange.not_mem_of_denotes husual.isNamed h rfl)]
    exact isFieldName_of_denotes husual h hascii (fun c hc => (hname c hc).1)
  | @interval s t m n hs ht _ _ _ =>
    have hhyphen := FieldRange.not_mem_of_denotes husual.isNamed hs (rfl : '-'.isAlphanum = false)
    obtain ⟨hsascii, htascii⟩ := List.forall_mem_append.1 hascii
    obtain ⟨hsname, htname⟩ := List.forall_mem_append.1 hname
    rw [(Text.cut?_eq_some_iff '-' _ s t).2 ⟨rfl, hhyphen⟩, Bool.and_eq_true]
    exact ⟨isFieldName_of_denotes husual hs hsascii (fun c hc => (hsname c hc).1),
      isFieldName_of_denotes husual ht (List.forall_mem_cons.1 htascii).2
        (fun c hc => ((List.forall_mem_cons.1 htname).2 c hc).1)⟩

/-! ## Mixed fields -/

/-- A field that has a letter, and a digit, a star or a slash as well. -/
def IsMixed (field : Text) : Prop :=
  (∃ c ∈ field, c.isAlpha = true) ∧ ∃ c ∈ field, c.isDigit = true ∨ c = '*' ∨ c = '/'

instance (field : Text) : Decidable (IsMixed field) :=
  decidable_of_iff (field.any Char.isAlpha = true ∧
    field.any (fun c => c.isDigit || c = '*' || c = '/') = true) (by simp [IsMixed, or_assoc])

theorem continuesNumeric_iff (c : Char) :
    continuesNumeric c = true ↔ c.isDigit = true ∨ c = '*' ∨ c = ',' ∨ c = '/' ∨ c = '-' := by
  simp [continuesNumeric, or_assoc]

theorem continuesNumeric_of_isNumericField {field : Text} (h : isNumericField field = true) :
    ∀ c ∈ field, continuesNumeric c = true := by
  cases field with
  | nil => exact nofun
  | cons c s =>
    rw [isNumericField, Bool.and_eq_true, List.all_eq_true, beginsNumeric, Bool.or_eq_true,
      decide_eq_true_eq] at h
    refine List.forall_mem_cons.2 ⟨(continuesNumeric_iff c).2 ?_, h.2⟩
    exact h.1.imp_right .inl

/-- Fields of numbers have no letters. -/
theorem not_isAlpha_of_continuesNumeric {c : Char} (h : continuesNumeric c = true) :
    c.isAlpha = false := by
  obtain h | rfl | rfl | rfl | rfl := (continuesNumeric_iff c).1 h
  · exact eq_false_of_ne_true (fun halpha =>
      Bool.false_ne_true ((Text.isDigit_of_isAlpha halpha).symm.trans h))
  all_goals rfl

theorem not_isMixed_of_hasFieldShape {field : Text} (hascii : ∀ c ∈ field, c.toNat < 128)
    (h : hasFieldShape field = true) : ¬ IsMixed field := by
  rintro ⟨⟨c, hc, halpha⟩, d, hd, hnumeric⟩
  rw [hasFieldShape, Bool.or_eq_true, List.all_eq_true] at h
  obtain h | h := h
  · have hnot := not_isAlpha_of_continuesNumeric (continuesNumeric_of_isNumericField h c hc)
    exact Bool.false_ne_true (hnot.symm.trans halpha)
  · -- names have letters and hyphens only
    have hcomma : d ≠ ',' := by
      rintro rfl
      exact absurd hnumeric (by decide)
    obtain ⟨item, hitem, hmem⟩ := Text.exists_mem_splitOn hd hcomma
    obtain hletter | rfl := isLower_foldLetter_of_isNameItem (h item hitem) d hmem
    · have hcontinues : continuesNumeric d = true := by
        rw [continuesNumeric_iff]
        exact hnumeric.imp_right (Or.imp_right (.inr ∘ .inl))
      rw [foldLetter_of_ascii (hascii d hd)] at hletter
      exact Bool.false_ne_true ((not_isAlpha_of_continuesNumeric hcontinues).symm.trans
        (Text.isAlpha_of_isLower_toLower hletter))
    · exact absurd hnumeric (by decide)

theorem hasFieldShape_of_not_isMixed {range : FieldRange} (husual : range.HasUsualNames)
    {field : Text} (hfield : range.IsField field) (h : ¬ IsMixed field) :
    hasFieldShape field = true := by
  have hcodes := FieldRange.toNat_of_isField husual.isNamed hfield
  rw [hasFieldShape, Bool.or_eq_true, List.all_eq_true]
  by_cases hletter : ∃ c ∈ field, c.isAlpha = true
  · refine .inr (fun item hitem => ?_)
    have hsubset := (Text.sublist_of_mem_splitOn hitem).subset
    refine isNameItem_of_isItem husual ((FieldRange.isField_iff husual.isNamed field).1 hfield item
      hitem) (fun c hc => (hcodes c (hsubset hc)).2) (fun c hc => ?_)
    have hnot : ¬ (c.isDigit = true ∨ c = '*' ∨ c = '/') :=
      fun hnumeric => h ⟨hletter, c, hsubset hc, hnumeric⟩
    rw [not_or, not_or, Bool.not_eq_true] at hnot
    exact hnot
  · have hdigit : ∀ c ∈ field, c.isAlphanum = true → c.isDigit = true := by
      intro c hc halnum
      rw [Char.isAlphanum, Bool.or_eq_true] at halnum
      exact halnum.resolve_left (fun halpha => hletter ⟨c, hc, halpha⟩)
    obtain ⟨c, s, rfl, hc⟩ := FieldRange.head_of_isField husual.isNamed hfield
    left
    rw [isNumericField, Bool.and_eq_true, beginsNumeric, Bool.or_eq_true, decide_eq_true_eq,
      List.all_eq_true]
    refine ⟨hc.imp_left (hdigit c List.mem_cons_self), fun d hd => ?_⟩
    have hmem := List.mem_cons_of_mem c hd
    rw [continuesNumeric_iff]
    obtain halnum | hstar | hhyphen | hslash | hcomma :=
      FieldRange.alphanum_or_mark_of_isField husual.isNamed hfield d hmem
    · exact .inl (hdigit d hmem halnum)
    · exact .inr (.inl hstar)
    · exact .inr (.inr (.inr (.inr hhyphen)))
    · exact .inr (.inr (.inr (.inl hslash)))
    · exact .inr (.inr (.inl hcomma))

theorem isScheduleField_eq_hasFieldShape {token : Text} (h : '\n' ∉ token) :
    isScheduleField token = hasFieldShape token := by
  have hend : Text.endsWith token '\n' = false := by
    refine eq_false_of_ne_true (fun hend => h ?_)
    exact List.mem_of_getLast? (by simpa [Text.endsWith] using hend)
  rw [isScheduleField, hend, Bool.false_and, Bool.or_false]

/-- **A field looks like one if and only if it is not mixed.** -/
theorem isScheduleField_iff {range : FieldRange} (husual : range.HasUsualNames) {field : Text}
    (hfield : range.IsField field) : isScheduleField field = true ↔ ¬ IsMixed field := by
  have hcodes := FieldRange.toNat_of_isField husual.isNamed hfield
  have hfeed : '\n' ∉ field := fun hmem => absurd (hcodes _ hmem).1 (by decide)
  rw [isScheduleField_eq_hasFieldShape hfeed]
  exact ⟨not_isMixed_of_hasFieldShape (fun c hc => (hcodes c hc).2),
    hasFieldShape_of_not_isMixed husual hfield⟩

/-! ## Lines with a valid schedule -/

theorem toNat_of_beginsNumeric {c : Char} (h : beginsNumeric c = true) :
    42 ≤ c.toNat ∧ c.toNat ≤ 57 := by
  rw [beginsNumeric, Bool.or_eq_true, decide_eq_true_eq] at h
  obtain hdigit | rfl := h
  · have hcode := Text.toNat_of_isDigit hdigit
    omega
  · decide

/-- A line that begins as a field of numbers does is neither a comment nor an assignment. -/
theorem isIgnored_of_beginsNumeric {c : Char} (h : beginsNumeric c = true) (s : Text) :
    isIgnored (c :: s) = false := by
  have hcode := toNat_of_beginsNumeric h
  have hstart : ¬ Text.isIdentStart c = true := by
    rw [Text.isIdentStart, Bool.or_eq_true, decide_eq_true_eq]
    rintro (halpha | rfl)
    · have hletter := Text.toNat_of_isAlpha halpha
      omega
    · exact absurd h (by decide)
  have hassignment : Text.beginsAssignment (c :: s) = false :=
    eq_false_of_ne_true (fun h => hstart ((Text.beginsAssignment_cons c s).1 h).1)
  rw [isIgnored, hassignment, List.isEmpty_cons, Bool.false_or, Bool.or_false,
    decide_eq_false_iff_not]
  rintro ⟨rfl⟩
  exact absurd h (by decide)

namespace Schedule

/-- There is nothing to complain of in any field of a schedule. -/
def IsValid (s : Schedule) : Prop :=
  ∀ p ∈ s.fields.zip fieldRanges, p.2.2.complaint? p.1 = .ok none

instance (s : Schedule) : Decidable s.IsValid :=
  inferInstanceAs (Decidable (∀ p ∈ s.fields.zip fieldRanges, p.2.2.complaint? p.1 = .ok none))

/-- A line of a crontab: the fields of a schedule and a command, with a space after each field. -/
def line (s : Schedule) (command : Text) : Text := Text.join " " (s.fields ++ [command])

theorem hasUsualNames_of_mem : ∀ r ∈ fieldRanges, r.2.HasUsualNames := by
  simp [fieldRanges, FieldRange.HasUsualNames]

variable {s : Schedule} (hplain : ∀ f ∈ s.fields, IsPlain f) (hvalid : s.IsValid)

include hplain hvalid

/-- The fields of a valid schedule are fields. -/
theorem isField_of_isValid {f label : Text} {range : FieldRange}
    (h : (f, label, range) ∈ s.fields.zip fieldRanges) :
    range.HasUsualNames ∧ range.IsField f := by
  obtain ⟨hf, hrange⟩ := List.of_mem_zip h
  have husual := hasUsualNames_of_mem _ hrange
  refine ⟨husual, (FieldRange.check_eq_ok_iff husual.isNamed (hplain f hf)).1 ?_⟩
  exact (FieldRange.complaint?_eq_ok_none_iff_check f).1 (hvalid _ h)

theorem exists_isField_of_isValid {f : Text} (h : f ∈ s.fields) :
    ∃ range : FieldRange, range.HasUsualNames ∧ range.IsField f := by
  have hfields : (s.fields.zip fieldRanges).map Prod.fst = s.fields := rfl
  rw [← hfields] at h
  obtain ⟨⟨_, label, range⟩, hp, rfl⟩ := List.mem_map.1 h
  exact ⟨range, isField_of_isValid hplain hvalid hp⟩

/-- Fields of a valid schedule are words. -/
theorem not_blank_of_isValid {f : Text} (h : f ∈ s.fields) :
    f ≠ [] ∧ ∀ c ∈ f, Text.isBlank c = false := by
  obtain ⟨range, husual, hfield⟩ := exists_isField_of_isValid hplain hvalid h
  obtain ⟨c, t, rfl, -⟩ := FieldRange.head_of_isField husual.isNamed hfield
  refine ⟨List.cons_ne_nil c t, fun d hd => ?_⟩
  obtain ⟨hlow, hhigh⟩ := FieldRange.toNat_of_isField husual.isNamed hfield d hd
  exact Text.isBlank_of_toNat hlow hhigh

/-- Minutes have no names, and so they begin with a digit or a star. -/
theorem minute_of_isValid : ∃ c t, s.minute = c :: t ∧ beginsNumeric c = true := by
  obtain ⟨husual, hfield⟩ := isField_of_isValid hplain hvalid List.mem_cons_self
  obtain ⟨c, t, hminute, hc⟩ := FieldRange.head_of_isField husual.isNamed hfield
  have hletter : c.isAlpha = false := by
    refine FieldRange.forall_of_isField husual.isNamed (P := fun c => c.isAlpha = false)
      (fun token n htoken d hd => ?_) (by decide) hfield c (hminute ▸ List.mem_cons_self)
    cases htoken with
    | numeral h =>
      exact not_isAlpha_of_continuesNumeric ((continuesNumeric_iff d).2 (.inl (h.2 d hd)))
    | name htable _ => exact nomatch htable
  refine ⟨c, t, hminute, ?_⟩
  rw [beginsNumeric, Bool.or_eq_true, decide_eq_true_eq]
  rw [Char.isAlphanum, hletter, Bool.false_or] at hc
  exact hc

theorem words_line (command : Text) :
    Text.words (s.line command) = s.fields ++ Text.words command :=
  Text.words_join (fun _ hf => not_blank_of_isValid hplain hvalid hf) command

/-- A line with a valid schedule begins as the minute does. -/
theorem head?_line (command : Text) :
    ∃ c, (Text.trim (s.line command)).head? = some c ∧ beginsNumeric c = true := by
  obtain ⟨c, t, hminute, hc⟩ := minute_of_isValid hplain hvalid
  have hline : s.line command
      = c :: (t ++ ' ' :: Text.join " " (s.fields.tail ++ [command])) := by
    rw [← List.cons_append, ← hminute]
    exact Text.join_cons s.minute (List.append_ne_nil_of_right_ne_nil _ (List.cons_ne_nil _ _))
  have hcode := toNat_of_beginsNumeric hc
  have hblank : Text.isBlank c = false := Text.isBlank_of_toNat (by omega) (by omega)
  refine ⟨c, ?_, hc⟩
  rw [hline]
  exact Text.head?_trim hblank _

/-- A line with a valid schedule means something, and it does not begin with a nickname. -/
theorem line_of_isValid (command : Text) :
    isIgnored (Text.trim (s.line command)) = false ∧
      (Text.trim (s.line command)).head? ≠ some '@' := by
  obtain ⟨c, hhead, hc⟩ := head?_line hplain hvalid command
  obtain ⟨r, hr⟩ := List.head?_eq_some_iff.1 hhead
  rw [hr]
  refine ⟨isIgnored_of_beginsNumeric hc r, ?_⟩
  rintro ⟨rfl⟩
  exact absurd hc (by decide)

end Schedule

/-- The line with a given number is one entry with the given fields, and is not reported. -/
def ReadAs (lines : List Text) (n : Nat) (s : Schedule) : Prop :=
  (∃ e, (ofLines lines).entries.filter (·.line = n) = [e] ∧ e.schedule = s) ∧
    ∀ f ∈ (ofLines lines).faults, f.1 ≠ n

/-- What a line is read as depends on this line alone. -/
theorem readAs_iff_readEntry {before after : List Text} {raw : Text}
    (hraw : isIgnored (Text.trim raw) = false) (s : Schedule) :
    ReadAs (before ++ raw :: after) (before.length + 1) s ↔
      ∃ e, readEntry (before.length + 1) (Text.trim raw) = .ok e ∧ e.schedule = s := by
  have hline : (before ++ raw :: after)[before.length]? = some raw := by simp
  constructor
  · rintro ⟨⟨e, he, hs⟩, -⟩
    have hmem : e ∈ (ofLines (before ++ raw :: after)).entries.filter
        (·.line = before.length + 1) := he ▸ List.mem_cons_self
    obtain ⟨hentry, hnumber⟩ := List.mem_filter.1 hmem
    obtain ⟨n, raw', hraw', -, hread⟩ := mem_entries_iff_readEntry.1 hentry
    obtain rfl : n = before.length := by
      have hn := (line_of_readEntry hread).symm.trans (of_decide_eq_true hnumber)
      omega
    obtain rfl := Option.some.inj (hline.symm.trans hraw')
    exact ⟨e, hread, hs⟩
  · rintro ⟨e, hread, hs⟩
    have hentry := mem_entries_iff_readEntry.2 ⟨before.length, raw, hline, hraw, hread⟩
    have hmem : e ∈ (ofLines (before ++ raw :: after)).entries.filter
        (·.line = before.length + 1) :=
      List.mem_filter.2 ⟨hentry, decide_eq_true (line_of_readEntry hread)⟩
    -- a line is one thing only, and this one is an entry
    have hcount := countP_ofLines hline
    rw [if_neg (ne_true_of_eq_false hraw), List.countP_eq_length_filter] at hcount
    have hpos := List.length_pos_of_mem hmem
    refine ⟨?_, fun f hf hn => ?_⟩
    · obtain ⟨e', he'⟩ := List.length_eq_one_iff.1 (by omega :
        ((ofLines (before ++ raw :: after)).entries.filter (·.line = before.length + 1)).length = 1)
      rw [he', List.mem_singleton] at hmem
      exact ⟨e', he', hmem ▸ hs⟩
    · have hfault : 0 < (ofLines (before ++ raw :: after)).faults.countP
          (·.1 = before.length + 1) :=
        List.countP_pos_iff.2 ⟨f, hf, decide_eq_true hn⟩
      omega

theorem writtenOut_of_readSchedule {body : Text} {schedule : Schedule} {nickname : Option Text}
    {rest : Text} (hhead : body.head? ≠ some '@')
    (h : readSchedule body = .ok (schedule, nickname, rest)) :
    WrittenOut (Text.words body) schedule (Text.words rest) := by
  by_cases hlength : ((Text.words body).takeWhile isScheduleField).length = 5
  · obtain ⟨schedule', hfive⟩ := readSchedule_of_five hhead hlength
    obtain ⟨rfl, rfl, rfl⟩ := by simpa using Except.ok.inj (hfive.symm.trans h)
    obtain ⟨name, hname, -⟩ | ⟨-, hwritten⟩ := nicknamed_or_writtenOut h
    · exact nomatch hname
    · exact hwritten
  · exact nomatch (readSchedule_of_not_five hhead hlength).symm.trans h

/-- A line of fields and a command is an entry with these fields if and only if they look like
fields. -/
theorem exists_readEntry_iff {line : Nat} {body : Text} {s : Schedule} {rest : List Text}
    (hhead : body.head? ≠ some '@') (hwords : Text.words body = s.fields ++ rest)
    (hrest : ∃ w ws, rest = w :: ws ∧ isScheduleField w = false) :
    (∃ e, readEntry line body = .ok e ∧ e.schedule = s) ↔
      ∀ f ∈ s.fields, isScheduleField f = true := by
  obtain ⟨w, ws, rfl, hw⟩ := hrest
  constructor
  · rintro ⟨e, hread, rfl⟩
    obtain ⟨after, hschedule, -, -⟩ := exists_of_readEntry hread
    exact (writtenOut_of_readSchedule hhead hschedule).fields
  · intro h
    have hfields : (Text.words body).takeWhile isScheduleField = s.fields := by
      rw [hwords, List.takeWhile_append_of_pos h, List.takeWhile_cons_of_neg (by simp [hw]),
        List.append_nil]
    have hschedule : readSchedule body = .ok (s, none, afterWords 5 body) := by
      unfold readSchedule
      rw [if_neg hhead, hfields]
      rfl
    have hafter : Text.words (afterWords 5 body) ≠ [] := by
      rw [words_afterWords, hwords]
      exact List.cons_ne_nil w ws
    generalize afterWords 5 body = after at hschedule hafter
    obtain ⟨e, he⟩ : ∃ e, readEntry line body = .ok e :=
      exists_readEntry_of_words hschedule hafter
    obtain ⟨_, hfound, -, -⟩ := exists_of_readEntry he
    exact ⟨e, he, (Prod.mk.inj (Except.ok.inj (hfound.symm.trans hschedule))).1⟩

/-- **A line with a valid schedule is read as this schedule if and only if no field is mixed.** The
fields are of ASCII characters and not too long to be looked at, and the first word of the command
does not look like a field. -/
theorem readAs_iff (s : Schedule) (command : Text) (before after : List Text)
    (hplain : ∀ f ∈ s.fields, IsPlain f) (hvalid : s.IsValid)
    (hcommand : ∃ w ws, Text.words command = w :: ws ∧ isScheduleField w = false) :
    ReadAs (before ++ s.line command :: after) (before.length + 1) s ↔
      ∀ f ∈ s.fields, ¬ IsMixed f := by
  obtain ⟨hraw, hhead⟩ := Schedule.line_of_isValid hplain hvalid command
  have hwords : Text.words (Text.trim (s.line command)) = s.fields ++ Text.words command := by
    rw [Text.words_trim, Schedule.words_line hplain hvalid]
  rw [readAs_iff_readEntry hraw, exists_readEntry_iff hhead hwords hcommand]
  refine forall₂_congr (fun f hf => ?_)
  obtain ⟨range, husual, hfield⟩ := Schedule.exists_isField_of_isValid hplain hvalid hf
  exact isScheduleField_iff husual hfield

/-- Lists, ranges and steps of numbers, and a list of names, between other lines. -/
theorem readAs_iff_of_names :
    let s : Schedule := ⟨"*/5,30-59/2", "00", "1,15", "Jan-mar,DEC", "MON-fri"⟩
    let before : List Text := ["SHELL=/bin/sh"]
    s.line "root  /bin/backup -v"
        = ("*/5,30-59/2 00 1,15 Jan-mar,DEC MON-fri root  /bin/backup -v" : Text) ∧
      ReadAs (before ++ s.line "root  /bin/backup -v" :: ["0 0 * *"]) (before.length + 1) s := by
  intro s before
  refine ⟨by decide +kernel, (readAs_iff s "root  /bin/backup -v" before ["0 0 * *"] ?_ ?_
    ⟨"root", ["/bin/backup", "-v"], ?_⟩).2 ?_⟩
  · decide +kernel
  · decide +kernel
  · decide +kernel
  · decide +kernel

/-- A month with a step after it is valid, and the line is reported for having three fields. -/
theorem not_readAs_of_step_after_name :
    let s : Schedule := ⟨"0", "0", "1", "jan/2", "*"⟩
    (∀ f ∈ s.fields, IsPlain f) ∧ s.IsValid ∧
      (∃ w ws, Text.words "/usr/bin/report" = w :: ws ∧ isScheduleField w = false) ∧
      (ofLines [s.line "/usr/bin/report"]).entries = [] ∧
      (ofLines [s.line "/usr/bin/report"]).faults = [(1, .fieldCount 3)] ∧
      ¬ ReadAs [s.line "/usr/bin/report"] 1 s := by
  intro s
  have hentries : (ofLines [s.line "/usr/bin/report"]).entries = [] := by decide +kernel
  refine ⟨by decide +kernel, by decide +kernel, ⟨"/usr/bin/report", [], by decide +kernel⟩,
    hentries, by decide +kernel, ?_⟩
  rintro ⟨⟨e, he, -⟩, -⟩
  rw [hentries] at he
  exact nomatch he

end Crontab

end OpsLint

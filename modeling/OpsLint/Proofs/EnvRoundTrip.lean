import OpsLint.Proofs.Characters
import OpsLint.Proofs.EnvLines
import OpsLint.Proofs.Lines

/-!
# Values are read as they were written

A value can be written in single quotes, in double quotes or bare (`Encodes`), each on its own
conditions, and the line around it can be laid out freely: indented, exported, with spaces and tabs
around the equals sign and a comment at the end (`Layout`). Whatever the layout, the line is read as
one assignment of this value to its key (`ofLines_write`).

The reader trims in three places, and each time what it takes off is layout: in front of the line,
at both ends of the key, and at both ends of the value with its comment. What is left of the value
is the encoded text, followed by nothing or by blanks that lead to a comment
(`Layout.trim_rawValue`).
-/

namespace OpsLint

/-! ## Keys -/

namespace Text

theorem trimLeft_key_append {key : Text} (h : isKey key = true) (rest : Text) :
    trimLeft (key ++ rest) = key ++ rest := by
  have hchars := forall_isKeyChar h
  cases key with
  | nil => exact absurd h Bool.false_ne_true
  | cons c s =>
    exact trimLeft_cons_of_not_blank (isBlank_of_isKeyChar (hchars c List.mem_cons_self)) _

theorem trimRight_key {key : Text} (h : isKey key = true) : trimRight key = key :=
  List.rdropWhile_eq_self_iff.2 fun hne => ne_true_of_eq_false
    (isBlank_of_isKeyChar (forall_isKeyChar h _ (List.getLast_mem hne)))

theorem isLine_key {key : Text} (h : isKey key = true) : IsLine key :=
  isLine_of_forall_isBlank fun c hc => isBlank_of_isKeyChar (forall_isKeyChar h c hc)

end Text

namespace Env

/-- A line that begins with another key does not begin with the word `export`. -/
theorem afterExport?_key_append {key rest : Text} (hkey : Text.isKey key = true)
    (hexport : key ≠ ("export" : Text)) (hrest : ∀ c ∈ rest.head?, Text.isKeyChar c = false) :
    afterExport? (key ++ rest) = none := by
  refine Option.eq_none_iff_forall_ne_some.2 fun t ht => ?_
  obtain ⟨c, s, htext, hc, -⟩ := (afterExport?_eq_some_iff _ _).1 ht
  have hblank : ∀ d ∈ (c :: s).head?, Text.isKeyChar d = false := by
    rintro d ⟨rfl⟩
    exact Text.isKeyChar_of_isBlank hc
  refine hexport ?_
  rw [← Text.takeWhile_key_append hkey hrest, htext]
  exact Text.takeWhile_key_append (by decide) hblank

/-! ## Layout -/

/-- Spaces and tabs. -/
def IsSpacing (s : Text) : Prop := ∀ c ∈ s, c = ' ' ∨ c = '\t'

instance (s : Text) : Decidable (IsSpacing s) := List.decidableBAll _ s

theorem IsSpacing.isBlank {s : Text} (h : IsSpacing s) : ∀ c ∈ s, Text.isBlank c = true := by
  intro c hc
  rcases h c hc with rfl | rfl <;> rfl

theorem IsSpacing.isLine {s : Text} (h : IsSpacing s) : Text.IsLine s := by
  intro c hc
  rcases h c hc with rfl | rfl <;> rfl

/-- **How an assignment is laid out on its line.** -/
structure Layout where
  indent : Text
  exported : Bool
  beforeEquals : Text
  afterEquals : Text
  trailing : Text
  /-- What follows the number sign of a comment. -/
  comment : Option Text
  isSpacing_indent : IsSpacing indent
  isSpacing_beforeEquals : IsSpacing beforeEquals
  isSpacing_afterEquals : IsSpacing afterEquals
  isSpacing_trailing : IsSpacing trailing
  trailing_ne_nil : comment ≠ none → trailing ≠ []
  isLine_comment : ∀ c ∈ comment, Text.IsLine c

namespace Layout

/-- What stands in front of the key. -/
def lead (l : Layout) : Text := l.indent ++ if l.exported then ("export " : Text) else []

/-- What stands after the value. -/
def tail (l : Layout) : Text := l.trailing ++ l.comment.elim [] ('#' :: ·)

/-- What stands after the equals sign. -/
def rawValue (l : Layout) (encoded : Text) : Text := l.afterEquals ++ encoded ++ l.tail

/-- The line of a key and an encoded value. -/
def write (l : Layout) (key encoded : Text) : Text :=
  l.lead ++ (key ++ (l.beforeEquals ++ '=' :: l.rawValue encoded))

/-- The assignment that this line is. -/
def assignment (l : Layout) (key encoded : Text) (quoted : Bool) : Assignment where
  key := key
  rawValue := l.rawValue encoded
  quoted := quoted
  line := 1
  rawKey := key ++ l.beforeEquals
  equalsColumn := l.lead.length + (key ++ l.beforeEquals).length + 1

end Layout

/-! ## Encodings -/

/-- **The ways to write a value**, and whether it is quoted then. -/
inductive Encodes (v : Text) : Text → Bool → Prop
  | single (h : '\'' ∉ v) : Encodes v ('\'' :: (v ++ ['\''])) true
  | double (hinside : ∀ p s, v = p ++ '"' :: s → Odd (trailingBackslashes p))
      (hend : ¬ Odd (trailingBackslashes v)) : Encodes v ('"' :: (v ++ ['"'])) true
  | bare (hne : v ≠ []) (htrim : Text.trim v = v) (hquote : v.head? ≠ some '\'')
      (hquote' : v.head? ≠ some '"')
      (hcomment : ∀ p c s, v = p ++ c :: '#' :: s → Text.isBlank c = false) : Encodes v v false

theorem isBlank_of_isQuote {quote : Char} (h : isQuote quote = true) :
    Text.isBlank quote = false := by
  unfold isQuote at h
  rw [Bool.or_eq_true, decide_eq_true_eq, decide_eq_true_eq] at h
  rcases h with rfl | rfl <;> rfl

/-- A text between quotes has no blanks at its ends. -/
theorem trimmed_quoted {quote : Char} (h : isQuote quote = true) (v : Text) :
    Text.trimLeft (quote :: (v ++ [quote])) = quote :: (v ++ [quote]) ∧
      Text.trimRight (quote :: (v ++ [quote])) = quote :: (v ++ [quote]) :=
  ⟨Text.trimLeft_cons_of_not_blank (isBlank_of_isQuote h) _,
    Text.trimRight_concat (isBlank_of_isQuote h) (quote :: v)⟩

section

variable {v encoded : Text} {quoted : Bool} (h : Encodes v encoded quoted)

include h

theorem Encodes.trimmed : Text.trimLeft encoded = encoded ∧ Text.trimRight encoded = encoded := by
  cases h with
  | single => exact trimmed_quoted rfl v
  | double => exact trimmed_quoted rfl v
  | bare hne htrim =>
    have hleft := Text.trimLeft_trim v
    have hright := Text.trimRight_trim v
    rw [htrim] at hleft hright
    exact ⟨hleft, hright⟩

theorem Encodes.trim_eq : Text.trim encoded = encoded := by
  obtain ⟨hleft, hright⟩ := h.trimmed
  rw [Text.trim, hleft, hright]

theorem Encodes.ne_nil : encoded ≠ [] := by
  cases h with
  | single => exact List.cons_ne_nil _ _
  | double => exact List.cons_ne_nil _ _
  | bare hne => exact hne

theorem Encodes.isLine (hv : Text.IsLine v) : Text.IsLine encoded := by
  cases h with
  | single => exact .cons rfl (hv.append (.cons rfl nofun))
  | double => exact .cons rfl (hv.append (.cons rfl nofun))
  | bare => exact hv

end

/-- A value in quotes is a quotation of it. -/
theorem Encodes.isQuotation {v encoded : Text} (h : Encodes v encoded true) :
    IsQuotation encoded v := by
  cases h with
  | single hv =>
    refine ⟨'\'', [], rfl, rfl, ⟨fun p s hp => ?_, fun hescapes => ?_⟩, .inl rfl⟩
    · exact absurd (hp ▸ List.mem_append_right p List.mem_cons_self) hv
    · exact absurd hescapes.1 (by decide)
  | double hinside hend =>
    exact ⟨'"', [], rfl, rfl,
      ⟨fun p s hp => ⟨rfl, hinside p s hp⟩, fun hescapes => hend hescapes.2⟩, .inl rfl⟩

/-- **An encoded value means the value.** -/
theorem Encodes.means {v encoded : Text} {quoted : Bool} (h : Encodes v encoded quoted) :
    Means encoded v quoted := by
  have hright := h.trimmed.2
  cases quoted with
  | true =>
    rw [means_true_iff, h.trim_eq]
    exact h.isQuotation
  | false =>
    rw [means_false_iff, h.trim_eq]
    cases h with
    | bare hne _ hsingle hdouble hcomment =>
      refine ⟨eq_false_of_ne_true fun hbegins => ?_, ?_⟩
      · exact ((beginsQuoted_iff v).1 hbegins).elim hsingle hdouble
      · rw [beforeComment_eq_self hcomment, hright]

namespace Layout

variable (l : Layout)

/-- After the value there is nothing but blanks, or blanks and a comment. -/
theorem isTail_trimRight_tail : IsTail (Text.trimRight l.tail) := by
  unfold tail
  cases hcomment : l.comment with
  | none =>
    refine .inl ((Text.trimRight_eq_nil_iff _).2 ?_)
    rw [Option.elim_none, List.append_nil]
    exact l.isSpacing_trailing.isBlank
  | some c =>
    rw [Option.elim_some, Text.trimRight_append_cons rfl]
    exact .inr (leadsToComment_append (l.trailing_ne_nil (by rw [hcomment]; exact nofun))
      l.isSpacing_trailing.isBlank _)

/-- **Trimming takes the layout off a value**, but for a comment after it. -/
theorem trim_rawValue {v encoded : Text} {quoted : Bool} (h : Encodes v encoded quoted) :
    Text.trim (l.rawValue encoded) = encoded ++ Text.trimRight l.tail := by
  obtain ⟨hleft, hright⟩ := h.trimmed
  have hspacing : Text.trimLeft l.afterEquals = [] :=
    (Text.trimLeft_eq_nil_iff _).2 l.isSpacing_afterEquals.isBlank
  have hencoded : Text.trimLeft (encoded ++ l.tail) = encoded ++ l.tail := by
    rw [Text.trimLeft_append (by rw [hleft]; exact h.ne_nil), hleft]
  unfold rawValue Text.trim
  rw [List.append_assoc, Text.trimLeft_append_of_blank hspacing, hencoded,
    Text.trimRight_append_of_trimmed hright]

theorem means_rawValue {v encoded : Text} {quoted : Bool} (h : Encodes v encoded quoted) :
    Means (l.rawValue encoded) v quoted := by
  refine h.means.append ?_ l.isTail_trimRight_tail ?_
  · rw [h.trim_eq]
    exact h.ne_nil
  · rw [l.trim_rawValue h, h.trim_eq]

/-- What follows a key on its line does not belong to it. -/
theorem isKeyChar_beforeEquals (raw : Text) :
    ∀ c ∈ (l.beforeEquals ++ '=' :: raw).head?, Text.isKeyChar c = false := by
  cases hspaces : l.beforeEquals with
  | nil =>
    rintro c ⟨rfl⟩
    rfl
  | cons b rest =>
    rintro c ⟨rfl⟩
    exact Text.isKeyChar_of_isBlank
      (l.isSpacing_beforeEquals.isBlank b (hspaces ▸ List.mem_cons_self))

/-- **The layout in front of a key is taken off.** -/
theorem assignmentPart_write {key : Text} (hkey : Text.isKey key = true)
    (hexport : key ≠ ("export" : Text)) (encoded : Text) :
    assignmentPart (l.write key encoded)
      = key ++ (l.beforeEquals ++ '=' :: l.rawValue encoded) := by
  have hindent : Text.trimLeft l.indent = [] :=
    (Text.trimLeft_eq_nil_iff _).2 l.isSpacing_indent.isBlank
  have hbody := Text.trimLeft_key_append hkey (l.beforeEquals ++ '=' :: l.rawValue encoded)
  unfold assignmentPart write lead
  dsimp only
  rw [List.append_assoc l.indent, Text.trimLeft_append_of_blank hindent]
  cases l.exported with
  | false =>
    rw [if_neg Bool.false_ne_true, List.nil_append, hbody,
      afterExport?_key_append hkey hexport (l.isKeyChar_beforeEquals _)]
    rfl
  | true =>
    have hafter := (afterExport?_eq_some_iff _ _).2 ⟨' ', _, rfl, rfl, hbody.symm⟩
    exact congrArg (Option.getD · _) hafter

theorem trim_rawKey {key : Text} (hkey : Text.isKey key = true) :
    Text.trim (key ++ l.beforeEquals) = key := by
  have hspacing : Text.trimRight l.beforeEquals = [] :=
    (Text.trimRight_eq_nil_iff _).2 l.isSpacing_beforeEquals.isBlank
  unfold Text.trim
  rw [Text.trimLeft_key_append hkey, Text.trimRight_append_of_trimmed (Text.trimRight_key hkey),
    hspacing, List.append_nil]

theorem equals_not_mem_rawKey {key : Text} (hkey : Text.isKey key = true) :
    '=' ∉ key ++ l.beforeEquals := by
  intro hmem
  rcases List.mem_append.1 hmem with hmem | hmem
  · exact Bool.false_ne_true (Text.forall_isKeyChar hkey _ hmem)
  · exact Bool.false_ne_true (l.isSpacing_beforeEquals.isBlank _ hmem)

/-- **The line is read as the assignment it was written for.** -/
theorem readFrom_write {key : Text} (hkey : Text.isKey key = true)
    (hexport : key ≠ ("export" : Text)) {v encoded : Text} {quoted : Bool}
    (h : Encodes v encoded quoted) :
    (l.assignment key encoded quoted).ReadFrom 1 (l.write key encoded) := by
  have hpart := l.assignmentPart_write hkey hexport encoded
  have hmeans := l.means_rawValue h
  exact
    { part := by rw [hpart, ← List.append_assoc]; rfl
      rawKey := l.equals_not_mem_rawKey hkey
      key := (l.trim_rawKey hkey).symm
      isKey := hkey
      value := hmeans.problem key
      quoted := hmeans.quoted.symm
      line := rfl
      column := by
        rw [hpart, write, List.length_append, Nat.add_sub_cancel]
        rfl }

theorem write_ne_nil (key encoded : Text) : l.write key encoded ≠ [] := by
  simp [write]

theorem isLine_write {key : Text} (hkey : Text.isKey key = true) {encoded : Text}
    (hencoded : Text.IsLine encoded) : Text.IsLine (l.write key encoded) := by
  have hlead : Text.IsLine (if l.exported then ("export " : Text) else []) := by
    split
    · decide +kernel
    · exact fun c hc => absurd hc List.not_mem_nil
  have hcomment : Text.IsLine (l.comment.elim [] ('#' :: ·)) := by
    have hline := l.isLine_comment
    cases hc : l.comment with
    | none => exact fun c hc => absurd hc List.not_mem_nil
    | some c => exact .cons rfl (hline c hc)
  exact (l.isSpacing_indent.isLine.append hlead).append <| (Text.isLine_key hkey).append <|
    l.isSpacing_beforeEquals.isLine.append <| .cons rfl <|
    (l.isSpacing_afterEquals.isLine.append hencoded).append <|
    l.isSpacing_trailing.isLine.append hcomment

end Layout

theorem ofLines_singleton {raw : Text} {a : Assignment}
    (h : readLine 1 raw = some (.assignment a)) : ofLines [raw] = ⟨[a], []⟩ := by
  unfold ofLines
  rw [items_eq]
  simp [h, Item.assignment?, Item.fault?]

/-- **What is written is read.** Whatever the layout of its line, a key gets the value that was
written, and nothing is reported. -/
theorem ofLines_write (l : Layout) {key : Text} (hkey : Text.isKey key = true)
    (hexport : key ≠ ("export" : Text)) {v encoded : Text} {quoted : Bool}
    (h : Encodes v encoded quoted) (hv : Text.IsLine v) :
    ∃ a, ofLines (Text.lines (l.write key encoded)) = ⟨[a], []⟩ ∧ a.key = key ∧ a.value = v ∧
      a.quoted = quoted := by
  have hread := (readLine_eq_assignment_iff _ _ _).2 (l.readFrom_write hkey hexport h)
  refine ⟨l.assignment key encoded quoted, ?_, rfl, ?_, rfl⟩
  · rw [Text.lines_of_isLine (l.isLine_write hkey (h.isLine hv)) (l.write_ne_nil key encoded),
      ofLines_singleton hread]
  · exact (l.means_rawValue h).value

/-- An escaped quote and a number sign between quotes, and a comment after them. -/
theorem ofLines_write_of_escaped_quote :
    ∃ a, ofLines (Text.lines "\texport KEY = \"\\\" #\" # \"b") = ⟨[a], []⟩ ∧
      a.key = ("KEY" : Text) ∧ a.value = ("\\\" #" : Text) ∧ a.quoted = true := by
  have hencodes : Encodes ("\\\" #" : Text) ("\"\\\" #\"" : Text) true := by
    refine .double (fun p s hp => ?_) (by decide)
    match p with
    | [] => exact nomatch hp
    | [c] =>
      obtain ⟨rfl, -⟩ := List.cons.inj hp
      exact ⟨0, rfl⟩
    | c :: d :: p =>
      have hrest : [' ', '#'] = p ++ '"' :: s := (List.cons.inj (List.cons.inj hp).2).2
      have hmem : '"' ∈ [' ', '#'] := hrest ▸ List.mem_append_right p List.mem_cons_self
      exact absurd hmem (by decide)
  have hlayout : ∃ l : Layout, l.write "KEY" "\"\\\" #\"" = "\texport KEY = \"\\\" #\" # \"b" :=
    ⟨⟨"\t", true, " ", " ", " ", some " \"b", by decide +kernel, by decide +kernel,
      by decide +kernel, by decide +kernel, fun _ => List.cons_ne_nil _ _,
      by rintro c ⟨rfl⟩; decide +kernel⟩, by decide +kernel⟩
  obtain ⟨l, hwrite⟩ := hlayout
  rw [← hwrite]
  exact ofLines_write l (by decide) (by decide) hencodes (by decide +kernel)

end Env

end OpsLint

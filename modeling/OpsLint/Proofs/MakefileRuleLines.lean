import OpsLint.Proofs.Characters
import OpsLint.Proofs.MakefileSeams

/-!
# Plain rules

A line with names in front of a colon is tried as a conditional, a definition, an assignment and a
directive before it is taken for a rule. It is never an assignment, if what follows the colon is
neither another one nor an equals sign. For the others the words at the beginning are looked at, and
a word ends at the colon at the latest. So what becomes of the line is decided by its names
(`complete_of_isRowHead`).

A plain rule is a name, a colon and the names of the prerequisites, with a space in front of each
(`ruleText`); a plain **name** has letters, numbers, underscores and hyphens in it. Its first word
may end at a hyphen, too.

So a plain rule with a recipe line is read as what it is **except for one sort of names**, those
that begin with a keyword and a hyphen, such as `export-data` (`isReadAsRule_iff`). Their rule is
passed over, and the recipe line is reported or lost.
-/

namespace OpsLint

/-! ## Names -/

/-- No letter, number or underscore is blank. -/
theorem Text.isBlank_of_isWordChar {c : Char} (h : isWordChar c = true) : isBlank c = false := by
  unfold isWordChar at h
  split at h
  · exact isBlank_of_isIdentChar h
  · -- the blanks beyond ASCII are few, and none of them is in the table
    refine eq_false_of_ne_true fun hblank => ?_
    have hcodes : ∀ n ∈ [0x85, 0xa0, 0x1680, 0x2000, 0x2001, 0x2002, 0x2003, 0x2004, 0x2005, 0x2006,
        0x2007, 0x2008, 0x2009, 0x200a, 0x2028, 0x2029, 0x202f, 0x205f, 0x3000],
        (wordRanges.any fun r => r.1 ≤ n && n ≤ r.2) = false := by
      decide +kernel
    have hcode : (wordRanges.any fun r => r.1 ≤ c.toNat && c.toNat ≤ r.2) = false := by
      refine hcodes c.toNat ?_
      simp only [isBlank, Bool.or_eq_true, Bool.and_eq_true, decide_eq_true_eq, beq_iff_eq]
        at hblank
      simp only [List.mem_cons, List.not_mem_nil, or_false]
      omega
    unfold inRanges at h
    rw [hcode] at h
    exact Bool.false_ne_true h

namespace Makefile

/-- A character of a plain name. -/
def isNameChar (c : Char) : Bool := Text.isWordChar c || c = '-'

/-- A plain name: letters and numbers of any script, underscores and hyphens. -/
def IsName (name : Text) : Prop := name ≠ [] ∧ ∀ c ∈ name, isNameChar c = true

instance (name : Text) : Decidable (IsName name) :=
  @instDecidableAnd _ _ _ (List.decidableBAll _ name)

/-- What can stand in front of the colon of a plain rule: a plain name, or one with points in it. -/
def IsHead (head : Text) : Prop := head ≠ [] ∧ ∀ c ∈ head, isNameChar c = true ∨ c = '.'

instance (head : Text) : Decidable (IsHead head) :=
  @instDecidableAnd _ _ _ (List.decidableBAll _ head)

theorem isBlank_of_isNameChar {c : Char} (h : isNameChar c = true) : Text.isBlank c = false := by
  rw [isNameChar, Bool.or_eq_true, decide_eq_true_eq] at h
  obtain h | rfl := h
  · exact Text.isBlank_of_isWordChar h
  · rfl

theorem IsName.isHead {name : Text} (h : IsName name) : IsHead name :=
  ⟨h.1, fun c hc => .inl (h.2 c hc)⟩

/-- A character of a row of names, of files or others. -/
def isRowChar (c : Char) : Bool := isNameChar c || c = '.' || c = '/' || c = ' '

/-- A row of names: what plain names, points, slashes and spaces are in. -/
def IsRow (s : Text) : Prop := ∀ c ∈ s, isRowChar c = true

instance (s : Text) : Decidable (IsRow s) := List.decidableBAll _ s

theorem IsHead.isRow {head : Text} (h : IsHead head) : IsRow head := by
  intro c hc
  rw [isRowChar]
  obtain hc | rfl := h.2 c hc
  · rw [hc]
    rfl
  · rfl

/-- A row has no marks in it. -/
theorem IsRow.notMem {s : Text} (h : IsRow s) {mark : Char} (hmark : isRowChar mark = false) :
    mark ∉ s := fun hmem => by
  rw [h mark hmem] at hmark
  exact Bool.false_ne_true hmark.symm

namespace IsHead

variable {head : Text} (h : IsHead head)
include h

theorem not_blank {c : Char} (hc : c ∈ head) : Text.isBlank c = false := by
  obtain hc | rfl := h.2 c hc
  · exact isBlank_of_isNameChar hc
  · rfl

end IsHead

/-! ## Keywords -/

/-- The words that make a line something else than a rule. -/
def lineKeywords : List Text :=
  ["ifeq", "ifneq", "ifdef", "ifndef", "else", "endif", "define",
   "-include", "include", "sinclude", "vpath", "export", "unexport", "undefine"]

theorem beginsKeyword_lineKeywords (s : Text) :
    beginsKeyword lineKeywords s
      = (isConditional s || (beginsKeyword ["define"] s || isDirective s)) := by
  have hlist : lineKeywords = (["ifeq", "ifneq", "ifdef", "ifndef", "else", "endif"] : List Text)
      ++ ((["define"] : List Text) ++ (["-include", "include", "sinclude", "vpath", "export",
        "unexport", "undefine"] : List Text)) := rfl
  unfold isConditional isDirective beginsKeyword
  rw [hlist, List.any_append, List.any_append]

/-- A keyword ends at a colon at the latest. -/
theorem endsWord_dropStart? {keyword : Text} (hkeyword : ':' ∉ keyword) (head rest : Text) :
    (Text.dropStart? keyword (head ++ ':' :: rest)).any Text.endsWord
      = (Text.dropStart? keyword head).any Text.endsWord := by
  fun_induction Text.dropStart? keyword head with
  | case1 s =>
    cases s with
    | nil => rfl
    | cons c s => rfl
  | case2 p start =>
    have hp : p ≠ ':' := fun h => hkeyword (h ▸ List.mem_cons_self)
    rw [List.nil_append, Text.dropStart?, if_neg hp]
  | case3 start c s ih =>
    rw [List.cons_append, Text.dropStart?, if_pos rfl]
    exact ih fun h => hkeyword (List.mem_cons_of_mem _ h)
  | case4 p start c s hp =>
    rw [List.cons_append, Text.dropStart?, if_neg hp]

theorem beginsKeyword_append_colon {keywords : List Text} (h : ∀ k ∈ keywords, ':' ∉ k)
    (head rest : Text) :
    beginsKeyword keywords (head ++ ':' :: rest) = beginsKeyword keywords head := by
  rw [Bool.eq_iff_iff, beginsKeyword, beginsKeyword, List.any_eq_true, List.any_eq_true]
  exact exists_congr fun k => and_congr_right fun hk => by rw [endsWord_dropStart? (h k hk)]

/-- **A plain name begins with a keyword** if it is the keyword, or goes on with a hyphen after
it. -/
theorem beginsKeyword_iff_of_isName {name : Text} (h : IsName name) (keywords : List Text) :
    beginsKeyword keywords name = true ↔
      ∃ k ∈ keywords, name = k ∨ (k ++ "-" : Text) <+: name := by
  rw [beginsKeyword, List.any_eq_true]
  refine exists_congr fun k => and_congr_right fun _ => ?_
  rw [Option.any_eq_true]
  constructor
  · rintro ⟨rest, hrest, hends⟩
    obtain rfl := Text.eq_append_of_dropStart? hrest
    cases rest with
    | nil => exact .inl (List.append_nil k)
    | cons c rest =>
      have hc := h.2 c (List.mem_append_right k List.mem_cons_self)
      have hword : Text.isWordChar c = false := by simpa [Text.endsWord] using hends
      rw [isNameChar, hword, Bool.false_or, decide_eq_true_eq] at hc
      exact .inr ⟨rest, by rw [hc, List.append_assoc]; rfl⟩
  · rintro (rfl | ⟨rest, rfl⟩)
    · exact ⟨[], (Text.dropStart?_eq_some_iff _ _ _).2 (List.append_nil _).symm, rfl⟩
    · exact ⟨'-' :: rest, (Text.dropStart?_eq_some_iff _ _ _).2 (List.append_assoc _ _ _), rfl⟩

/-! ## Modifiers -/

/-- What follows a modifier and the blanks after it. -/
def after? (modifier s : Text) : Option Text :=
  match Text.dropStart? modifier s with
  | some (c :: rest) => if Text.isBlank c then some (Text.trimLeft rest) else none
  | _ => none

theorem afterModifier?_eq (s : Text) :
    afterModifier? s = (after? "export" s).or (after? "override" s) := by
  show [("export" : Text), "override"].findSome? (after? · s) = _
  rw [List.findSome?_cons, List.findSome?_singleton]
  cases after? "export" s <;> rfl

theorem after?_append_colon {modifier : Text} (h : ':' ∉ modifier) (head rest : Text) :
    after? modifier (head ++ ':' :: rest) = (after? modifier head).map (· ++ ':' :: rest) := by
  unfold after?
  fun_induction Text.dropStart? modifier head with
  | case1 s =>
    cases s with
    | nil => rfl
    | cons c s =>
      rw [Text.dropStart?, List.cons_append]
      dsimp only
      split
      · rw [Text.trimLeft_append_cons rfl]
        rfl
      · rfl
  | case2 p start =>
    have hp : p ≠ ':' := fun heq => h (heq ▸ List.mem_cons_self)
    rw [List.nil_append, Text.dropStart?, if_neg hp]
    rfl
  | case3 start c s ih =>
    rw [List.cons_append, Text.dropStart?, if_pos rfl]
    exact ih fun hmem => h (List.mem_cons_of_mem _ hmem)
  | case4 p start c s hp =>
    rw [List.cons_append, Text.dropStart?, if_neg hp]
    rfl

/-- **Modifiers stand in front of the colon** if they stand anywhere. -/
theorem afterModifier?_append_colon (head rest : Text) :
    afterModifier? (head ++ ':' :: rest) = (afterModifier? head).map (· ++ ':' :: rest) := by
  rw [afterModifier?_eq, afterModifier?_eq, after?_append_colon (by decide),
    after?_append_colon (by decide), Option.map_or]

theorem afterModifiers_append_colon (n : Nat) (head rest : Text) :
    afterModifiers n (head ++ ':' :: rest) = (afterModifiers n head).map (· ++ ':' :: rest) := by
  induction n generalizing head with
  | zero => rfl
  | succ n ih =>
    rw [afterModifiers, afterModifiers, afterModifier?_append_colon, List.map_cons]
    cases afterModifier? head with
    | none => rfl
    | some more => exact congrArg (_ :: ·) (ih more)

theorem length_lt_of_after? {modifier s rest : Text} (h : after? modifier s = some rest) :
    rest.length < s.length := by
  unfold after? at h
  split at h
  · rename_i c more hstart
    split at h
    · rw [← Option.some.inj h, Text.eq_append_of_dropStart? hstart, List.length_append,
        List.length_cons]
      have hle : (Text.trimLeft more).length ≤ more.length :=
        (List.dropWhile_suffix Text.isBlank).length_le
      omega
    · exact nomatch h
  · exact nomatch h

theorem length_lt_of_afterModifier? {s rest : Text} (h : afterModifier? s = some rest) :
    rest.length < s.length := by
  rw [afterModifier?_eq, Option.or_eq_some_iff] at h
  obtain h | ⟨-, h⟩ := h
  · exact length_lt_of_after? h
  · exact length_lt_of_after? h

/-- There are no more modifiers than characters. -/
theorem afterModifiers_of_length_le {s : Text} {m n : Nat} (hm : s.length ≤ m) (hn : s.length ≤ n) :
    afterModifiers m s = afterModifiers n s := by
  induction m generalizing n s with
  | zero =>
    obtain rfl := List.eq_nil_of_length_eq_zero (Nat.le_zero.1 hm)
    cases n <;> rfl
  | succ m ih =>
    cases n with
    | zero =>
      obtain rfl := List.eq_nil_of_length_eq_zero (Nat.le_zero.1 hn)
      rfl
    | succ n =>
      rw [afterModifiers, afterModifiers]
      cases hmore : afterModifier? s with
      | none => rfl
      | some more =>
        have hlt := length_lt_of_afterModifier? hmore
        exact congrArg (s :: ·) (ih (by omega) (by omega))

theorem beginsModified_append_colon (test : Text → Bool) (head rest : Text) :
    beginsModified test (head ++ ':' :: rest)
      = (afterModifiers head.length head).any fun s => test (s ++ ':' :: rest) := by
  have hlength : head.length ≤ (head ++ ':' :: rest).length := by
    rw [List.length_append]
    exact Nat.le_add_right _ _
  rw [beginsModified, afterModifiers_append_colon,
    afterModifiers_of_length_le hlength (Nat.le_refl _), List.any_map]
  rfl

/-! ## Rows in front of a colon -/

/-- **What a line with a colon is taken for** does not depend on what follows the colon. -/
theorem isConditional_append_colon (head rest : Text) :
    isConditional (head ++ ':' :: rest) = isConditional head :=
  beginsKeyword_append_colon (by decide) head rest

@[inherit_doc isConditional_append_colon]
theorem isDirective_append_colon (head rest : Text) :
    isDirective (head ++ ':' :: rest) = isDirective head :=
  beginsKeyword_append_colon (by decide) head rest

@[inherit_doc isConditional_append_colon]
theorem isDefine_append_colon (head rest : Text) :
    isDefine (head ++ ':' :: rest) = isDefine head := by
  rw [isDefine, beginsModified_append_colon]
  exact congrArg (List.any _) (funext fun s => beginsKeyword_append_colon (by decide) s rest)

/-- The colon after a row is no operator, if it is followed neither by another one nor by an equals
sign. -/
theorem beginsOperator_eq_false {head rest : Text} (hhead : IsRow head)
    (hcolon : rest.head? ≠ some ':') (hequals : rest.head? ≠ some '=') :
    beginsOperator (head ++ ':' :: rest) = false := by
  have hdrop : (head ++ ':' :: rest).dropWhile isVariableChar
      = head.dropWhile isVariableChar ++ ':' :: rest := by
    rw [List.dropWhile_append]
    split
    · rename_i hnil
      rw [List.isEmpty_iff.1 hnil]
      rfl
    · rfl
  have hoperators : assignmentOperators.any (Text.startsWith
      (Text.trimLeft ((head ++ ':' :: rest).dropWhile isVariableChar)) ·) = false := by
    rw [hdrop, Text.trimLeft_append_cons rfl]
    cases hleft : Text.trimLeft (head.dropWhile isVariableChar) with
    | nil =>
      cases rest with
      | nil => rfl
      | cons d rest =>
        have hd : ¬ ':' = d := fun heq => hcolon (heq ▸ rfl)
        have hd' : ¬ '=' = d := fun heq => hequals (heq ▸ rfl)
        simp [assignmentOperators, Text.startsWith, Text.dropStart?, hd, hd']
    | cons c r =>
      have hsuffix : Text.trimLeft (head.dropWhile isVariableChar) <:+ head :=
        (List.dropWhile_suffix Text.isBlank).trans (List.dropWhile_suffix isVariableChar)
      have hc : c ∈ head := hsuffix.subset (hleft ▸ List.mem_cons_self)
      have hmark : ∀ mark, isRowChar mark = false → ¬ mark = c :=
        fun mark hmark heq => hhead.notMem hmark (heq ▸ hc)
      simp [assignmentOperators, Text.startsWith, Text.dropStart?, hmark ':' (by decide),
        hmark '?' (by decide), hmark '+' (by decide), hmark '!' (by decide), hmark '=' (by decide)]
  unfold beginsOperator
  rw [hoperators, Bool.and_false]

theorem isAssignment_eq_false {head rest : Text} (hhead : IsRow head)
    (hcolon : rest.head? ≠ some ':') (hequals : rest.head? ≠ some '=') :
    isAssignment (head ++ ':' :: rest) = false := by
  rw [isAssignment, beginsModified_append_colon, List.any_eq_false]
  intro s hs
  have hrow : IsRow s := fun c hc => hhead c ((suffix_of_mem_afterModifiers hs).subset hc)
  rw [beginsOperator_eq_false hrow hcolon hequals]
  exact Bool.false_ne_true

/-- A head is no modifier, since no blank is in it, and begins a definition only by its first
word. -/
theorem IsHead.isDefine_eq {head : Text} (h : IsHead head) :
    isDefine head = beginsKeyword ["define"] head := by
  have hafter : ∀ modifier, after? modifier head = none := by
    intro modifier
    unfold after?
    split
    · rename_i c rest hstart
      have hc : c ∈ head := by
        rw [Text.eq_append_of_dropStart? hstart]
        exact List.mem_append_right modifier List.mem_cons_self
      rw [h.not_blank hc, if_neg Bool.false_ne_true]
    · rfl
  unfold isDefine beginsModified
  cases head.length with
  | zero => exact Bool.or_false _
  | succ n =>
    rw [afterModifiers, afterModifier?_eq, hafter, hafter]
    exact Bool.or_false _

/-- A row that begins a line. -/
structure IsRowHead (names : Text) : Prop where
  row : IsRow names
  first : ∃ c ∈ names.head?, Text.isBlank c = false

theorem IsHead.isRowHead {head : Text} (h : IsHead head) : IsRowHead head := by
  refine ⟨h.isRow, ?_⟩
  obtain ⟨c, tail, rfl⟩ := List.exists_cons_of_ne_nil h.1
  exact ⟨c, rfl, h.not_blank List.mem_cons_self⟩

theorem trim_rowHead {names : Text} (h : IsRowHead names) (rest : Text) :
    Text.trim (names ++ ':' :: rest) = names ++ ':' :: Text.trimRight rest := by
  obtain ⟨c, hc, hblank⟩ := h.first
  obtain ⟨tail, rfl⟩ := List.head?_eq_some_iff.1 hc
  rw [Text.trim, List.cons_append, Text.trimLeft_cons_of_not_blank hblank, ← List.cons_append,
    Text.trimRight_append_cons rfl]

theorem step_of_isRowHead {names : Text} (h : IsRowHead names) (rest : Text) {st : State}
    (hst : st.phase = .fresh) (line : Nat) :
    step line (names ++ ':' :: rest) st = st.line line false (names ++ ':' :: rest) := by
  obtain ⟨c, hc, hblank⟩ := h.first
  obtain ⟨tail, rfl⟩ := List.head?_eq_some_iff.1 hc
  refine step_eq_line ?_ (fun hcomment => ?_) hst line
  · show (some c).any (!Text.isBlank ·) = true
    rw [Option.any_some, hblank]
    rfl
  · have hmem : '#' ∈ c :: tail := Option.some.inj hcomment ▸ List.mem_cons_self
    exact h.row.notMem (by decide) hmem

/-- The names of a rule end at its colon. -/
theorem splitRule?_of_isRowHead {names rest : Text} (h : IsRowHead names)
    (hcolon : rest.head? ≠ some ':') :
    splitRule? (names ++ ':' :: rest) = some (names, false, rest) := by
  refine (splitRule?_eq_some_iff _ _ _ _).2 ⟨rfl, h.first, fun c hc => ?_, fun _ => hcolon⟩
  have hmark : ∀ mark, isRowChar mark = false → decide (c = mark) = false :=
    fun mark hmark => decide_eq_false fun heq => h.row.notMem hmark (heq ▸ hc)
  rw [endsNames, hmark ':' (by decide), hmark '=' (by decide), hmark '#' (by decide)]
  rfl

/-- **What becomes of a rule** is decided by its names. -/
theorem complete_of_isRowHead {names rest : Text} (h : IsRowHead names)
    (hcolon : rest.head? ≠ some ':') (hequals : rest.head? ≠ some '=') {rule : RuleLine}
    (hrule : ruleLine? (names ++ ':' :: rest) = some rule) (st : State) (line : Nat) :
    st.complete line false (names ++ ':' :: rest)
      = if isConditional names then ({ st with phase := .fresh }, [])
        else if isDefine names then ({ phase := .definition }, [])
        else if isDirective names then ({}, [])
        else readRule line rule := by
  have hprefix : Text.trimRight rest <+: rest := List.rdropWhile_prefix Text.isBlank rest
  have hhead : ∀ c, rest.head? ≠ some c → (Text.trimRight rest).head? ≠ some c := by
    intro c hne hsome
    obtain ⟨tail, htail⟩ := List.head?_eq_some_iff.1 hsome
    rw [htail] at hprefix
    obtain ⟨more, rfl⟩ := hprefix
    exact hne rfl
  unfold State.complete
  dsimp only
  rw [trim_rowHead h, isConditional_append_colon, isDefine_append_colon, isDirective_append_colon,
    isAssignment_eq_false h.row (hhead _ hcolon) (hhead _ hequals), Bool.false_or,
    if_neg Bool.false_ne_true, hrule]

/-! ## Rows on both sides -/

/-- A row of names, a colon and a row of prerequisites. -/
def rowLine (names needs : Text) : Text := names ++ ':' :: needs

/-- What a row of names and a row of prerequisites are read as. -/
def rowRule (names needs : Text) (inline : Option (Text × Nat)) : RuleLine :=
  { names := Text.words names
    doubleColon := false
    prerequisites := (Text.words needs).filter (· ≠ ['|'])
    assigns := false
    inline }

section

variable {names needs : Text} (hnames : IsRowHead names) (hneeds : IsRow needs)

include hneeds in
theorem head?_ne {c : Char} (hc : isRowChar c = false) : needs.head? ≠ some c :=
  fun h => hneeds.notMem hc (List.mem_of_head? h)

include hnames hneeds in
theorem ruleLine?_rowLine : ruleLine? (rowLine names needs) = some (rowRule names needs none) := by
  have hcolon : needs.head? ≠ some ':' := head?_ne hneeds (by decide)
  have hcut : Text.cut? ';' needs = none :=
    (Text.cut?_eq_none_iff _ _).2 (hneeds.notMem (by decide))
  have hequals : needs.contains '=' = false := by
    rw [List.contains_eq_mem]
    exact decide_eq_false (hneeds.notMem (by decide))
  rw [ruleLine?, rowLine, splitRule?_of_isRowHead hnames hcolon]
  dsimp only [Option.map_some]
  rw [hcut]
  dsimp only [Option.map_none, Option.getD_none]
  rw [Text.before_eq_self (hneeds.notMem (by decide)), hequals]
  rfl

include hnames hneeds in
theorem isContinued_rowLine : isContinued (rowLine names needs) = false := by
  refine isContinued_eq_false fun hmem => ?_
  rcases List.mem_append.1 hmem with hmem | hmem
  · exact hnames.row.notMem (by decide) hmem
  · exact hneeds.notMem (by decide) ((List.mem_cons.1 hmem).resolve_left (by decide))

end

/-! ## Plain rules -/

/-- A rule written plainly: a head, a colon, and a space in front of each prerequisite. -/
def ruleText (head : Text) (needs : List Text) : Text := head ++ ": " ++ Text.join " " needs

/-- What a plain rule is read as. -/
def plainRule (head : Text) (needs : List Text) : RuleLine :=
  { names := [head], doubleColon := false, prerequisites := needs, assigns := false
    inline := none }

theorem ruleText_eq (head : Text) (needs : List Text) :
    ruleText head needs = rowLine head (' ' :: Text.join " " needs) := by
  unfold ruleText
  rw [List.append_assoc]
  rfl

section

variable {head : Text} (hhead : IsHead head) {needs : List Text} (hneeds : ∀ p ∈ needs, IsName p)

include hneeds in
theorem isRow_needs : IsRow (' ' :: Text.join " " needs) := by
  intro c hc
  rw [isRowChar]
  rcases List.mem_cons.1 hc with rfl | hc
  · rfl
  · rcases Text.mem_join hc with rfl | ⟨p, hp, hc⟩
    · rfl
    · rw [(hneeds p hp).2 c hc]
      rfl

include hhead hneeds in
theorem rowRule_eq_plainRule :
    rowRule head (' ' :: Text.join " " needs) none = plainRule head needs := by
  have hwords : Text.words (' ' :: Text.join " " needs) = needs := by
    rw [Text.words_cons_of_blank rfl]
    exact Text.words_join_of_words fun p hp =>
      ⟨(hneeds p hp).1, fun c hc => isBlank_of_isNameChar ((hneeds p hp).2 c hc)⟩
  have hbars : needs.filter (· ≠ ['|']) = needs := by
    refine List.filter_eq_self.2 fun p hp => decide_eq_true ?_
    rintro rfl
    exact Bool.false_ne_true ((hneeds _ hp).2 '|' List.mem_cons_self)
  have hnames : Text.words head = [head] :=
    Text.words_of_not_blank hhead.1 fun c hc => hhead.not_blank hc
  rw [rowRule, hwords, hbars, hnames]
  rfl

include hhead hneeds in
/-- **A plain rule is read back.** -/
theorem ruleLine?_ruleText : ruleLine? (ruleText head needs) = some (plainRule head needs) := by
  rw [ruleText_eq, ruleLine?_rowLine hhead.isRowHead (isRow_needs hneeds),
    rowRule_eq_plainRule hhead hneeds]

include hhead in
theorem isConditional_ruleText (needs : List Text) :
    isConditional (Text.trim (ruleText head needs)) = isConditional head := by
  rw [ruleText_eq, rowLine, trim_rowHead hhead.isRowHead, isConditional_append_colon]

include hhead hneeds in
/-- **What becomes of a plain rule** is decided by its first word. -/
theorem complete_ruleText (st : State) (line : Nat) :
    st.complete line false (ruleText head needs)
      = if isConditional head then ({ st with phase := .fresh }, [])
        else if beginsKeyword ["define"] head then ({ phase := .definition }, [])
        else if isDirective head then ({}, [])
        else readRule line (plainRule head needs) := by
  have hrule := ruleLine?_ruleText hhead hneeds
  rw [ruleText_eq, rowLine] at hrule ⊢
  rw [complete_of_isRowHead hhead.isRowHead (by simp) (by simp) hrule, hhead.isDefine_eq]

include hhead hneeds in
theorem isContinued_ruleText : isContinued (ruleText head needs) = false := by
  rw [ruleText_eq]
  exact isContinued_rowLine hhead.isRowHead (isRow_needs hneeds)

include hhead hneeds in
theorem step_ruleText {st : State} (hst : st.phase = .fresh) (line : Nat) :
    step line (ruleText head needs) st = st.complete line false (ruleText head needs) := by
  rw [← line_eq_complete (isContinued_ruleText hhead hneeds), ruleText_eq]
  exact step_of_isRowHead hhead.isRowHead _ hst line

end

/-! ## A rule and its recipe line -/

/-- The items of a makefile of two lines. -/
theorem items_pair (l raw : Text) :
    items [l, raw] = (step 1 l {}).2 ++ (step 2 raw (step 1 l {}).1).2
      ++ (step 2 raw (step 1 l {}).1).1.finish := by
  rw [items_eq_itemsFrom, itemsFrom_cons, itemsFrom_cons, itemsFrom_nil, List.append_assoc]

section

variable {name : Text} (hname : IsName name) {needs : List Text} (hneeds : ∀ p ∈ needs, IsName p)
include hname hneeds

/-- A plain rule whose name begins with no keyword opens a rule. -/
theorem step_of_no_keyword (hkeyword : beginsKeyword lineKeywords name = false) :
    step 1 (ruleText name needs) {} = ({ inRule := true }, [.rule 1 (plainRule name needs)]) := by
  rw [beginsKeyword_lineKeywords, Bool.or_eq_false_iff, Bool.or_eq_false_iff] at hkeyword
  obtain ⟨hconditional, hdefine, hdirective⟩ := hkeyword
  have hspecial : isSpecialName name = false := by
    unfold isSpecialName
    split
    · exact absurd (hname.2 '.' List.mem_cons_self) (by decide)
    · rfl
  rw [step_ruleText hname.isHead hneeds rfl, complete_ruleText hname.isHead hneeds, hconditional,
    hdefine, hdirective]
  show readRule 1 (plainRule name needs) = _
  unfold readRule plainRule
  dsimp only
  rw [List.any_cons, List.any_nil, hspecial]
  rfl

/-- A plain rule whose name begins with a keyword is passed over. -/
theorem step_of_keyword (hkeyword : beginsKeyword lineKeywords name = true) :
    step 1 (ruleText name needs) {} = ({}, []) ∨
      step 1 (ruleText name needs) {} = ({ phase := .definition }, []) := by
  rw [step_ruleText hname.isHead hneeds rfl, complete_ruleText hname.isHead hneeds]
  rw [beginsKeyword_lineKeywords] at hkeyword
  cases hconditional : isConditional name with
  | true => exact .inl rfl
  | false =>
    cases hdefine : beginsKeyword ["define"] name with
    | true => exact .inr rfl
    | false =>
      rw [hconditional, hdefine, Bool.false_or, Bool.false_or] at hkeyword
      rw [hkeyword]
      exact .inl rfl

end

/-- **A plain rule and its recipe line are read as what they are**: one target, with this recipe,
and nothing is wrong. -/
structure IsReadAsRule (name : Text) (needs : List Text) (command : Text) : Prop where
  targets : (ofLines [ruleText name needs, '\t' :: command]).targets
    = [{ name, line := 1, prerequisites := needs,
         recipe := [{ text := Text.trim command, line := 2 }] }]
  faults : (ofLines [ruleText name needs, '\t' :: command]).faults = []

section

variable {name : Text} (hname : IsName name) {needs : List Text} (hneeds : ∀ p ∈ needs, IsName p)
variable (command : Text)
include hname hneeds

theorem isReadAsRule_of_no_keyword (hkeyword : beginsKeyword lineKeywords name = false) :
    IsReadAsRule name needs command := by
  have hitems : items [ruleText name needs, '\t' :: command]
      = [.rule 1 (plainRule name needs), .recipe 2 ('\t' :: command)] := by
    rw [items_pair, step_of_no_keyword hname hneeds hkeyword]
    show [_] ++ [_] ++ State.finish { phase := if _ then .recipe else .fresh, inRule := true } = _
    split <;> rfl
  have htrim : Text.trim ('\t' :: command) = Text.trim command := rfl
  constructor
  · unfold ofLines
    dsimp only
    rw [hitems, ← htrim]
    rfl
  · unfold ofLines
    dsimp only
    rw [hitems]
    rfl

theorem targets_eq_nil_of_keyword (hkeyword : beginsKeyword lineKeywords name = true) :
    (ofLines [ruleText name needs, '\t' :: command]).targets = [] := by
  unfold ofLines
  dsimp only
  rw [items_pair]
  rcases step_of_keyword hname hneeds hkeyword with hstep | hstep
  · -- the recipe line has no rule to belong to
    rw [hstep]
    show targetsOf ([] ++ (if _ then [] else [_]) ++ []) = []
    split <;> rfl
  · -- the recipe line is part of a definition
    rw [hstep]
    show targetsOf ([] ++ [] ++ State.finish { phase := if _ then .fresh else .definition }) = []
    split <;> rfl

end

/-- **Which plain rules are read as what they are**: those whose name does not begin with a keyword
and a hyphen. That the name itself is no keyword is taken for granted; about the command nothing has
to be known. -/
theorem isReadAsRule_iff {name : Text} (hname : IsName name) (hkeyword : name ∉ lineKeywords)
    {needs : List Text} (hneeds : ∀ p ∈ needs, IsName p) (command : Text) :
    IsReadAsRule name needs command ↔ ∀ k ∈ lineKeywords, ¬ (k ++ "-" : Text) <+: name := by
  have hbegins : beginsKeyword lineKeywords name = true ↔
      ∃ k ∈ lineKeywords, (k ++ "-" : Text) <+: name := by
    rw [beginsKeyword_iff_of_isName hname]
    refine exists_congr fun k => and_congr_right fun hk => or_iff_right ?_
    rintro rfl
    exact hkeyword hk
  constructor
  · intro hread k hk hprefix
    have hnone := targets_eq_nil_of_keyword hname hneeds command (hbegins.2 ⟨k, hk, hprefix⟩)
    rw [hread.targets] at hnone
    exact nomatch hnone
  · intro hfree
    refine isReadAsRule_of_no_keyword hname hneeds command (eq_false_of_ne_true fun h => ?_)
    obtain ⟨k, hk, hprefix⟩ := hbegins.1 h
    exact hfree k hk hprefix

/-- A name that begins with a keyword and goes on with letters. -/
theorem isReadAsRule_iff_of_longer_word :
    IsReadAsRule "exports-all" ["endif_x", "a-1"] " @echo done" := by
  have hneeds : ∀ p ∈ ([("endif_x" : Text), "a-1"]), IsName p := by decide
  have hfree : ∀ k ∈ lineKeywords, ¬ (k ++ "-" : Text) <+: "exports-all" := by decide
  exact (isReadAsRule_iff (by decide) (by decide) hneeds " @echo done").2 hfree

/-- A rule that is lost: its name begins with a directive. -/
theorem not_isReadAsRule_of_export :
    IsName "export-data" ∧ ("export-data" : Text) ∉ ("override" : Text) :: lineKeywords ∧
      IsName "dump" ∧ Text.trim "pg_dump app" ≠ [] ∧ Text.endsWith "pg_dump app" '\\' = false ∧
      ¬ IsReadAsRule "export-data" ["dump"] "pg_dump app" := by
  refine ⟨by decide, by decide, by decide, by decide, by decide, fun h => ?_⟩
  exact absurd h.faults (by decide)

end Makefile

end OpsLint

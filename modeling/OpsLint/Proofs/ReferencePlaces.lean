import OpsLint.Makefile.Rules
import OpsLint.Proofs.MakefileLayout
import OpsLint.Proofs.References

/-!
# Where references stand

A reference to a variable is reported with a line and a column. In a recipe line that stands by
itself, these are the place of its dollar sign (`PointsAt`). The recipe that follows a semicolon on
the line of its rule is another matter. Its references are counted in the text of the whole rule,
**continuations joined**, from the **first semicolon** on, and are given the number of the first
line. So there are two ways to go wrong:

* A semicolon stands in front of the colon, in the name of a target. Then all columns are off by the
  distance to the semicolon that begins the recipe (`slip`).
* The reference stands on a later line than the first. Joining leaves a line as it is up to the
  blanks and backslashes at its end (`stem`), and these are where all columns beyond it lead.

There are no others. Moved by the distance, a reference stands in its place if and only if this lies
within the stem of the line, and it does stand in its place if no semicolon is in front of the colon
and the line is not continued (`exists_placed`).
-/

namespace OpsLint.Makefile

/-! ## Pointing -/

/-- **A reference stands in a line at its column**: there is a dollar sign, followed by an opening
bracket and the name. -/
def PointsAt (l : Text) (ref : VariableRef) : Prop :=
  (1 ≤ ref.column ∧ ref.column ≤ l.length) ∧
    ∃ bracket ∈ ['(', '\x7b'], '$' :: bracket :: ref.name <+: l.drop (ref.column - 1)

instance (l : Text) (ref : VariableRef) : Decidable (PointsAt l ref) :=
  @instDecidableAnd _ _ instDecidableAnd (List.decidableBEx _ _)

theorem pointsAt_iff (l : Text) (ref : VariableRef) :
    PointsAt l ref ↔ ∃ before bracket after, l = before ++ '$' :: bracket :: (ref.name ++ after) ∧
      isOpening bracket = true ∧ ref.column = before.length + 1 := by
  have hbracket : ∀ c, c ∈ ['(', '\x7b'] ↔ isOpening c = true := by simp [isOpening]
  constructor
  · rintro ⟨⟨hpos, hle⟩, bracket, hopening, after, hafter⟩
    have hlength : (l.take (ref.column - 1)).length + 1 = ref.column := by
      rw [List.length_take_of_le (Nat.le_trans (Nat.sub_le _ _) hle)]
      exact Nat.sub_add_cancel hpos
    refine ⟨l.take (ref.column - 1), bracket, after, ?_, (hbracket bracket).1 hopening,
      hlength.symm⟩
    exact (List.take_append_drop (ref.column - 1) l).symm.trans (congrArg _ hafter.symm)
  · rintro ⟨before, bracket, after, rfl, hopening, hcolumn⟩
    refine ⟨?_, bracket, (hbracket bracket).2 hopening, after, ?_⟩
    · rw [hcolumn, List.length_append, List.length_cons]
      omega
    · rw [hcolumn, Nat.add_sub_cancel, List.drop_left]
      rfl

theorem exists_of_mem_variableRefs {text : Text} {line offset : Nat} {ref : VariableRef}
    (h : ref ∈ variableRefs text line offset) :
    ∃ before bracket after, text = before ++ '$' :: bracket :: (ref.name ++ after) ∧
      isOpening bracket = true ∧ Text.isKey ref.name = true ∧
      ref.column = offset + before.length + 1 := by
  obtain ⟨t, ht, rfl⟩ := List.mem_map.1 h
  obtain ⟨before, bracket, after, htext, hbracket, hname, hpos⟩ := exists_of_mem_refsFrom ht
  refine ⟨before, bracket, after, htext, hbracket, hname, ?_⟩
  show offset + t.1 + 1 = _
  rw [hpos, Nat.zero_add]

/-- A reference points at its place in a text, if what is before the text is counted right. -/
theorem pointsAt_append {front text : Text} {line : Nat} {ref : VariableRef}
    (h : ref ∈ variableRefs text line front.length) : PointsAt (front ++ text) ref := by
  obtain ⟨before, bracket, after, rfl, hbracket, -, hcolumn⟩ := exists_of_mem_variableRefs h
  refine (pointsAt_iff _ _).2 ⟨front ++ before, bracket, after, (List.append_assoc _ _ _).symm,
    hbracket, ?_⟩
  rw [hcolumn, List.length_append]

/-- A reference that is said to stand further to the right. -/
def VariableRef.moved (ref : VariableRef) (n : Nat) : VariableRef :=
  { ref with column := ref.column + n }

/-! ## The stem of a line -/

/-- A character that can be lost at the end of a line when the next one is joined to it. -/
def isTrailing (c : Char) : Bool := Text.isBlank c || c = '\\'

/-- A line without the blanks and backslashes at its end. -/
def stem (l : Text) : Text := l.rdropWhile isTrailing

theorem length_stem_append_le (kept : Text) {tail : Text}
    (h : ∀ c ∈ tail, isTrailing c = true) : (stem (kept ++ tail)).length ≤ kept.length := by
  have hdrop : stem (kept ++ tail) = stem kept := by
    unfold stem List.rdropWhile
    rw [List.reverse_append,
      List.dropWhile_append_of_pos fun c hc => h c (List.mem_reverse.1 hc)]
  rw [hdrop]
  exact (List.rdropWhile_prefix isTrailing kept).length_le

/-- What a reference points at is never lost. -/
theorem column_le_of_pointsAt {l : Text} {ref : VariableRef} (h : PointsAt l ref) :
    ref.column ≤ (stem l).length := by
  obtain ⟨before, bracket, after, hl, -, hcolumn⟩ := (pointsAt_iff _ _).1 h
  have hdollar : '$' ∉ l.rtakeWhile isTrailing := fun hmem =>
    Bool.false_ne_true (List.mem_rtakeWhile_imp hmem)
  have hsplit : before ++ '$' :: bracket :: (ref.name ++ after)
      = stem l ++ l.rtakeWhile isTrailing :=
    hl.symm.trans List.rdropWhile_append_rtakeWhile.symm
  rcases List.append_eq_append_iff.1 hsplit with ⟨more, hstem, hmore⟩ | ⟨more, -, hmore⟩
  · cases more with
    | nil =>
      rw [List.nil_append] at hmore
      exact absurd (hmore ▸ List.mem_cons_self) hdollar
    | cons c more =>
      rw [hcolumn, hstem, List.length_append, List.length_cons]
      exact Nat.add_le_add_left (Nat.le_add_left 1 _) _
  · exact absurd (hmore ▸ List.mem_append_right more List.mem_cons_self) hdollar

/-! ## Joined lines -/

/-- **What a text keeps of the line it begins with**: all of it but blanks and backslashes at the
end, and after this nothing or a blank. -/
def Continues (l text : Text) : Prop :=
  ∃ kept tail rest, l = kept ++ tail ∧ text = kept ++ rest ∧ (∀ c ∈ tail, isTrailing c = true) ∧
    ∀ c ∈ rest.head?, Text.isBlank c = true

theorem continues_self (l : Text) : Continues l l :=
  ⟨l, [], [], (List.append_nil l).symm, (List.append_nil l).symm, nofun, nofun⟩

/-- A continued text ends in a backslash and blanks. -/
theorem exists_blanks_of_isContinued {text : Text} (h : isContinued text = true) :
    ∃ blanks, text = withoutBackslash text ++ '\\' :: blanks ∧
      ∀ c ∈ blanks, Text.isBlank c = true := by
  have hlast : withoutBackslash text ++ ['\\'] = Text.trimRight text :=
    List.dropLast_append_getLast? _ (beq_iff_eq.1 h)
  refine ⟨text.rtakeWhile Text.isBlank, ?_, fun c hc => List.mem_rtakeWhile_imp hc⟩
  rw [List.append_cons, hlast]
  exact List.rdropWhile_append_rtakeWhile.symm

theorem Continues.joined {l text : Text} (h : Continues l text)
    (hcontinued : isContinued text = true) (raw : Text) : Continues l (joined text raw) := by
  obtain ⟨kept, tail, rest, hl, htext, htail, hrest⟩ := h
  obtain ⟨blanks, hblanks, hblank⟩ := exists_blanks_of_isContinued hcontinued
  have hjoined : Makefile.joined text raw = withoutBackslash text ++ ' ' :: Text.trim raw := by
    unfold Makefile.joined
    rw [List.append_assoc]
    rfl
  have htrailing : ∀ c ∈ '\\' :: blanks, isTrailing c = true := by
    refine List.forall_mem_cons.2 ⟨rfl, fun c hc => ?_⟩
    rw [isTrailing, hblank c hc]
    rfl
  rcases List.append_eq_append_iff.1 (htext.symm.trans hblanks) with
    ⟨more, hwithout, hmore⟩ | ⟨more, hkept, hmore⟩
  · -- the backslash is beyond what was kept, so as much is kept as before
    refine ⟨kept, tail, more ++ ' ' :: Text.trim raw, hl, ?_, htail, fun c hc => ?_⟩
    · rw [hjoined, hwithout, List.append_assoc]
    · cases more with
      | nil =>
        obtain rfl := Option.some.inj hc
        rfl
      | cons d more => exact hrest c (hmore ▸ hc)
  · -- the backslash was kept, and is lost now with the blanks after it
    refine ⟨withoutBackslash text, more ++ tail, ' ' :: Text.trim raw, ?_, hjoined, fun c hc => ?_,
      ?_⟩
    · rw [hl, hkept, List.append_assoc]
    · rcases List.mem_append.1 hc with hc | hc
      · exact htrailing c (hmore ▸ List.mem_append_left rest hc)
      · exact htail c hc
    · rintro c ⟨⟩
      rfl

/-- **A reference within the stem of a line is found in the line** if it is found in a text that
begins with it. For no blank is in it, so it cannot reach beyond what is kept. -/
theorem Continues.pointsAt {l text : Text} (h : Continues l text) {ref : VariableRef}
    (hname : Text.isKey ref.name = true) (hpoints : PointsAt text ref)
    (hcolumn : ref.column ≤ (stem l).length) : PointsAt l ref := by
  obtain ⟨kept, tail, rest, rfl, rfl, htail, hrest⟩ := h
  obtain ⟨before, bracket, after, htext, hbracket, hplace⟩ := (pointsAt_iff _ _).1 hpoints
  have hsolid : ∀ c ∈ '$' :: bracket :: ref.name, Text.isBlank c = false := by
    refine List.forall_mem_cons.2 ⟨rfl, List.forall_mem_cons.2
      ⟨not_isBlank_of_isOpening hbracket, fun c hc => ?_⟩⟩
    exact Text.isBlank_of_isKeyChar (Text.forall_isKeyChar hname c hc)
  have hlength : before.length < kept.length := by
    have hstem := length_stem_append_le kept htail
    omega
  obtain ⟨part, rfl⟩ : ∃ part, kept = before ++ part := by
    rcases List.append_eq_append_iff.1 htext with ⟨more, rfl, -⟩ | ⟨part, hkept, -⟩
    · rw [List.length_append] at hlength
      omega
    · exact ⟨part, hkept⟩
  have hpart : part ++ rest = ('$' :: bracket :: ref.name) ++ after := by
    rw [List.append_assoc] at htext
    exact List.append_cancel_left htext
  refine (pointsAt_iff _ _).2 ⟨before, bracket, ?_⟩
  rcases List.append_eq_append_iff.1 hpart with ⟨more, hmore, hrest'⟩ | ⟨more, rfl, -⟩
  · cases more with
    | nil =>
      rw [List.append_nil] at hmore
      exact ⟨tail, by rw [← hmore, List.append_assoc]; rfl, hbracket, hplace⟩
    | cons c more =>
      have hblank := hrest c (by rw [hrest']; rfl)
      rw [hsolid c (hmore ▸ List.mem_append_right part List.mem_cons_self)] at hblank
      exact absurd hblank Bool.false_ne_true
  · exact ⟨more ++ tail, by simp, hbracket, hplace⟩

/-! ## The line of a rule -/

/-- The line of a file with a number. -/
def IsLineOf (lines : List Text) (n : Nat) (l : Text) : Prop :=
  ∃ before, before ++ [l] <+: lines ∧ n = before.length + 1

theorem IsLineOf.append {lines : List Text} {n : Nat} {l : Text} (h : IsLineOf lines n l)
    (more : Text) : IsLineOf (lines ++ [more]) n l := by
  obtain ⟨before, hprefix, hn⟩ := h
  exact ⟨before, hprefix.trans (List.prefix_append lines [more]), hn⟩

theorem IsLineOf.getElem? {lines : List Text} {n : Nat} {l : Text} (h : IsLineOf lines n l) :
    1 ≤ n ∧ lines[n - 1]? = some l := by
  obtain ⟨before, ⟨rest, rfl⟩, rfl⟩ := h
  refine ⟨Nat.le_add_left 1 _, ?_⟩
  rw [Nat.add_sub_cancel, List.append_assoc, List.getElem?_append_right (Nat.le_refl _),
    Nat.sub_self]
  rfl

/-- A text that is not part of a recipe has been read from the line with a number on. -/
structure ReadFrom (lines : List Text) (n : Nat) (text l : Text) : Prop where
  line : IsLineOf lines n l
  noTab : l.head? ≠ some '\t'
  whole : isContinued l = false → text = l
  continues : Continues l text

theorem ReadFrom.append {lines : List Text} {n : Nat} {text l : Text} (h : ReadFrom lines n text l)
    (more : Text) : ReadFrom (lines ++ [more]) n text l :=
  { h with line := h.line.append more }

/-- A text that is to be continued is, and has been read from some line on. -/
def OpenFrom (lines : List Text) (st : State) : Prop :=
  ∀ first indented text, st.phase = .continued first indented text →
    isContinued text = true ∧ ∃ l, ReadFrom lines first text l

theorem exists_readFrom_of_gives {lines : List Text} {st : State} (hst : OpenFrom lines st)
    {raw text : Text} {first : Nat} {indented : Bool}
    (h : st.phase.Gives (lines.length + 1) raw first indented text) :
    ∃ l, ReadFrom (lines ++ [raw]) first text l := by
  cases h with
  | itself _ htab =>
    exact ⟨raw, ⟨lines, List.prefix_rfl, rfl⟩, htab, fun _ => rfl, continues_self raw⟩
  | joined h =>
    obtain ⟨hcontinued, l, hl⟩ := hst _ _ _ h
    refine ⟨l, hl.line.append raw, hl.noTab, fun hwhole => ?_, hl.continues.joined hcontinued raw⟩
    rw [hl.whole hwhole, hwhole] at hcontinued
    exact absurd hcontinued Bool.false_ne_true

/-- What a rule among the items has been read from. -/
def Item.ReadFromLine (lines : List Text) : Item → Prop
  | .rule n r => ∃ text l, ReadFrom lines n text l ∧ ruleLine? text = some r
  | _ => True

theorem Item.ReadFromLine.append {lines : List Text} {item : Item} (h : item.ReadFromLine lines)
    (more : Text) : item.ReadFromLine (lines ++ [more]) := by
  cases item with
  | rule n rule =>
    obtain ⟨text, l, hl, hrule⟩ := h
    exact ⟨text, l, hl.append more, hrule⟩
  | recipe n raw => trivial
  | phony names => trivial
  | fault n problem => trivial

theorem readFromLine_of_completes {lines : List Text} {st : State} {first : Nat} {indented : Bool}
    {text l : Text} {r : State × List Item} (h : Completes st first indented text r)
    (hl : ReadFrom lines first text l) : ∀ item ∈ r.2, item.ReadFromLine lines := by
  cases h with
  | conditional => exact nofun
  | definition => exact nofun
  | passed => exact nofun
  | phony => exact List.forall_mem_singleton.2 trivial
  | rule _ hrule => exact List.forall_mem_singleton.2 ⟨text, l, hl, hrule⟩
  | fault => exact List.forall_mem_singleton.2 trivial

theorem openFrom_of_phase {lines : List Text} {st : State}
    (h : ∀ first indented text, st.phase ≠ .continued first indented text) : OpenFrom lines st :=
  fun first indented text hphase => absurd hphase (h first indented text)

theorem openFrom_step {lines : List Text} {st : State} (hst : OpenFrom lines st) (raw : Text) :
    OpenFrom (lines ++ [raw]) (step (lines.length + 1) raw st).1 := by
  have hfresh : ∀ {st' : State}, st'.phase = .fresh → OpenFrom (lines ++ [raw]) st' :=
    fun h => openFrom_of_phase fun _ _ _ => by rw [h]; exact nofun
  have hreads := reads_step (lines.length + 1) raw st
  generalize step (lines.length + 1) raw st = r at hreads
  cases hreads with
  | skipped => exact openFrom_of_phase nofun
  | endsDefinition => exact hfresh rfl
  | recipe =>
    refine openFrom_of_phase fun _ _ _ => ?_
    dsimp only
    split
    · exact nofun
    · exact nofun
  | ignored h => exact hfresh h
  | strayRecipe h => exact hfresh h
  | spacesForTab h => exact hfresh h
  | continued hgives h =>
    rintro first indented text ⟨⟩
    exact ⟨h, exists_readFrom_of_gives hst hgives⟩
  | completed _ _ hr =>
    cases hr with
    | conditional => exact hfresh rfl
    | definition => exact openFrom_of_phase nofun
    | passed => exact hfresh rfl
    | phony => exact hfresh rfl
    | rule => exact hfresh rfl
    | fault => exact hfresh rfl

theorem readFromLine_step {lines : List Text} {st : State} (hst : OpenFrom lines st) (raw : Text) :
    ∀ item ∈ (step (lines.length + 1) raw st).2, item.ReadFromLine (lines ++ [raw]) := by
  have hreads := reads_step (lines.length + 1) raw st
  generalize step (lines.length + 1) raw st = r at hreads
  cases hreads with
  | skipped => exact nofun
  | endsDefinition => exact nofun
  | recipe => exact List.forall_mem_singleton.2 trivial
  | ignored => exact nofun
  | strayRecipe => exact List.forall_mem_singleton.2 trivial
  | spacesForTab => exact List.forall_mem_singleton.2 trivial
  | continued => exact nofun
  | completed hgives _ hr =>
    obtain ⟨l, hl⟩ := exists_readFrom_of_gives hst hgives
    exact readFromLine_of_completes hr hl

/-- **Every rule has been read from its line on.** -/
theorem exists_readFrom_of_rule {lines : List Text} {n : Nat} {rule : RuleLine}
    (h : .rule n rule ∈ items lines) :
    ∃ text l, ReadFrom lines n text l ∧ ruleLine? text = some rule := by
  obtain ⟨hopen, hread⟩ := Reading.forall_ofLines step {} OpenFrom Item.ReadFromLine nofun
    (fun lines l item h => h.append l) (fun lines l st hst => openFrom_step hst l)
    (fun lines l st hst => readFromLine_step hst l) lines
  rcases List.mem_append.1 h with h | h
  · exact hread _ h
  · unfold State.finish at h
    split at h
    · rename_i first indented text hphase
      obtain ⟨-, l, hl⟩ := hopen _ _ _ hphase
      exact readFromLine_of_completes (completes_complete _ _ _ _) hl _ h
    · exact nomatch h

/-! ## Recipes on the line of their rule -/

/-- The number of characters before the recipe on the line of a rule: it begins at the first
semicolon **after the first colon**. -/
def recipeStart (l : Text) : Nat :=
  match Text.cut? ':' l with
  | some (names, rest) => names.length + (Text.before ';' rest).length + 1
  | none => l.length

/-- How far the columns are off if they are counted from the first semicolon of a line. -/
def slip (l : Text) : Nat := recipeStart l - (Text.before ';' l).length

theorem recipeStart_eq {names between : Text} (hnames : ':' ∉ names) (hbetween : ';' ∉ between)
    (recipe : Text) :
    recipeStart (names ++ ':' :: between ++ ';' :: recipe) = (names ++ ':' :: between).length := by
  have hcut := (Text.cut?_eq_some_iff ':' (names ++ ':' :: (between ++ ';' :: recipe)) _ _).2
    ⟨rfl, hnames⟩
  rw [recipeStart, List.append_assoc, List.cons_append, hcut]
  dsimp only
  rw [Text.before_append_cons hbetween, List.length_append, List.length_cons, Nat.add_assoc]

/-- Without a semicolon after its first colon, a line holds no recipe. -/
theorem recipeStart_eq_length {l : Text}
    (h : ∀ names rest, l = names ++ ':' :: rest → ':' ∉ names → ';' ∉ rest) :
    recipeStart l = l.length := by
  unfold recipeStart
  split
  · rename_i names rest hcut
    obtain ⟨rfl, hnames⟩ := (Text.cut?_eq_some_iff _ _ _ _).1 hcut
    rw [Text.before_eq_self (h names rest rfl hnames), List.length_append, List.length_cons,
      Nat.add_assoc]
  · rfl

theorem slip_eq_zero {l : Text} (h : ';' ∉ Text.before ':' l) : slip l = 0 := by
  refine Nat.sub_eq_zero_of_le ?_
  unfold recipeStart
  split
  · rename_i names rest hcut
    obtain ⟨rfl, hnames⟩ := (Text.cut?_eq_some_iff _ _ _ _).1 hcut
    rw [Text.before_append_cons hnames] at h
    rw [Text.before_append_of_notMem h, List.length_append, Nat.add_assoc]
    exact Nat.le_refl _
  · rename_i hcut
    rw [Text.before_eq_self ((Text.cut?_eq_none_iff _ _).1 hcut)] at h
    rw [Text.before_eq_self h]

/-- **What a rule takes for its recipe**, and how many characters it says to be before it. -/
theorem exists_of_inline {text recipe : Text} {rule : RuleLine} {offset : Nat}
    (h : ruleLine? text = some rule) (hinline : rule.inline = some (recipe, offset)) :
    ∃ names between, text = names ++ ':' :: between ++ ';' :: recipe ∧ ':' ∉ names ∧
      ';' ∉ between ∧ offset = (Text.before ';' text).length + 1 := by
  obtain ⟨⟨names, doubleColon, rest⟩, hsplit, rfl⟩ := Option.map_eq_some_iff.1 h
  obtain ⟨htext, -, hplain, -⟩ := (splitRule?_eq_some_iff _ _ _ _).1 hsplit
  obtain ⟨⟨between, recipe'⟩, hcut, hpair⟩ := Option.map_eq_some_iff.1 hinline
  obtain ⟨rfl, rfl⟩ := Prod.mk.inj hpair
  obtain ⟨rfl, hbetween⟩ := (Text.cut?_eq_some_iff _ _ _ _).1 hcut
  have hnames : ':' ∉ names := fun hmem => Bool.false_ne_true (hplain ':' hmem).symm
  cases doubleColon with
  | true =>
    refine ⟨names, ':' :: between, ?_, hnames, fun hmem => ?_, rfl⟩
    · rw [htext, List.append_assoc]
      rfl
    · exact hbetween ((List.mem_cons.1 hmem).resolve_left (by decide))
  | false =>
    refine ⟨names, between, ?_, hnames, hbetween, rfl⟩
    rw [htext, List.append_assoc]
    rfl

theorem not_isTrailing_mem {tail : Text} (h : ∀ c ∈ tail, isTrailing c = true) {c : Char}
    (hc : isTrailing c = false) : c ∉ tail := fun hmem => by
  rw [h c hmem] at hc
  exact Bool.false_ne_true hc.symm

/-- A line that goes as far as the semicolon at most holds no recipe. -/
theorem recipeStart_eq_length_of_append {names between kept more tail : Text}
    (hnames : ':' ∉ names) (hbetween : ';' ∉ between)
    (hfront : names ++ ':' :: between = kept ++ more)
    (htail : ∀ c ∈ tail, isTrailing c = true) :
    recipeStart (kept ++ tail) = (kept ++ tail).length := by
  refine recipeStart_eq_length fun names' rest hsplit hnames' hsemicolon => ?_
  rcases List.append_eq_append_iff.1 hsplit with ⟨part, -, hpart⟩ | ⟨part, hkept, hpart⟩
  · -- the colon is not in the blanks and backslashes at the end
    exact not_isTrailing_mem htail (c := ':') rfl (hpart ▸ by simp)
  · cases part with
    | nil =>
      rw [List.nil_append] at hpart
      exact not_isTrailing_mem htail (c := ':') rfl (hpart ▸ List.mem_cons_self)
    | cons colon part =>
      obtain ⟨rfl, rfl⟩ := List.cons.inj hpart
      have hcut := (Text.cut?_eq_some_iff ':' (kept ++ more) names between).2 ⟨hfront.symm, hnames⟩
      rw [(Text.cut?_eq_some_iff ':' (kept ++ more) names' (part ++ more)).2
        ⟨by rw [hkept]; simp, hnames'⟩] at hcut
      obtain ⟨-, rfl⟩ := Prod.mk.inj (Option.some.inj hcut)
      rcases List.mem_append.1 hsemicolon with hmem | hmem
      · exact hbetween (List.mem_append_left more hmem)
      · exact not_isTrailing_mem htail (c := ';') rfl hmem

/-- **Where the first line of a rule says that the recipe begins**: where it does, or at the end of
the line. -/
theorem recipeStart_append {names between recipe kept tail rest : Text} (hnames : ':' ∉ names)
    (hbetween : ';' ∉ between) (htext : kept ++ rest = names ++ ':' :: between ++ ';' :: recipe)
    (htail : ∀ c ∈ tail, isTrailing c = true) :
    ';' ∈ kept ∧ recipeStart (kept ++ tail) = recipeStart (kept ++ rest) ∨
      recipeStart (kept ++ tail) = (kept ++ tail).length := by
  rcases List.append_eq_append_iff.1 htext with ⟨more, hfront, -⟩ | ⟨part, hkept, hpart⟩
  · exact .inr (recipeStart_eq_length_of_append hnames hbetween hfront htail)
  · cases part with
    | nil =>
      exact .inr (recipeStart_eq_length_of_append hnames hbetween
        (by rw [hkept, List.append_assoc, List.nil_append, List.append_nil]) htail)
    | cons semicolon part =>
      obtain ⟨rfl, rfl⟩ := List.cons.inj hpart
      have hline : ∀ t, kept ++ t = names ++ ':' :: between ++ ';' :: (part ++ t) :=
        fun t => by rw [hkept, List.append_assoc]; rfl
      refine .inl ⟨by simp [hkept], ?_⟩
      rw [hline, hline, recipeStart_eq hnames hbetween, recipeStart_eq hnames hbetween]

/-- **The first line of a rule knows how far its columns are off**, unless they are not its own. -/
theorem slip_of_continues {l text names between recipe : Text} (h : Continues l text)
    (htext : text = names ++ ':' :: between ++ ';' :: recipe) (hnames : ':' ∉ names)
    (hbetween : ';' ∉ between) {column : Nat} (hcolumn : (Text.before ';' text).length < column)
    (hstem : column + slip l ≤ (stem l).length) : slip l = slip text := by
  obtain ⟨kept, tail, rest, rfl, rfl, htail, -⟩ := h
  have hkept := length_stem_append_le kept htail
  have hsemicolon : ';' ∈ kept := by
    by_contra hnot
    rw [Text.before_append_of_notMem hnot, List.length_append] at hcolumn
    omega
  have hbefore : Text.before ';' (kept ++ tail) = Text.before ';' (kept ++ rest) := by
    rw [Text.before_append_of_mem hsemicolon, Text.before_append_of_mem hsemicolon]
  rcases recipeStart_append hnames hbetween htext htail with ⟨-, hstart⟩ | hstart
  · rw [slip, slip, hstart, hbefore]
  · -- then the columns lead beyond the end of the line
    rw [slip, hstart, hbefore, List.length_append] at hstem
    omega

theorem length_before_append_cons_le (sep : Char) (s t : Text) :
    (Text.before sep (s ++ sep :: t)).length ≤ s.length := by
  by_cases h : sep ∈ s
  · rw [Text.before_append_of_mem h]
    exact (List.takeWhile_prefix _).length_le
  · rw [Text.before_append_cons h]

/-- **A reference on the line of a rule**, moved by as much as its column is off, stands in the text
of the rule. -/
theorem pointsAt_moved_of_rule {n : Nat} {text : Text} {rule : RuleLine}
    (hrule : ruleLine? text = some rule) {ref : VariableRef} (h : ref ∈ Item.refs (.rule n rule)) :
    PointsAt text (ref.moved (slip text)) ∧ Text.isKey ref.name = true ∧
      ∃ names between recipe, text = names ++ ':' :: between ++ ';' :: recipe ∧ ':' ∉ names ∧
        ';' ∉ between ∧ (Text.before ';' text).length < ref.column := by
  unfold Item.refs at h
  dsimp only at h
  split at h
  · rename_i recipe offset hinline
    split at h
    · exact nomatch h
    · obtain ⟨names, between, htext, hnames, hbetween, hoffset⟩ := exists_of_inline hrule hinline
      obtain ⟨before, bracket, after, hrecipe, hbracket, hname, hcolumn⟩ :=
        exists_of_mem_variableRefs h
      have hstart := recipeStart_eq hnames hbetween recipe
      have hle := length_before_append_cons_le ';' (names ++ ':' :: between) recipe
      rw [← htext] at hstart hle
      refine ⟨(pointsAt_iff _ _).2 ⟨names ++ ':' :: between ++ ';' :: before, bracket, after, ?_,
        hbracket, ?_⟩, hname, names, between, recipe, htext, hnames, hbetween, by omega⟩
      · rw [List.append_assoc _ (';' :: before), List.cons_append]
        exact htext.trans (congrArg (_ ++ ';' :: ·) hrecipe)
      · have hlength : (names ++ ':' :: between ++ ';' :: before).length
            = (names ++ ':' :: between).length + (before.length + 1) := List.length_append
        show ref.column + slip text = _
        rw [slip, hstart, hlength]
        omega
  · exact nomatch h

/-! ## Every reference -/

/-- Where a reference of a makefile stands, in the line that it is said to be on. -/
structure Placed (lines : List Text) (m : Makefile) (ref : VariableRef) (l : Text) : Prop where
  line : 1 ≤ ref.line ∧ lines[ref.line - 1]? = some l
  ofRecipe : (∀ t ∈ m.targets, t.line ≠ ref.line) → PointsAt l ref
  ofRule : (∃ t ∈ m.targets, t.line = ref.line) →
    (PointsAt l (ref.moved (slip l)) ↔ ref.column + slip l ≤ (stem l).length)
  ofWhole : ';' ∉ Text.before ':' l → isContinued l = false → PointsAt l ref

theorem placed_of_recipe {lines : List Text} {n : Nat} {raw : Text} {ref : VariableRef}
    (h : .recipe n raw ∈ items lines) (href : ref ∈ variableRefs raw n 0) :
    Placed lines (ofLines lines) ref raw := by
  have hline : ref.line = n := line_of_mem_variableRefs href
  have hpoints : PointsAt ([] ++ raw) ref := pointsAt_append href
  obtain ⟨before, hprefix, hn, -⟩ : IsRecipeLine lines n raw := sound_of_mem_items h
  constructor
  case line =>
    rw [hline]
    exact IsLineOf.getElem? ⟨before, hprefix, hn⟩
  case ofRecipe => exact fun _ => hpoints
  case ofRule =>
    rintro ⟨t, ht, htarget⟩
    obtain ⟨rule, hrule⟩ := exists_rule_of_mem_targetsOf ht
    rw [htarget, hline] at hrule
    exact nomatch eq_of_mem_lineNumbers (pairwise_items lines) h hrule (List.mem_singleton_self n)
      (List.mem_singleton_self n)
  case ofWhole => exact fun _ _ => hpoints

theorem exists_placed_of_rule {lines : List Text} {n : Nat} {rule : RuleLine} {ref : VariableRef}
    (h : .rule n rule ∈ items lines) (href : ref ∈ Item.refs (.rule n rule)) :
    ∃ l, Placed lines (ofLines lines) ref l := by
  obtain ⟨text, l, hl, hrule⟩ := exists_readFrom_of_rule h
  obtain ⟨hpoints, hname, names, between, recipe, htext, hnames, hbetween, hcolumn⟩ :=
    pointsAt_moved_of_rule hrule href
  have hline : ref.line = n := List.mem_singleton.1 (line_mem_of_mem_refs href)
  refine ⟨l, ?_⟩
  constructor
  case line =>
    rw [hline]
    exact hl.line.getElem?
  case ofRecipe =>
    intro hnone
    obtain ⟨t, ht, htarget, -⟩ := exists_target_of_rule h (sound_of_mem_items h)
    exact absurd (htarget.trans hline.symm) (hnone t ht)
  case ofRule =>
    refine fun _ => ⟨column_le_of_pointsAt, fun hstem => ?_⟩
    have hslip := slip_of_continues hl.continues htext hnames hbetween hcolumn hstem
    rw [← hslip] at hpoints
    exact hl.continues.pointsAt hname hpoints hstem
  case ofWhole =>
    intro hsemicolon hwhole
    rw [hl.whole hwhole, slip_eq_zero hsemicolon] at hpoints
    exact hpoints

/-- How a variable is reported. -/
def unquotedMessage (name : Text) : Text :=
  "Variable '$(" ++ name ++ ")' is unquoted in an rm command"

/-- What is reported about a reference. -/
def unquotedVariable (ref : VariableRef) : Finding :=
  { line := ref.line, column := ref.column, message := unquotedMessage ref.name }

/-- **Where the references of a makefile stand**, and that what is reported about them is reported
there. -/
theorem exists_placed (lines : List Text) :
    (∀ ref ∈ (ofLines lines).refs, ∃ l, Placed lines (ofLines lines) ref l) ∧
      ∀ f ∈ unquotedVariables (ofLines lines), ∃ ref ∈ (ofLines lines).refs,
        f = unquotedVariable ref := by
  constructor
  · intro ref href
    obtain ⟨item, hitem, href⟩ := List.mem_flatMap.1 href
    cases item with
    | rule n rule => exact exists_placed_of_rule hitem href
    | recipe n raw => exact ⟨raw, placed_of_recipe hitem href⟩
    | phony names => exact nomatch href
    | fault n problem => exact nomatch href
  · intro f hf
    obtain ⟨ref, href, rfl⟩ := List.mem_map.1 hf
    exact ⟨ref, (List.mem_filter.1 href).1, rfl⟩

/-- Three references on lines of rules: one in its place, one that stands on the next line, and one
whose column is off by four. -/
theorem exists_placed_of_rules :
    let lines : List Text := ["clean: ; rm $(A) \\", "\t$(B)", "x;y: ; rm $(C)"]
    let a : VariableRef := ⟨"A", false, 1, 13⟩
    let b : VariableRef := ⟨"B", false, 1, 19⟩
    let c : VariableRef := ⟨"C", false, 3, 7⟩
    (ofLines lines).refs = [a, b, c] ∧ PointsAt "clean: ; rm $(A) \\" a ∧
      ¬ PointsAt "clean: ; rm $(A) \\" b ∧ PointsAt "x;y: ; rm $(C)" (c.moved 4) ∧
      unquotedVariable c ∈ unquotedVariables (ofLines lines) := by
  intro lines a b c
  have hrefs : (ofLines lines).refs = [a, b, c] := by decide +kernel
  have htargets : ∀ ref ∈ [a, b, c], ∃ t ∈ (ofLines lines).targets, t.line = ref.line := by
    decide +kernel
  obtain ⟨hplaced, hreported⟩ := exists_placed lines
  rw [hrefs] at hplaced
  have hiff : ∀ ref ∈ [a, b, c], ∀ l, lines[ref.line - 1]? = some l →
      (PointsAt l (ref.moved (slip l)) ↔ ref.column + slip l ≤ (stem l).length) := by
    intro ref href l hl
    obtain ⟨l', hl'⟩ := hplaced ref href
    rw [hl'.line.2] at hl
    rw [← Option.some.inj hl]
    exact hl'.ofRule (htargets ref href)
  refine ⟨hrefs, ?_, ?_, ?_, by decide +kernel⟩
  · exact (hiff a (by simp) "clean: ; rm $(A) \\" rfl).2 (by decide +kernel)
  · exact fun h => absurd ((hiff b (by simp) "clean: ; rm $(A) \\" rfl).1 h) (by decide +kernel)
  · exact (hiff c (by simp) "x;y: ; rm $(C)" rfl).2 (by decide +kernel)

/-- A reference on a line that continues a rule, and one after a target with a semicolon in its
name: neither stands where it is said to be. -/
theorem exists_not_pointsAt :
    (∃ ref ∈ (ofLines ["clean: ; rm -rf \\", "\t$(BUILD)"]).refs,
        ref.line = 1 ∧ ¬ PointsAt "clean: ; rm -rf \\" ref) ∧
      ∃ ref ∈ (ofLines ["a;b: ; rm $(X)"]).refs,
        ref.line = 1 ∧ ¬ PointsAt "a;b: ; rm $(X)" ref := by
  decide +kernel

end OpsLint.Makefile

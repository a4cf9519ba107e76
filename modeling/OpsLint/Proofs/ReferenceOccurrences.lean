import Mathlib.Algebra.Group.Nat.Even
import Mathlib.Data.List.DropRight
import OpsLint.Proofs.References

/-!
# Which references are found

A dollar sign with a name in brackets can **occur** anywhere in a text (`Occurrence`). To make it is
a **reference** if the dollar sign is not escaped, so that an even number of others stands right in
front of it, and the brackets are of one form (`Occurrence.IsReference`).

The scanner is content with less in one respect and asks for more in two. It takes any closing
bracket; but there must be no dollar sign at all in front, and after an occurrence it goes on behind
it, so that what begins within is passed over. All this is told without the scanner by
`Occurrence.IsOutermost`, because occurrences that overlap have the same closing bracket
(`Occurrence.stop_eq_of_covers`): what is covered by an occurrence that is passed over is covered by
one that is found too.

So the references in a text are found exactly (`ReadsReferences`) in the texts where the two notions
agree (`IsClear`).
-/

namespace OpsLint.Makefile

/-- **A dollar sign with a name in brackets**, and the texts around it. -/
structure Occurrence (s : Text) where
  before : Text
  bracket : Char
  name : Text
  substitution : Text
  closing : Char
  after : Text
  split : s = before ++ '$' :: bracket :: (name ++ (substitution ++ closing :: after))
  opens : isOpening bracket = true
  named : Text.isKey name = true
  substitutes : IsSubstitution substitution
  closes : isClosing closing = true

/-- The number of dollar signs at the end of a text. -/
def trailingDollars (s : Text) : Nat := (s.rtakeWhile (· = '$')).length

namespace Occurrence

variable {s : Text}

/-- The number of characters after the dollar sign, up to the closing bracket, included. -/
def size (o : Occurrence s) : Nat := o.name.length + o.substitution.length + 2

/-- The position behind the closing bracket. -/
def stop (o : Occurrence s) : Nat := o.before.length + 1 + o.size

/-- An occurrence as it is listed: its column counts from one, after `offset` other characters. -/
def ref (o : Occurrence s) (line offset : Nat) : VariableRef where
  name := o.name
  quoted := endsInQuote o.before
  line := line
  column := offset + o.before.length + 1

/-- The brackets are of one form. -/
def IsPaired (o : Occurrence s) : Prop :=
  o.bracket = '(' ∧ o.closing = ')' ∨ o.bracket = '\x7b' ∧ o.closing = '\x7d'

/-- **A reference to a variable**, as make understands it. -/
structure IsReference (o : Occurrence s) : Prop where
  unescaped : Even (trailingDollars o.before)
  paired : o.IsPaired

/-- There is no dollar sign in front of this one. -/
def IsLone (o : Occurrence s) : Prop := o.before.getLast? ≠ some '$'

/-- The second occurrence begins within the first. -/
def Covers (o o' : Occurrence s) : Prop :=
  o.before.length < o'.before.length ∧ o'.before.length < o.stop

/-- **An occurrence that is found**: a lone one that does not begin within another lone one. -/
structure IsOutermost (o : Occurrence s) : Prop where
  lone : o.IsLone
  uncovered : ∀ o' : Occurrence s, o'.IsLone → ¬ o'.Covers o

/-! ## Occurrences in one text -/

theorem bracketedName?_drop (o : Occurrence s) :
    bracketedName? (s.drop (o.before.length + 1)) = some (o.name, o.size) := by
  have hdrop : s.drop (o.before.length + 1)
      = o.bracket :: (o.name ++ (o.substitution ++ o.closing :: o.after)) :=
    (congrArg (List.drop (o.before.length + 1)) o.split).trans (by simp)
  exact (bracketedName?_eq_some_iff _ _ _).2 ⟨o.bracket, o.substitution, o.closing, o.after, hdrop,
    o.opens, o.named, o.substitutes, o.closes, rfl⟩

theorem length_lt (o : Occurrence s) : o.before.length < s.length := by
  have hlength := congrArg List.length o.split
  rw [List.length_append, List.length_cons] at hlength
  omega

theorem before_eq_take (o : Occurrence s) : o.before = s.take o.before.length :=
  ((congrArg (List.take o.before.length) o.split).trans List.take_left).symm

/-- **There is one occurrence at a position.** -/
theorem eq_of_length_eq {o o' : Occurrence s} (h : o.before.length = o'.before.length) :
    o = o' := by
  obtain ⟨hbefore, hrest⟩ := List.append_inj (o.split.symm.trans o'.split) h
  have hname := o'.bracketedName?_drop
  rw [← h, o.bracketedName?_drop] at hname
  obtain ⟨hname, hsize⟩ := Prod.mk.inj (Option.some.inj hname)
  have hlength : o.substitution.length = o'.substitution.length := by
    unfold size at hsize
    rw [hname] at hsize
    omega
  obtain ⟨-, hrest⟩ := List.cons.inj hrest
  obtain ⟨hbracket, hrest⟩ := List.cons.inj hrest
  obtain ⟨-, hrest⟩ := List.append_inj hrest (congrArg List.length hname)
  obtain ⟨hsubstitution, hrest⟩ := List.append_inj hrest hlength
  obtain ⟨hclosing, hafter⟩ := List.cons.inj hrest
  cases o
  cases o'
  simp_all

/-- The closing bracket of an occurrence is the first one after its dollar sign. -/
theorem exists_inside (o : Occurrence s) :
    ∃ inside, s = o.before ++ (inside ++ o.closing :: o.after) ∧
      (∀ c ∈ inside, isClosing c = false) ∧ o.stop = o.before.length + inside.length + 1 := by
  refine ⟨'$' :: o.bracket :: (o.name ++ o.substitution), ?_, ?_, ?_⟩
  · simpa using o.split
  · have hname : ∀ c ∈ o.name, isClosing c = false := fun c hc =>
      eq_false_of_ne_true fun hclosing => Bool.false_ne_true <|
        (not_isKeyChar_of_isClosing hclosing).symm.trans (Text.forall_isKeyChar o.named c hc)
    exact List.forall_mem_cons.2 ⟨rfl, List.forall_mem_cons.2
      ⟨not_isClosing_of_isOpening o.opens,
        List.forall_mem_append.2 ⟨hname, o.substitutes.forall_not_isClosing⟩⟩⟩
  · simp only [stop, size, List.length_cons, List.length_append]
    omega

/-- **Occurrences that overlap have the same closing bracket.** -/
theorem stop_eq_of_covers {o o' : Occurrence s} (h : o.Covers o') : o'.stop = o.stop := by
  obtain ⟨hbegin, hwithin⟩ := h
  obtain ⟨inside, hsplit, hinside, hstop⟩ := o.exists_inside
  obtain ⟨inside', hsplit', hinside', hstop'⟩ := o'.exists_inside
  rw [hstop] at hwithin ⊢
  rw [hstop']
  obtain ⟨gap, hgap, hrest⟩ | ⟨gap, hgap, -⟩ :=
    List.append_eq_append_iff.1 (hsplit.symm.trans hsplit')
  · rw [hgap, List.length_append] at hwithin ⊢
    -- what is left of the first after the gap, and the second, both end at the first bracket
    obtain ⟨left, rfl⟩ : gap <+: inside :=
      List.prefix_of_prefix_length_le ⟨_, hrest.symm⟩ (List.prefix_append _ _) (by omega)
    rw [List.append_assoc] at hrest
    have hsame := congrArg (List.takeWhile (!isClosing ·)) (List.append_cancel_left hrest)
    rw [takeWhile_append_closing (List.forall_mem_append.1 hinside).2 o.closes,
      takeWhile_append_closing hinside' o'.closes] at hsame
    rw [hsame, List.length_append]
    omega
  · rw [hgap, List.length_append] at hbegin
    omega

end Occurrence

/-! ## The scan -/

/-- Some occurrences are all those with a property, from left to right. -/
structure AreAll {s : Text} (P : Occurrence s → Prop) (os : List (Occurrence s)) : Prop where
  ordered : os.Pairwise fun o o' => o.before.length < o'.before.length
  mem_iff : ∀ o, o ∈ os ↔ P o

/-- Where no occurrence with the property begins, the next position is as good. -/
theorem AreAll.of_succ {s : Text} {P : Occurrence s → Prop} {os : List (Occurrence s)} {n : Nat}
    (h : AreAll (fun o => P o ∧ n + 1 ≤ o.before.length) os)
    (hn : ∀ o, P o → o.before.length ≠ n) :
    AreAll (fun o => P o ∧ n ≤ o.before.length) os := by
  refine ⟨h.ordered, fun o => (h.mem_iff o).trans (and_congr_right fun ho => ?_)⟩
  have hne := hn o ho
  omega

theorem AreAll.cons {s : Text} {P : Occurrence s → Prop} {os : List (Occurrence s)}
    {o : Occurrence s} (h : AreAll (fun o' => P o' ∧ o.before.length + 1 ≤ o'.before.length) os)
    (ho : P o) : AreAll (fun o' => P o' ∧ o.before.length ≤ o'.before.length) (o :: os) := by
  refine ⟨List.pairwise_cons.2 ⟨fun o' ho' => ((h.mem_iff o').1 ho').2, h.ordered⟩, fun o' => ?_⟩
  rw [List.mem_cons, h.mem_iff]
  constructor
  · rintro (rfl | ⟨ho', hle⟩)
    · exact ⟨ho, Nat.le_refl _⟩
    · exact ⟨ho', Nat.le_of_succ_le hle⟩
  · rintro ⟨ho', hle⟩
    by_cases hsame : o'.before.length = o.before.length
    · exact .inl (Occurrence.eq_of_length_eq hsame)
    · exact .inr ⟨ho', by omega⟩

/-- **How far the lone occurrences reach** that begin before a position. -/
def Reaches (s : Text) (n skip : Nat) : Prop :=
  ∀ i, n ≤ i →
    ((∃ o : Occurrence s, o.IsLone ∧ o.before.length < n ∧ i < o.stop) ↔ i < n + skip)

theorem reaches_zero (s : Text) : Reaches s 0 0 := by
  intro i _
  constructor
  · rintro ⟨o, -, hlt, -⟩
    exact absurd hlt (Nat.not_lt_zero _)
  · intro hlt
    omega

/-- What begins at a position is covered if and only if the reach goes beyond it. -/
theorem Reaches.covered_iff {s : Text} {n skip : Nat} (h : Reaches s n skip) {o : Occurrence s}
    (hn : o.before.length = n) :
    (∃ o' : Occurrence s, o'.IsLone ∧ o'.Covers o) ↔ skip ≠ 0 := by
  have hreach := h n (Nat.le_refl n)
  unfold Occurrence.Covers
  rw [hn, hreach]
  omega

/-- **The occurrence that a scan meets** at a character. -/
theorem refAt?_eq_some_iff {s seen rest : Text} {c : Char} (hs : s = seen ++ c :: rest)
    (skip : Nat) (t : Text × Nat) :
    refAt? seen.getLast? skip c rest = some t ↔
      skip = 0 ∧ ∃ o : Occurrence s, o.before = seen ∧ o.IsLone ∧ (o.name, o.size) = t := by
  unfold refAt?
  constructor
  · intro h
    split at h
    · rename_i hc
      obtain ⟨name, size⟩ := t
      obtain ⟨hskip, rfl, hlast⟩ := hc
      obtain ⟨bracket, substitution, closing, after, rfl, hbracket, hname, hsub, hclosing, rfl⟩ :=
        (bracketedName?_eq_some_iff rest name size).1 h
      exact ⟨hskip, ⟨seen, bracket, name, substitution, closing, after, hs, hbracket, hname, hsub,
        hclosing⟩, rfl, hlast, rfl⟩
    · exact nomatch h
  · rintro ⟨hskip, o, rfl, hlone, rfl⟩
    obtain ⟨rfl, -⟩ := List.cons.inj (List.append_cancel_left (hs.symm.trans o.split))
    have hrest : s.drop (o.before.length + 1) = rest :=
      (congrArg (List.drop (o.before.length + 1)) hs).trans (by simp)
    rw [if_pos ⟨hskip, rfl, hlone⟩, ← hrest]
    exact o.bracketedName?_drop

/-- Behind an occurrence that has been found, the reach is its own. -/
theorem Reaches.of_found {s : Text} {o : Occurrence s} (h : Reaches s o.before.length 0)
    (hlone : o.IsLone) : Reaches s (o.before.length + 1) o.size := by
  intro i hi
  constructor
  · rintro ⟨o', hlone', hlt, hstop⟩
    by_cases hsame : o'.before.length = o.before.length
    · rw [Occurrence.eq_of_length_eq hsame] at hstop
      exact hstop
    · have hbelow := (h i (Nat.le_of_succ_le hi)).1 ⟨o', hlone', by omega, hstop⟩
      omega
  · intro hlt
    exact ⟨o, hlone, Nat.lt_succ_self _, hlt⟩

/-- Where nothing is found, the reach stays what it was: what begins within another occurrence ends
with it. -/
theorem Reaches.of_not_found {s : Text} {n skip : Nat} (h : Reaches s n skip)
    (hnone : ∀ o : Occurrence s, o.before.length = n → o.IsLone → skip ≠ 0) :
    Reaches s (n + 1) (skip - 1) := by
  intro i hi
  have hreach := h i (Nat.le_of_succ_le hi)
  constructor
  · rintro ⟨o, hlone, hlt, hstop⟩
    have hbelow : i < n + skip := by
      by_cases hn : o.before.length = n
      · obtain ⟨o', hlone', hcovers⟩ := (h.covered_iff hn).2 (hnone o hn hlone)
        rw [Occurrence.stop_eq_of_covers hcovers] at hstop
        exact hreach.1 ⟨o', hlone', hn ▸ hcovers.1, hstop⟩
      · exact hreach.1 ⟨o, hlone, by omega, hstop⟩
    omega
  · intro hlt
    obtain ⟨o, hlone, hbegin, hstop⟩ := hreach.2 (by omega)
    exact ⟨o, hlone, Nat.lt_succ_of_lt hbegin, hstop⟩

/-- **A scan finds the outermost occurrences** that it has not passed. The induction is on the text
to come; what the scan skips of it is what the occurrences behind reach. -/
theorem exists_refsFrom {s seen rest : Text} (hs : s = seen ++ rest) {skip : Nat}
    (hreach : Reaches s seen.length skip) :
    ∃ os : List (Occurrence s),
      AreAll (fun o => o.IsOutermost ∧ seen.length ≤ o.before.length) os ∧
      refsFrom (seen.foldl QuoteScan.read {}) seen.getLast? seen.length skip rest
        = os.map fun o => (o.before.length, o.name, endsInQuote o.before) := by
  induction rest generalizing seen skip with
  | nil =>
    refine ⟨[], ⟨List.Pairwise.nil, fun o => ?_⟩, rfl⟩
    have hlength : s.length = seen.length := by rw [hs, List.append_nil]
    have hlt := hlength ▸ o.length_lt
    exact ⟨fun h => absurd h List.not_mem_nil, fun h => absurd h.2 (Nat.not_le_of_lt hlt)⟩
  | cons c rest ih =>
    have hnext : s = (seen ++ [c]) ++ rest := hs.trans (List.append_cons seen c rest)
    have hlength : (seen ++ [c]).length = seen.length + 1 := List.length_append
    have hlast : (seen ++ [c]).getLast? = some c := List.getLast?_concat
    have hscan : (seen ++ [c]).foldl QuoteScan.read {}
        = (seen.foldl QuoteScan.read {}).read c := List.foldl_append
    rw [refsFrom_cons]
    cases hfound : refAt? seen.getLast? skip c rest with
    | none =>
      have hnone : ∀ o : Occurrence s, o.before.length = seen.length → o.IsLone → skip ≠ 0 := by
        intro o hn hlone hskip
        have hbefore := (List.append_inj (o.split.symm.trans hs) hn).1
        have hsome := (refAt?_eq_some_iff hs skip _).2 ⟨hskip, o, hbefore, hlone, rfl⟩
        rw [hfound] at hsome
        exact nomatch hsome
      have hreach' := hreach.of_not_found hnone
      rw [← hlength] at hreach'
      obtain ⟨os, hos, hrefs⟩ := ih hnext hreach'
      rw [hscan, hlast, hlength] at hrefs
      rw [hlength] at hos
      refine ⟨os, hos.of_succ fun o houter hn => ?_, hrefs⟩
      -- a lone occurrence at this very character is covered
      obtain ⟨o', hlone', hcovers⟩ := (hreach.covered_iff hn).2 (hnone o hn houter.lone)
      exact houter.uncovered o' hlone' hcovers
    | some t =>
      obtain ⟨rfl, o, rfl, hlone, rfl⟩ := (refAt?_eq_some_iff hs skip t).1 hfound
      have houter : o.IsOutermost :=
        ⟨hlone, fun o' hlone' hcovers => (hreach.covered_iff rfl).1 ⟨o', hlone', hcovers⟩ rfl⟩
      have hreach' := hreach.of_found hlone
      rw [← hlength] at hreach'
      obtain ⟨os, hos, hrefs⟩ := ih hnext hreach'
      rw [hscan, hlast, hlength] at hrefs
      rw [hlength] at hos
      exact ⟨o :: os, hos.cons houter, congrArg (_ :: ·) hrefs⟩

/-! ## References listed -/

/-- References are listed for the occurrences with a property, from left to right. -/
def Lists {s : Text} (P : Occurrence s → Prop) (line offset : Nat) (refs : List VariableRef) :
    Prop :=
  ∃ os, AreAll P os ∧ refs = os.map (·.ref line offset)

theorem lists_isOutermost (s : Text) (line offset : Nat) :
    Lists (s := s) Occurrence.IsOutermost line offset (variableRefs s line offset) := by
  obtain ⟨os, hos, hrefs⟩ := exists_refsFrom (List.nil_append s).symm (reaches_zero s)
  refine ⟨os, ⟨hos.ordered, fun o => (hos.mem_iff o).trans (and_iff_left (Nat.zero_le _))⟩, ?_⟩
  have hrefs : refsFrom {} none 0 0 s = _ := hrefs
  rw [variableRefs, hrefs, List.map_map]
  rfl

theorem Occurrence.ref_injective {s : Text} (line offset : Nat) :
    Function.Injective fun o : Occurrence s => o.ref line offset := by
  intro o o' h
  have hcolumn : offset + o.before.length + 1 = offset + o'.before.length + 1 :=
    congrArg VariableRef.column h
  exact eq_of_length_eq (by omega)

section

variable {s : Text} {P Q : Occurrence s → Prop} {line offset : Nat} {refs : List VariableRef}

theorem Lists.ref_mem_iff (h : Lists P line offset refs) (o : Occurrence s) :
    o.ref line offset ∈ refs ↔ P o := by
  obtain ⟨os, hos, rfl⟩ := h
  exact (List.mem_map_of_injective (Occurrence.ref_injective line offset)).trans (hos.mem_iff o)

/-- **What is listed tells the property.** -/
theorem Lists.iff_of_lists (hQ : Lists Q line offset refs) :
    Lists P line offset refs ↔ ∀ o, P o ↔ Q o := by
  constructor
  · intro hP o
    exact (hP.ref_mem_iff o).symm.trans (hQ.ref_mem_iff o)
  · intro h
    obtain ⟨os, hos, hrefs⟩ := hQ
    exact ⟨os, ⟨hos.ordered, fun o => (hos.mem_iff o).trans (h o).symm⟩, hrefs⟩

end

/-- **The references of a text are listed**, all of them and nothing else. -/
def ReadsReferences (s : Text) (line offset : Nat) : Prop :=
  Lists (s := s) Occurrence.IsReference line offset (variableRefs s line offset)

/-- **A text in which make and the scanner agree.** -/
structure IsClear (s : Text) : Prop where
  /-- No reference follows an escaped dollar sign. -/
  lone : ∀ o : Occurrence s, o.IsReference → o.IsLone
  /-- No reference begins within an occurrence that is read. -/
  uncovered : ∀ o o' : Occurrence s, o.IsReference → o'.IsLone → ¬ o'.Covers o
  /-- The brackets match wherever the scanner reads them. -/
  paired : ∀ o : Occurrence s, o.IsOutermost → o.IsPaired

theorem Occurrence.IsLone.even_trailingDollars {s : Text} {o : Occurrence s} (h : o.IsLone) :
    Even (trailingDollars o.before) := by
  have hnil : o.before.rtakeWhile (· = '$') = [] := by
    refine List.rtakeWhile_eq_nil_iff.2 fun hne hlast => h ?_
    rw [List.getLast?_eq_some_getLast hne, of_decide_eq_true hlast]
  rw [trailingDollars, hnil]
  exact Even.zero

theorem isClear_iff (s : Text) :
    IsClear s ↔ ∀ o : Occurrence s, o.IsReference ↔ o.IsOutermost := by
  constructor
  · rintro ⟨hlone, huncovered, hpaired⟩ o
    exact ⟨fun h => ⟨hlone o h, fun o' => huncovered o o' h⟩,
      fun h => ⟨h.lone.even_trailingDollars, hpaired o h⟩⟩
  · intro h
    exact ⟨fun o ho => ((h o).1 ho).lone, fun o o' ho => ((h o).1 ho).uncovered o',
      fun o ho => ((h o).2 ho).paired⟩

/-- **Which references are found.** In every text these are the outermost occurrences, and they are
the references of the text if and only if it is clear. -/
theorem readsReferences_iff (s : Text) (line offset : Nat) :
    Lists (s := s) Occurrence.IsOutermost line offset (variableRefs s line offset) ∧
      (ReadsReferences s line offset ↔ IsClear s) := by
  have hfound := lists_isOutermost s line offset
  exact ⟨hfound, hfound.iff_of_lists.trans (isClear_iff s).symm⟩

/-- An escaped dollar sign, and a reference with a substitution between quotes. -/
theorem readsReferences_of_quotation :
    ReadsReferences "$$(A) \"$\x7bB:x\x7d\"" 3 2 ∧
      variableRefs "$$(A) \"$\x7bB:x\x7d\"" 3 2 = [⟨"B", true, 3, 10⟩] := by
  have hplace : ∀ n < 14,
      (bracketedName? (("$$(A) \"$\x7bB:x\x7d\"" : Text).drop (n + 1))).isSome = true →
        n = 1 ∨ n = 7 := by
    decide
  -- there are two occurrences, and the first dollar sign escapes the second
  have hall : ∀ o : Occurrence "$$(A) \"$\x7bB:x\x7d\"", o.before = "$" ∨
      o = ⟨"$$(A) \"", '\x7b', "B", ":x", '\x7d', "\"", rfl, rfl, rfl,
        .inr ⟨_, rfl, List.forall_mem_singleton.2 rfl⟩, rfl⟩ := by
    intro o
    refine (hplace _ o.length_lt (congrArg Option.isSome o.bracketedName?_drop)).imp ?_ ?_
    · intro hone
      have hbefore := o.before_eq_take
      rwa [hone] at hbefore
    · intro hseven
      exact Occurrence.eq_of_length_eq hseven
  have hlone : ∀ o : Occurrence "$$(A) \"$\x7bB:x\x7d\"", o.before = "$" → ¬ o.IsLone :=
    fun o hbefore h => h (congrArg List.getLast? hbefore)
  refine ⟨(readsReferences_iff _ 3 2).2.2 ⟨fun o ho => ?_, fun o o' ho ho' hcovers => ?_,
    fun o ho => ?_⟩, by decide⟩
  · obtain hbefore | rfl := hall o
    · exact absurd (hbefore ▸ ho.unescaped) (by decide)
    · exact (by decide : (("$$(A) \"" : Text).getLast? ≠ some '$'))
  · obtain hbefore | rfl := hall o'
    · exact hlone o' hbefore ho'
    · obtain hbefore | rfl := hall o
      · exact absurd (hbefore ▸ ho.unescaped) (by decide)
      · exact Nat.lt_irrefl _ hcovers.1
  · obtain hbefore | rfl := hall o
    · exact absurd ho.lone (hlone o hbefore)
    · exact .inr ⟨rfl, rfl⟩

/-- A reference behind an escaped dollar sign is missed, and so is one in the substitution of
another; brackets that do not match are taken for a reference. -/
theorem not_readsReferences :
    ¬ ReadsReferences "$$$(X)" 1 0 ∧ ¬ ReadsReferences "$(X\x7d" 1 0 ∧
      ¬ ReadsReferences "$(A:$(B))" 1 0 := by
  refine ⟨fun h => ?_, fun h => ?_, fun h => ?_⟩
  · have hmem := (h.ref_mem_iff ⟨"$$", '(', "X", [], ')', [], rfl, rfl, rfl, .inl rfl, rfl⟩).2
      ⟨by decide, .inl ⟨rfl, rfl⟩⟩
    exact absurd hmem (by decide)
  · have hreference := (h.ref_mem_iff
      ⟨[], '(', "X", [], '\x7d', [], rfl, rfl, rfl, .inl rfl, rfl⟩).1 (by decide)
    have hpaired := hreference.paired
    unfold Occurrence.IsPaired at hpaired
    exact absurd hpaired (by decide)
  · have hmem := (h.ref_mem_iff
      ⟨"$(A:", '(', "B", [], ')', ")", rfl, rfl, rfl, .inl rfl, rfl⟩).2
      ⟨by decide, .inl ⟨rfl, rfl⟩⟩
    exact absurd hmem (by decide)

end OpsLint.Makefile

import OpsLint.Makefile.Reference
import OpsLint.Proofs.Characters

/-!
# References to variables in a text

What follows the dollar sign of a reference is known by its form: a bracket, a name, maybe a colon
and a substitution, and the first closing bracket after these (`bracketedName?_eq_some_iff`). So a
reference that has been found can be pointed at (`exists_of_mem_refsFrom`).

A text can be read in two parts. The references of the whole are those of the first part and then
those of the second (`refsFrom_append`), if the second part begins with a blank and the first does
not end **within** a reference: within its substitution, since nothing else of a reference can hold
a blank (`LeavesOpen`). The quotation that the first part ends in goes on in the second.
-/

namespace OpsLint

theorem Text.takeKey?_eq_some_iff (s key rest : Text) :
    takeKey? s = some (key, rest) ↔
      s = key ++ rest ∧ isKey key = true ∧ ∀ c ∈ rest.head?, isKeyChar c = false := by
  constructor
  · intro h
    cases s with
    | nil => exact nomatch h
    | cons c s =>
      rw [takeKey?] at h
      split at h
      · rename_i hc
        obtain ⟨rfl, rfl⟩ := Prod.mk.inj (Option.some.inj h)
        refine ⟨?_, ?_, fun d hd => ?_⟩
        · rw [List.cons_append, List.takeWhile_append_dropWhile]
        · exact Bool.and_eq_true_iff.2
            ⟨hc, List.all_eq_true.2 fun d hd => List.mem_takeWhile_imp hd⟩
        · have hhead := List.head?_dropWhile_not isKeyChar s
          rw [Option.mem_def.1 hd] at hhead
          exact hhead
      · exact nomatch h
  · rintro ⟨rfl, hkey, hrest⟩
    cases key with
    | nil => exact absurd hkey Bool.false_ne_true
    | cons c key =>
      have hc := (Bool.and_eq_true_iff.1 hkey).1
      have htake := takeWhile_key_append hkey hrest
      rw [List.cons_append, List.takeWhile_cons_of_pos (isKeyChar_of_isIdentStart hc)] at htake
      have htake := (List.cons.inj htake).2
      have hdrop := List.takeWhile_append_dropWhile (p := isKeyChar) (l := key ++ rest)
      rw [htake] at hdrop
      rw [List.cons_append, takeKey?, if_pos hc, htake, List.append_cancel_left hdrop]

/-- A key ends where a blank follows. -/
theorem Text.takeKey?_append (s : Text) {t : Text} (ht : ∀ c ∈ t.head?, isBlank c = true) :
    takeKey? (s ++ t) = (takeKey? s).map fun k => (k.1, k.2 ++ t) := by
  cases hkey : takeKey? s with
  | some k =>
    obtain ⟨key, rest⟩ := k
    obtain ⟨rfl, hkey, hrest⟩ := (takeKey?_eq_some_iff _ _ _).1 hkey
    refine (takeKey?_eq_some_iff _ _ _).2 ⟨List.append_assoc _ _ _, hkey, fun c hc => ?_⟩
    cases rest with
    | nil => exact isKeyChar_of_isBlank (ht c hc)
    | cons d rest => exact hrest c hc
  | none =>
    have hstart : ∀ c s, isIdentStart c = false → takeKey? (c :: s) = none :=
      fun c s hc => if_neg (ne_true_of_eq_false hc)
    cases s with
    | cons c s =>
      rw [takeKey?] at hkey
      split at hkey
      · exact nomatch hkey
      · rename_i hc
        exact hstart c (s ++ t) (eq_false_of_ne_true hc)
    | nil =>
      cases t with
      | nil => rfl
      | cons c t =>
        refine hstart c t (eq_false_of_ne_true fun hc => ?_)
        have hblank := isBlank_of_isKeyChar (isKeyChar_of_isIdentStart hc)
        rw [ht c rfl] at hblank
        exact Bool.false_ne_true hblank.symm

namespace Makefile

/-! ## One reference -/

/-- An opening bracket of either form. -/
def isOpening (c : Char) : Bool := c = '(' || c = '\x7b'

/-- What can stand between the name of a reference and the closing bracket. -/
def IsSubstitution (s : Text) : Prop :=
  s = [] ∨ ∃ more, s = ':' :: more ∧ ∀ c ∈ more, isClosing c = false

theorem not_isKeyChar_of_isClosing {c : Char} (h : isClosing c = true) :
    Text.isKeyChar c = false := by
  rw [isClosing, Bool.or_eq_true, decide_eq_true_eq, decide_eq_true_eq] at h
  obtain rfl | rfl := h <;> rfl

theorem not_isBlank_of_isClosing {c : Char} (h : isClosing c = true) : Text.isBlank c = false := by
  rw [isClosing, Bool.or_eq_true, decide_eq_true_eq, decide_eq_true_eq] at h
  obtain rfl | rfl := h <;> rfl

theorem not_isBlank_of_isOpening {c : Char} (h : isOpening c = true) : Text.isBlank c = false := by
  rw [isOpening, Bool.or_eq_true, decide_eq_true_eq, decide_eq_true_eq] at h
  obtain rfl | rfl := h <;> rfl

theorem not_isClosing_of_isOpening {c : Char} (h : isOpening c = true) : isClosing c = false := by
  rw [isOpening, Bool.or_eq_true, decide_eq_true_eq, decide_eq_true_eq] at h
  obtain rfl | rfl := h <;> rfl

theorem IsSubstitution.forall_not_isClosing {s : Text} (h : IsSubstitution s) :
    ∀ c ∈ s, isClosing c = false := by
  obtain rfl | ⟨more, rfl, hmore⟩ := h
  · exact List.forall_mem_nil _
  · exact List.forall_mem_cons.2 ⟨rfl, hmore⟩

/-- A text ends at the first closing bracket if there is none in it. -/
theorem takeWhile_append_closing {s : Text} (h : ∀ c ∈ s, isClosing c = false) {closing : Char}
    (hclosing : isClosing closing = true) (after : Text) :
    (s ++ closing :: after).takeWhile (!isClosing ·) = s := by
  rw [List.takeWhile_append_of_pos fun c hc => by rw [h c hc]; rfl,
    List.takeWhile_cons_of_neg (by rw [hclosing]; exact Bool.false_ne_true), List.append_nil]

/-- How many characters stand before the closing bracket, if it comes right away or after a
substitution. -/
def substitutionSize? : Text → Option Nat
  | ':' :: more =>
    let substitution := more.takeWhile (!isClosing ·)
    if substitution.length < more.length then some (substitution.length + 1) else none
  | c :: _ => if isClosing c then some 0 else none
  | [] => none

theorem bracketedName?_cons (bracket : Char) (inside : Text) :
    bracketedName? (bracket :: inside)
      = if isOpening bracket then
          (Text.takeKey? inside).bind fun t =>
            (substitutionSize? t.2).map fun size => (t.1, t.1.length + size + 2)
        else none := by
  rw [bracketedName?, isOpening]
  split
  · refine congrArg (Option.bind _) (funext fun t => ?_)
    obtain ⟨name, rest⟩ := t
    dsimp only
    split
    · rw [substitutionSize?]
      split <;> rfl
    · rename_i hcolon
      rw [substitutionSize?]
      · split <;> rfl
      · exact hcolon
    · rfl
  · rfl

theorem substitutionSize?_eq_some_iff (s : Text) (size : Nat) :
    substitutionSize? s = some size ↔
      ∃ substitution closing after, s = substitution ++ closing :: after ∧
        IsSubstitution substitution ∧ isClosing closing = true ∧ size = substitution.length := by
  constructor
  · intro h
    unfold substitutionSize? at h
    split at h
    · rename_i more
      dsimp only at h
      split at h
      · rename_i hlength
        have hsplit := List.takeWhile_append_dropWhile (p := (!isClosing ·)) (l := more)
        have hhead := List.head?_dropWhile_not (!isClosing ·) more
        cases hdrop : more.dropWhile (!isClosing ·) with
        | nil =>
          rw [hdrop, List.append_nil] at hsplit
          rw [hsplit] at hlength
          exact absurd hlength (Nat.lt_irrefl _)
        | cons closing after =>
          rw [hdrop] at hsplit hhead
          refine ⟨':' :: more.takeWhile (!isClosing ·), closing, after, ?_, .inr ⟨_, rfl, ?_⟩, ?_,
            (Option.some.inj h).symm⟩
          · rw [List.cons_append, hsplit]
          · exact fun c hc => by simpa using List.mem_takeWhile_imp hc
          · simpa using hhead
      · exact nomatch h
    · rename_i c after _
      split at h
      · rename_i hclosing
        exact ⟨[], c, after, rfl, .inl rfl, hclosing, (Option.some.inj h).symm⟩
      · exact nomatch h
    · exact nomatch h
  · rintro ⟨substitution, closing, after, rfl, rfl | ⟨more, rfl, hmore⟩, hclosing, rfl⟩
    · rw [isClosing, Bool.or_eq_true, decide_eq_true_eq, decide_eq_true_eq] at hclosing
      obtain rfl | rfl := hclosing <;> rfl
    · rw [List.cons_append, substitutionSize?, takeWhile_append_closing hmore hclosing]
      exact if_pos (by simp)

/-- **The form of what follows a dollar sign.** -/
theorem bracketedName?_eq_some_iff (s name : Text) (size : Nat) :
    bracketedName? s = some (name, size) ↔
      ∃ bracket substitution closing after,
        s = bracket :: (name ++ (substitution ++ closing :: after)) ∧ isOpening bracket = true ∧
        Text.isKey name = true ∧ IsSubstitution substitution ∧ isClosing closing = true ∧
        size = name.length + substitution.length + 2 := by
  constructor
  · intro h
    cases s with
    | nil => exact nomatch h
    | cons bracket inside =>
      rw [bracketedName?_cons] at h
      split at h
      · rename_i hbracket
        obtain ⟨⟨key, rest⟩, hkey, h⟩ := Option.bind_eq_some_iff.1 h
        obtain ⟨n, hn, h⟩ := Option.map_eq_some_iff.1 h
        obtain ⟨rfl, rfl⟩ := Prod.mk.inj h
        obtain ⟨rfl, hname, -⟩ := (Text.takeKey?_eq_some_iff _ _ _).1 hkey
        obtain ⟨substitution, closing, after, rfl, hsub, hclosing, rfl⟩ :=
          (substitutionSize?_eq_some_iff _ _).1 hn
        exact ⟨bracket, substitution, closing, after, rfl, hbracket, hname, hsub, hclosing, rfl⟩
      · exact nomatch h
  · rintro ⟨bracket, substitution, closing, after, rfl, hbracket, hname, hsub, hclosing, rfl⟩
    have hrest : ∀ c ∈ (substitution ++ closing :: after).head?, Text.isKeyChar c = false := by
      obtain rfl | ⟨more, rfl, -⟩ := hsub
      · rintro c ⟨⟩
        exact not_isKeyChar_of_isClosing hclosing
      · rintro c ⟨⟩
        rfl
    have hkey := (Text.takeKey?_eq_some_iff _ _ _).2 ⟨rfl, hname, hrest⟩
    have hsize := (substitutionSize?_eq_some_iff _ _).2
      ⟨substitution, closing, after, rfl, hsub, hclosing, rfl⟩
    rw [bracketedName?_cons, if_pos hbracket, hkey, Option.bind_some]
    dsimp only
    rw [hsize]
    rfl

/-- A name and a colon in brackets, with a substitution that is not closed. -/
def BeginsOpen (s : Text) : Prop :=
  ∃ bracket name more, s = bracket :: (name ++ ':' :: more) ∧ isOpening bracket = true ∧
    Text.isKey name = true ∧ ∀ c ∈ more, isClosing c = false

theorem substitutionSize?_append {s t : Text} (ht : ∀ c ∈ t.head?, Text.isBlank c = true)
    (hopen : ∀ more, s = ':' :: more → ∃ c ∈ more, isClosing c = true) :
    substitutionSize? (s ++ t) = substitutionSize? s := by
  cases s with
  | nil =>
    cases t with
    | nil => rfl
    | cons c t =>
      have hblank := ht c rfl
      rw [List.nil_append, substitutionSize?]
      · refine if_neg fun hclosing => ?_
        rw [not_isBlank_of_isClosing hclosing] at hblank
        exact Bool.false_ne_true hblank
      · rintro rfl
        exact Bool.false_ne_true hblank
  | cons c s =>
    by_cases hc : c = ':'
    · obtain rfl := hc
      obtain ⟨d, hd, hclosing⟩ := hopen s rfl
      have hlength : (s.takeWhile (!isClosing ·)).length < s.length := by
        refine Nat.lt_of_le_of_ne (List.takeWhile_prefix _).length_le fun heq => ?_
        have hall := List.takeWhile_eq_self_iff.1 ((List.takeWhile_prefix _).eq_of_length heq) d hd
        rw [hclosing] at hall
        exact Bool.false_ne_true hall
      rw [List.cons_append, substitutionSize?, substitutionSize?, List.takeWhile_append,
        if_neg (Nat.ne_of_lt hlength), if_pos hlength,
        if_pos (Nat.lt_of_lt_of_le hlength (List.sublist_append_left s t).length_le)]
    · rw [List.cons_append, substitutionSize?, substitutionSize?]
      · exact hc
      · exact hc

/-- **A blank ends no reference and begins none**, unless a substitution is open. -/
theorem bracketedName?_append {s t : Text} (ht : ∀ c ∈ t.head?, Text.isBlank c = true)
    (hopen : ¬ BeginsOpen s) : bracketedName? (s ++ t) = bracketedName? s := by
  cases s with
  | nil =>
    cases t with
    | nil => rfl
    | cons c t =>
      rw [List.nil_append, bracketedName?_cons]
      refine if_neg fun hopening => ?_
      have hblank := ht c rfl
      rw [not_isBlank_of_isOpening hopening] at hblank
      exact Bool.false_ne_true hblank
  | cons bracket inside =>
    rw [List.cons_append, bracketedName?_cons, bracketedName?_cons, Text.takeKey?_append _ ht]
    split
    · rename_i hbracket
      cases hkey : Text.takeKey? inside with
      | none => rfl
      | some k =>
        obtain ⟨name, rest⟩ := k
        obtain ⟨rfl, hname, -⟩ := (Text.takeKey?_eq_some_iff _ _ _).1 hkey
        rw [Option.map_some, Option.bind_some, Option.bind_some]
        dsimp only
        rw [substitutionSize?_append ht]
        rintro more rfl
        by_contra hnone
        refine hopen ⟨bracket, name, more, rfl, hbracket, hname, fun c hc => ?_⟩
        exact eq_false_of_ne_true fun hclosing => hnone ⟨c, hc, hclosing⟩
    · rfl

/-! ## All references -/

/-- The reference that begins with a character: a dollar sign that is not skipped and not the second
of two. -/
def refAt? (last : Option Char) (skip : Nat) (c : Char) (s : Text) : Option (Text × Nat) :=
  if skip = 0 ∧ c = '$' ∧ last ≠ some '$' then bracketedName? s else none

theorem refsFrom_cons (scan : QuoteScan) (last : Option Char) (pos skip : Nat) (c : Char)
    (s : Text) :
    refsFrom scan last pos skip (c :: s)
      = ((refAt? last skip c s).map fun t => (pos, t.1, scan.quote.isSome)).toList
        ++ refsFrom (scan.read c) (some c) (pos + 1)
          (((refAt? last skip c s).map Prod.snd).getD (skip - 1)) s := by
  rw [refsFrom, refAt?]
  by_cases hskip : skip = 0
  · obtain rfl := hskip
    by_cases hc : c = '$' ∧ last ≠ some '$'
    · rw [if_neg (by simp), if_pos (by simpa using hc), if_pos ⟨rfl, hc⟩]
      cases bracketedName? s <;> rfl
    · rw [if_neg (by simp), if_neg (by simpa using hc), if_neg fun h => hc h.2]
      rfl
  · rw [if_pos hskip, if_neg fun h => hskip h.1]
    rfl

/-- **A reference that has been found stands where it is said to be.** -/
theorem exists_of_mem_refsFrom {scan : QuoteScan} {last : Option Char} {pos skip : Nat} {s : Text}
    {t : Nat × Text × Bool} (h : t ∈ refsFrom scan last pos skip s) :
    ∃ before bracket after, s = before ++ '$' :: bracket :: (t.2.1 ++ after) ∧
      isOpening bracket = true ∧ Text.isKey t.2.1 = true ∧ t.1 = pos + before.length := by
  induction s generalizing scan last pos skip with
  | nil => exact nomatch h
  | cons c s ih =>
    rw [refsFrom_cons] at h
    rcases List.mem_append.1 h with h | h
    · obtain ⟨⟨name, size⟩, hfound, rfl⟩ := Option.map_eq_some_iff.1 (Option.mem_toList.1 h)
      rw [refAt?] at hfound
      split at hfound
      · rename_i hc
        obtain ⟨bracket, substitution, closing, after, rfl, hbracket, hname, -⟩ :=
          (bracketedName?_eq_some_iff s name size).1 hfound
        exact ⟨[], bracket, substitution ++ closing :: after, by rw [hc.2.1]; rfl, hbracket, hname,
          rfl⟩
      · exact nomatch hfound
    · obtain ⟨before, bracket, after, rfl, hbracket, hname, hpos⟩ := ih h
      exact ⟨c :: before, bracket, after, rfl, hbracket, hname, by
        rw [hpos, List.length_cons, Nat.add_right_comm, Nat.add_assoc]⟩

/-- Where a text stands, and what is before it, matters to the places of its references only. -/
theorem map_snd_refsFrom (scan : QuoteScan) {last last' : Option Char}
    (h : last = some '$' ↔ last' = some '$') (pos pos' skip : Nat) (s : Text) :
    (refsFrom scan last pos skip s).map Prod.snd
      = (refsFrom scan last' pos' skip s).map Prod.snd := by
  induction s generalizing scan last last' pos pos' skip with
  | nil => rfl
  | cons c s ih =>
    have hsame : refAt? last' skip c s = refAt? last skip c s := by
      simp only [refAt?, ne_eq, h]
    rw [refsFrom_cons, refsFrom_cons, hsame, List.map_append, List.map_append,
      ih (scan.read c) Iff.rfl (pos + 1) (pos' + 1)]
    cases refAt? last skip c s <;> rfl

/-- A text ends within a reference: it has been begun, and its substitution is not closed. -/
def LeavesOpen (last : Option Char) (s : Text) : Prop :=
  ∃ before rest, s = before ++ '$' :: rest ∧ (last.toList ++ before).getLast? ≠ some '$' ∧
    BeginsOpen rest

theorem LeavesOpen.cons {c : Char} {s : Text} (h : LeavesOpen (some c) s) (last : Option Char) :
    LeavesOpen last (c :: s) := by
  obtain ⟨before, rest, rfl, hlast, hopen⟩ := h
  refine ⟨c :: before, rest, rfl, ?_, hopen⟩
  rwa [List.getLast?_append_of_ne_nil _ (List.cons_ne_nil c before)]

theorem refAt?_append {last : Option Char} {skip : Nat} {c : Char} {s t : Text}
    (ht : ∀ c ∈ t.head?, Text.isBlank c = true) (hopen : ¬ LeavesOpen last (c :: s)) :
    refAt? last skip c (s ++ t) = refAt? last skip c s := by
  unfold refAt?
  split
  · rename_i hc
    refine bracketedName?_append ht fun h => hopen ⟨[], s, by rw [hc.2.1]; rfl, ?_, h⟩
    cases last with
    | none => exact nofun
    | some d => exact hc.2.2
  · rfl

theorem size_le_of_refAt? {last : Option Char} {skip : Nat} {c : Char} {s : Text}
    {t : Text × Nat} (h : refAt? last skip c s = some t) : t.2 ≤ s.length := by
  unfold refAt? at h
  split at h
  · obtain ⟨name, size⟩ := t
    obtain ⟨bracket, substitution, closing, after, rfl, -, -, -, -, rfl⟩ :=
      (bracketedName?_eq_some_iff s name size).1 h
    simp only [List.length_cons, List.length_append]
    omega
  · exact nomatch h

/-- **The references of a text in two parts**, the second of which begins with a blank. -/
theorem refsFrom_append {t : Text} (ht : ∀ c ∈ t.head?, Text.isBlank c = true) (scan : QuoteScan)
    (pos : Nat) {last : Option Char} {skip : Nat} {s : Text} (hskip : skip ≤ s.length)
    (hopen : ¬ LeavesOpen last s) :
    refsFrom scan last pos skip (s ++ t)
      = refsFrom scan last pos skip s
        ++ refsFrom (s.foldl QuoteScan.read scan) (s.getLast?.or last) (pos + s.length) 0 t := by
  induction s generalizing scan last pos skip with
  | nil =>
    rw [Nat.le_zero.1 hskip]
    rfl
  | cons c s ih =>
    have hlast : (c :: s).getLast?.or last = s.getLast?.or (some c) := by
      rw [List.getLast?_cons]
      cases s.getLast? <;> rfl
    have hnext : ((refAt? last skip c s).map Prod.snd).getD (skip - 1) ≤ s.length := by
      cases hfound : refAt? last skip c s with
      | none => exact Nat.sub_le_of_le_add hskip
      | some t => exact size_le_of_refAt? hfound
    rw [List.cons_append, refsFrom_cons, refsFrom_cons, refAt?_append ht hopen,
      ih _ _ hnext fun h => hopen (h.cons last), hlast, List.foldl_cons, List.append_assoc,
      List.length_cons, Nat.add_right_comm pos 1, Nat.add_assoc pos]

end Makefile

end OpsLint

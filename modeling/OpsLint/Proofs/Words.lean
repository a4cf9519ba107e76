import Mathlib.Data.List.DropRight
import OpsLint.Text.Basic

/-!
# Words

There are two ways to take a text apart at its blanks: into all of its words at once (`words`), or
into its first word and the rest (`firstWord`). They agree: the first word is the first of the
words, and the words of the rest are the others (`words_eq_cons`). A text has no words if and only
if nothing remains of it when it is trimmed (`words_eq_nil_iff`, `trim_eq_nil_iff`).

Everything is proved from the decomposition of a text into leading blanks, a run of characters that
are not blank, and a rest that begins with a blank if it is not empty. From outside, words are known
by one equation: a blank separates them (`words_append_cons`).

What trimming does at the end of a text, and what it means to occur in one, is said here as well.
-/

namespace OpsLint.Text

/-! ## Trimming -/

/-- What remains after leading blanks begins with another character. -/
theorem isBlank_of_trimLeft_eq_cons {s r : Text} {c : Char} (h : trimLeft s = c :: r) :
    isBlank c = false := by
  have hhead := List.head?_dropWhile_not isBlank s
  rw [show s.dropWhile isBlank = c :: r from h] at hhead
  exact hhead

theorem trimLeft_cons_of_not_blank {c : Char} (h : isBlank c = false) (s : Text) :
    trimLeft (c :: s) = c :: s :=
  List.dropWhile_cons_of_neg (ne_true_of_eq_false h)

/-- Trimming leaves nothing if and only if there are leading blanks only. -/
theorem trim_eq_nil_iff (s : Text) : trim s = [] ↔ trimLeft s = [] := by
  refine ⟨fun h => ?_, fun h => by rw [trim, h]; rfl⟩
  have hblank : ∀ c ∈ trimLeft s, isBlank c = true := List.rdropWhile_eq_nil_iff.1 h
  cases hleft : trimLeft s with
  | nil => rfl
  | cons c r =>
    have hc := hblank c (hleft ▸ List.mem_cons_self)
    rw [isBlank_of_trimLeft_eq_cons hleft] at hc
    exact nomatch hc

/-- A trimmed text has no leading blanks. -/
theorem trimLeft_trim (s : Text) : trimLeft (trim s) = trim s := by
  cases htrim : trim s with
  | nil => rfl
  | cons c r =>
    -- what is trimmed on the right still begins where the leading blanks ended
    have hprefix : trim s <+: trimLeft s := List.rdropWhile_prefix isBlank (trimLeft s)
    rw [htrim] at hprefix
    obtain ⟨t, ht⟩ := hprefix
    exact trimLeft_cons_of_not_blank (isBlank_of_trimLeft_eq_cons ht.symm) r

/-- Trimming on the right does not reach past a character that is not blank. -/
theorem trimRight_append {t : Text} (h : trimRight t ≠ []) (s : Text) :
    trimRight (s ++ t) = s ++ trimRight t := by
  have hrest : ¬ (t.reverse.dropWhile isBlank).isEmpty = true := by
    intro hempty
    exact h (by rw [trimRight, List.isEmpty_iff.1 hempty]; rfl)
  unfold trimRight
  rw [List.reverse_append, List.dropWhile_append, if_neg hrest, List.reverse_append,
    List.reverse_reverse]

theorem trimRight_append_of_blank {t : Text} (h : trimRight t = []) (s : Text) :
    trimRight (s ++ t) = trimRight s := by
  have hrest : (t.reverse.dropWhile isBlank).isEmpty = true := by
    rw [List.isEmpty_iff, ← List.reverse_eq_nil_iff]
    exact h
  unfold trimRight
  rw [List.reverse_append, List.dropWhile_append, if_pos hrest]

theorem trimRight_concat {c : Char} (h : isBlank c = false) (s : Text) :
    trimRight (s ++ [c]) = s ++ [c] :=
  List.rdropWhile_concat_neg isBlank s c (ne_true_of_eq_false h)

theorem trimRight_eq_nil_iff (s : Text) : trimRight s = [] ↔ ∀ c ∈ s, isBlank c = true :=
  List.rdropWhile_eq_nil_iff

/-- What has no trailing blanks stays whole in front of a text that is trimmed. -/
theorem trimRight_append_of_trimmed {s : Text} (h : trimRight s = s) (t : Text) :
    trimRight (s ++ t) = s ++ trimRight t := by
  by_cases ht : trimRight t = []
  · rw [trimRight_append_of_blank ht, h, ht, List.append_nil]
  · exact trimRight_append ht s

theorem trimRight_cons {c : Char} (h : isBlank c = false) (s : Text) :
    trimRight (c :: s) = c :: trimRight s :=
  trimRight_append_of_trimmed (trimRight_concat h []) s

theorem trimRight_append_cons {c : Char} (h : isBlank c = false) (s t : Text) :
    trimRight (s ++ c :: t) = s ++ c :: trimRight t := by
  have hne : trimRight (c :: t) ≠ [] := by
    rw [trimRight_cons h]
    exact List.cons_ne_nil _ _
  rw [trimRight_append hne, trimRight_cons h]

theorem trimRight_tail {c : Char} {s : Text} (h : trimRight (c :: s) = c :: s) :
    trimRight s = s := by
  by_cases hs : trimRight s = []
  · -- the first character is all that can be left, so there is no other
    have hone : trimRight [c] = c :: s := (trimRight_append_of_blank hs [c]).symm.trans h
    have hle : (trimRight [c]).length ≤ 1 := (List.rdropWhile_prefix isBlank [c]).length_le
    rw [hone, List.length_cons] at hle
    have hnil : s = [] := List.eq_nil_of_length_eq_zero (by omega)
    rw [hs, hnil]
  · exact (List.cons.inj ((trimRight_append hs [c]).symm.trans h)).2

/-- If trimming leaves something, trimming on the right only leaves leading blanks more. -/
theorem trimRight_eq_append_trim {s : Text} (h : trim s ≠ []) :
    trimRight s = s.takeWhile isBlank ++ trim s := by
  nth_rewrite 1 [← List.takeWhile_append_dropWhile (p := isBlank) (l := s)]
  exact trimRight_append h _

/-- A trimmed text has no trailing blanks. -/
theorem trimRight_trim (s : Text) : trimRight (trim s) = trim s :=
  List.rdropWhile_idempotent isBlank (trimLeft s)

theorem trimLeft_eq_nil_iff (s : Text) : trimLeft s = [] ↔ ∀ c ∈ s, isBlank c = true :=
  List.dropWhile_eq_nil_iff

theorem trimLeft_trimRight_eq_nil_iff (s : Text) :
    trimLeft (trimRight s) = [] ↔ trimLeft s = [] := by
  rw [trimLeft_eq_nil_iff, trimLeft_eq_nil_iff]
  constructor
  · intro h
    -- trimming once more changes nothing, and it leaves nothing of blanks
    have hnil : trimRight s = [] :=
      (List.rdropWhile_idempotent isBlank s).symm.trans (List.rdropWhile_eq_nil_iff.2 h)
    exact List.rdropWhile_eq_nil_iff.1 hnil
  · exact fun h c hc => h c ((List.rdropWhile_prefix isBlank s).subset hc)

/-- What is trimmed on the left is not seen behind a character that is not blank. -/
theorem trimLeft_append {s : Text} (h : trimLeft s ≠ []) (t : Text) :
    trimLeft (s ++ t) = trimLeft s ++ t := by
  unfold trimLeft at h ⊢
  rw [List.dropWhile_append, if_neg (by simpa using h)]

theorem trimLeft_append_of_blank {s : Text} (h : trimLeft s = []) (t : Text) :
    trimLeft (s ++ t) = trimLeft t := by
  unfold trimLeft at h ⊢
  rw [List.dropWhile_append, h]
  rfl

theorem trimLeft_append_cons {c : Char} (h : isBlank c = false) (s t : Text) :
    trimLeft (s ++ c :: t) = trimLeft s ++ c :: t := by
  by_cases hs : trimLeft s = []
  · rw [trimLeft_append_of_blank hs, hs, trimLeft_cons_of_not_blank h, List.nil_append]
  · exact trimLeft_append hs _

theorem endsWith_append {t : Text} (h : t ≠ []) (s : Text) (c : Char) :
    endsWith (s ++ t) c = endsWith t c := by
  unfold endsWith
  rw [List.getLast?_append_of_ne_nil s h]

theorem trim_infix (s : Text) : trim s <:+: s :=
  (List.rdropWhile_prefix isBlank _).isInfix.trans (List.dropWhile_suffix _).isInfix

/-- A text that begins with a character that is not blank still does when it is trimmed. -/
theorem head?_trim {c : Char} (h : isBlank c = false) (s : Text) :
    (trim (c :: s)).head? = some c := by
  have hleft := trimLeft_cons_of_not_blank h s
  have hne : trim (c :: s) ≠ [] := by
    rw [ne_eq, trim_eq_nil_iff, hleft]
    exact List.cons_ne_nil c s
  have hprefix : trim (c :: s) <+: trimLeft (c :: s) := List.rdropWhile_prefix isBlank _
  rw [hleft] at hprefix
  obtain hnil | ⟨t, ht, -⟩ := List.prefix_cons_iff.1 hprefix
  · exact absurd hnil hne
  · rw [ht]
    rfl

/-- A trimmed text begins as it does without its leading blanks. -/
theorem head?_trim_eq (s : Text) : (trim s).head? = (trimLeft s).head? := by
  cases hleft : trimLeft s with
  | nil => rw [(trim_eq_nil_iff s).2 hleft]
  | cons c r =>
    have hc := isBlank_of_trimLeft_eq_cons hleft
    have htrim : trim s = trim (c :: r) := by
      rw [trim, trim, hleft, trimLeft_cons_of_not_blank hc]
    rw [htrim]
    exact head?_trim hc r

/-! ## All words and the first word -/

theorem words_cons_of_blank {c : Char} (h : isBlank c = true) (s : Text) :
    words (c :: s) = words s :=
  if_pos h

theorem words_singleton {c : Char} (h : isBlank c = false) : words [c] = [[c]] :=
  if_neg (ne_true_of_eq_false h)

/-- A word ends before a blank. -/
theorem words_cons_cons_of_blank {c d : Char} (hc : isBlank c = false) (hd : isBlank d = true)
    (s : Text) : words (c :: d :: s) = [c] :: words (d :: s) := by
  refine (if_neg (ne_true_of_eq_false hc)).trans ?_
  cases words (d :: s) with
  | nil => rfl
  | cons w ws => exact if_pos hd

/-- A word goes on with a character that is not blank. -/
theorem words_cons_cons {c d : Char} (hc : isBlank c = false) (hd : isBlank d = false) {s w : Text}
    {ws : List Text} (h : words (d :: s) = w :: ws) : words (c :: d :: s) = (c :: w) :: ws := by
  refine (if_neg (ne_true_of_eq_false hc)).trans ?_
  rw [h]
  exact if_neg (ne_true_of_eq_false hd)

@[simp] theorem words_trimLeft (s : Text) : words (trimLeft s) = words s := by
  induction s with
  | nil => rfl
  | cons c s ih =>
    by_cases hc : isBlank c = true
    · rw [words_cons_of_blank hc, ← ih, trimLeft, List.dropWhile_cons_of_pos hc]
      rfl
    · rw [trimLeft_cons_of_not_blank (eq_false_of_ne_true hc)]

/-- A run of characters that are not blank is a word if nothing or a blank follows. -/
theorem words_append {w rest : Text} (hne : w ≠ []) (hw : ∀ c ∈ w, isBlank c = false)
    (hrest : ∀ c ∈ rest.head?, isBlank c = true) : words (w ++ rest) = w :: words rest := by
  induction w with
  | nil => exact absurd rfl hne
  | cons c w ih =>
    obtain ⟨hc, hw⟩ := List.forall_mem_cons.1 hw
    cases w with
    | nil =>
      cases rest with
      | nil => exact words_singleton hc
      | cons d rest => exact words_cons_cons_of_blank hc (hrest d rfl) rest
    | cons d w =>
      exact words_cons_cons hc (hw d List.mem_cons_self) (ih (List.cons_ne_nil d w) hw)

/-- **The first word is the first of the words**, and what follows it has the others. -/
theorem words_eq_cons {s : Text} (h : trimLeft s ≠ []) :
    words s = (firstWord s).1 :: words (firstWord s).2 := by
  show words s = (trimLeft s).takeWhile (!isBlank ·)
    :: words (trimLeft ((trimLeft s).dropWhile (!isBlank ·)))
  have hword : (trimLeft s).takeWhile (!isBlank ·) ≠ [] := by
    cases hleft : trimLeft s with
    | nil => exact absurd hleft h
    | cons c r =>
      rw [List.takeWhile_cons_of_pos (by rw [isBlank_of_trimLeft_eq_cons hleft]; rfl)]
      exact List.cons_ne_nil _ _
  have hnonblank : ∀ c ∈ (trimLeft s).takeWhile (!isBlank ·), isBlank c = false :=
    fun c hc => by simpa using List.mem_takeWhile_imp hc
  have hrest : ∀ c ∈ ((trimLeft s).dropWhile (!isBlank ·)).head?, isBlank c = true := by
    intro c hc
    have hhead := List.head?_dropWhile_not (!isBlank ·) (trimLeft s)
    rw [Option.mem_def.1 hc] at hhead
    simpa using hhead
  calc words s
      = words (trimLeft s) := (words_trimLeft s).symm
    _ = words ((trimLeft s).takeWhile (!isBlank ·) ++ (trimLeft s).dropWhile (!isBlank ·)) := by
        rw [List.takeWhile_append_dropWhile]
    _ = _ := by rw [words_append hword hnonblank hrest, words_trimLeft]

theorem words_eq_nil_iff (s : Text) : words s = [] ↔ trimLeft s = [] := by
  refine ⟨fun h => ?_, fun h => by rw [← words_trimLeft, h]; rfl⟩
  by_contra hne
  rw [words_eq_cons hne] at h
  exact nomatch h

/-- What follows the first word has the other words, also if there is no word at all. -/
theorem words_firstWord_snd (s : Text) : words (firstWord s).2 = (words s).tail := by
  by_cases h : trimLeft s = []
  · rw [(words_eq_nil_iff s).2 h, firstWord, h]
    rfl
  · rw [words_eq_cons h]
    rfl

/-- What follows the first word has no leading blanks. -/
theorem trimLeft_firstWord_snd (s : Text) : trimLeft (firstWord s).2 = (firstWord s).2 :=
  List.dropWhile_idempotent isBlank _

/-- Without leading blanks, a text begins as its first word does. -/
theorem head?_firstWord {s : Text} (h : trimLeft s = s) : (firstWord s).1.head? = s.head? := by
  show ((trimLeft s).takeWhile (!isBlank ·)).head? = s.head?
  rw [h, List.head?_takeWhile]
  cases s with
  | nil => rfl
  | cons c r => exact Option.filter_some_pos (by rw [isBlank_of_trimLeft_eq_cons h]; rfl)

/-- **A blank separates words.** -/
theorem words_append_cons {c : Char} (hc : isBlank c = true) (s t : Text) :
    words (s ++ c :: t) = words s ++ words t := by
  induction s with
  | nil => exact words_cons_of_blank hc t
  | cons d s ih =>
    by_cases hd : isBlank d = true
    · rw [List.cons_append, words_cons_of_blank hd, words_cons_of_blank hd, ih]
    · have hd := eq_false_of_ne_true hd
      cases s with
      | nil =>
        rw [List.singleton_append, words_cons_cons_of_blank hd hc, words_cons_of_blank hc,
          words_singleton hd, List.singleton_append]
      | cons e s =>
        by_cases he : isBlank e = true
        · rw [List.cons_append, List.cons_append, words_cons_cons_of_blank hd he,
            words_cons_cons_of_blank hd he, ← List.cons_append, ih, List.cons_append]
        · have he := eq_false_of_ne_true he
          have hne : trimLeft (e :: s) ≠ [] := by
            rw [trimLeft_cons_of_not_blank he]
            exact List.cons_ne_nil e s
          rw [words_eq_cons hne, List.cons_append] at ih
          rw [words_cons_cons hd he (words_eq_cons hne), List.cons_append]
          exact words_cons_cons hd he ih

theorem words_of_not_blank {w : Text} (hne : w ≠ []) (hw : ∀ c ∈ w, isBlank c = false) :
    words w = [w] := by
  have h := words_append hne hw (fun c (hc : c ∈ ([] : Text).head?) => nomatch hc)
  rwa [List.append_nil] at h

@[simp] theorem words_trimRight (s : Text) : words (trimRight s) = words s := by
  induction s using List.reverseRecOn with
  | nil => rfl
  | append_singleton s c ih =>
    by_cases hc : isBlank c = true
    · have htrim : trimRight (s ++ [c]) = trimRight s := List.rdropWhile_concat_pos isBlank s c hc
      rw [htrim, ih, words_append_cons hc]
      exact (List.append_nil _).symm
    · rw [trimRight_concat (eq_false_of_ne_true hc)]

@[simp] theorem words_trim (s : Text) : words (trim s) = words s := by
  rw [trim, words_trimRight, words_trimLeft]

theorem join_cons (f : Text) {rest : List Text} (h : rest ≠ []) :
    join " " (f :: rest) = f ++ ' ' :: join " " rest := by
  rw [join, List.intercalate_cons_of_ne_nil h, List.append_assoc]
  rfl

theorem words_join {fields : List Text}
    (h : ∀ f ∈ fields, f ≠ [] ∧ ∀ c ∈ f, isBlank c = false) (last : Text) :
    words (join " " (fields ++ [last])) = fields ++ words last := by
  induction fields with
  | nil =>
    rw [List.nil_append, join, List.intercalate_singleton, List.nil_append]
  | cons f fields ih =>
    obtain ⟨⟨hne, hblank⟩, hfields⟩ := List.forall_mem_cons.1 h
    rw [List.cons_append, join_cons f (List.append_ne_nil_of_right_ne_nil _ (List.cons_ne_nil _ _)),
      words_append_cons rfl, words_of_not_blank hne hblank, ih hfields]
    rfl

/-- **Joining words and cutting them apart again.** -/
theorem words_join_of_words {fields : List Text}
    (h : ∀ f ∈ fields, f ≠ [] ∧ ∀ c ∈ f, isBlank c = false) : words (join " " fields) = fields := by
  rcases List.eq_nil_or_concat' fields with rfl | ⟨front, last, rfl⟩
  · rfl
  · obtain ⟨hne, hblank⟩ := h last (by simp)
    rw [words_join fun f hf => h f (List.mem_append_left _ hf), words_of_not_blank hne hblank]

theorem mem_join {fields : List Text} {c : Char} (h : c ∈ join " " fields) :
    c = ' ' ∨ ∃ f ∈ fields, c ∈ f := by
  induction fields with
  | nil => exact nomatch h
  | cons f fields ih =>
    by_cases hfields : fields = []
    · rw [hfields, join, List.intercalate_singleton] at h
      exact .inr ⟨f, List.mem_cons_self, h⟩
    · rw [join_cons f hfields] at h
      rcases List.mem_append.1 h with h | h
      · exact .inr ⟨f, List.mem_cons_self, h⟩
      · rcases List.mem_cons.1 h with rfl | h
        · exact .inl rfl
        · exact (ih h).imp_right fun ⟨g, hg, hc⟩ => ⟨g, List.mem_cons_of_mem f hg, hc⟩

/-- The words of a text are in it one after another. -/
theorem flatten_words_sublist (s : Text) : (words s).flatten.Sublist s := by
  induction s with
  | nil => exact .slnil
  | cons c s ih =>
    by_cases hc : isBlank c = true
    · rw [words_cons_of_blank hc]
      exact ih.cons c
    · have hc := eq_false_of_ne_true hc
      cases s with
      | nil =>
        rw [words_singleton hc]
        exact List.Sublist.refl [c]
      | cons d s =>
        by_cases hd : isBlank d = true
        · rw [words_cons_cons_of_blank hc hd]
          exact ih.cons_cons c
        · have hd := eq_false_of_ne_true hd
          have hne : trimLeft (d :: s) ≠ [] := by
            rw [trimLeft_cons_of_not_blank hd]
            exact List.cons_ne_nil d s
          rw [words_cons_cons hc hd (words_eq_cons hne)]
          rw [words_eq_cons hne] at ih
          exact ih.cons_cons c

theorem sublist_of_mem_words {w s : Text} (h : w ∈ words s) : w.Sublist s :=
  (List.sublist_flatten_of_mem h).trans (flatten_words_sublist s)

/-- A word has a character. -/
theorem ne_nil_of_mem_words {w s : Text} (h : w ∈ words s) : w ≠ [] := by
  induction s generalizing w with
  | nil => exact absurd h List.not_mem_nil
  | cons c s ih =>
    by_cases hc : isBlank c = true
    · exact ih (words_cons_of_blank hc s ▸ h)
    · have hc := eq_false_of_ne_true hc
      cases s with
      | nil =>
        rw [words_singleton hc, List.mem_singleton] at h
        exact h ▸ List.cons_ne_nil c []
      | cons d s =>
        by_cases hd : isBlank d = true
        · rw [words_cons_cons_of_blank hc hd, List.mem_cons] at h
          exact h.elim (fun h => h ▸ List.cons_ne_nil c []) ih
        · have hd := eq_false_of_ne_true hd
          have hne : trimLeft (d :: s) ≠ [] := by
            rw [trimLeft_cons_of_not_blank hd]
            exact List.cons_ne_nil d s
          rw [words_cons_cons hc hd (words_eq_cons hne), List.mem_cons] at h
          rw [words_eq_cons hne] at ih
          exact h.elim (fun h => h ▸ List.cons_ne_nil c _) fun h => ih (List.mem_cons_of_mem _ h)

/-! ## Occurrences -/

theorem eq_append_of_dropStart? {start s rest : Text} (h : dropStart? start s = some rest) :
    s = start ++ rest := by
  fun_induction dropStart? start s with
  | case1 s => rw [Option.some.inj h, List.nil_append]
  | case2 => exact nomatch h
  | case3 start c s ih => rw [ih h, List.cons_append]
  | case4 => exact nomatch h

theorem dropStart?_eq_some_iff (start s rest : Text) :
    dropStart? start s = some rest ↔ s = start ++ rest := by
  refine ⟨eq_append_of_dropStart?, ?_⟩
  rintro rfl
  induction start with
  | nil => rfl
  | cons c start ih => exact (if_pos rfl).trans ih

/-- **Cutting a text** at the first occurrence of a character. -/
theorem cut?_eq_some_iff (sep : Char) (s a b : Text) :
    cut? sep s = some (a, b) ↔ s = a ++ sep :: b ∧ sep ∉ a := by
  unfold cut?
  constructor
  · intro h
    cases hdrop : s.dropWhile (· ≠ sep) with
    | nil => rw [hdrop] at h; exact nomatch h
    | cons c rest =>
      have hc := List.head?_dropWhile_not (· ≠ sep) s
      rw [hdrop] at h hc
      obtain ⟨rfl, rfl⟩ := Prod.mk.inj (Option.some.inj h)
      obtain rfl : c = sep := by simpa using hc
      refine ⟨?_, fun hmem => by simpa using List.mem_takeWhile_imp hmem⟩
      rw [← hdrop, List.takeWhile_append_dropWhile]
  · rintro ⟨rfl, ha⟩
    have hpos : ∀ c ∈ a, decide (c ≠ sep) = true := fun c hc => by
      simpa using fun heq : c = sep => ha (heq ▸ hc)
    rw [List.dropWhile_append_of_pos hpos, List.takeWhile_append_of_pos hpos]
    simp

theorem cut?_eq_none_iff (sep : Char) (s : Text) : cut? sep s = none ↔ sep ∉ s := by
  unfold cut?
  split
  · rename_i hdrop
    refine iff_of_true rfl (fun hmem => ?_)
    simpa using List.dropWhile_eq_nil_iff.1 hdrop sep hmem
  · rename_i c rest hdrop
    refine iff_of_false nofun (fun hsep => ?_)
    have hc := List.head?_dropWhile_not (· ≠ sep) s
    rw [hdrop] at hc
    obtain rfl : c = sep := by simpa using hc
    exact hsep ((List.dropWhile_suffix (· ≠ c)).subset (hdrop ▸ List.mem_cons_self))

theorem cut?_append_of_notMem {sep : Char} {s : Text} (h : sep ∉ s) (t : Text) :
    cut? sep (s ++ t) = (cut? sep t).map fun p => (s ++ p.1, p.2) := by
  cases hcut : cut? sep t with
  | none =>
    have ht := (cut?_eq_none_iff sep t).1 hcut
    exact (cut?_eq_none_iff sep (s ++ t)).2 fun hmem => (List.mem_append.1 hmem).elim h ht
  | some p =>
    obtain ⟨rfl, hp⟩ := (cut?_eq_some_iff sep t p.1 p.2).1 hcut
    refine (cut?_eq_some_iff _ _ _ _).2 ⟨(List.append_assoc _ _ _).symm, fun hmem => ?_⟩
    exact (List.mem_append.1 hmem).elim h hp

theorem sublist_of_cut? {sep : Char} {s a b : Text} (h : cut? sep s = some (a, b)) :
    a.Sublist s ∧ b.Sublist s := by
  rw [((cut?_eq_some_iff sep s a b).1 h).1]
  exact ⟨List.sublist_append_left a _,
    ((List.sublist_cons_self sep b).trans (List.sublist_append_right a _))⟩

theorem before_eq_self {sep : Char} {s : Text} (h : sep ∉ s) : before sep s = s :=
  List.takeWhile_eq_self_iff.2 fun _ hc => decide_eq_true fun heq => h (heq ▸ hc)

theorem before_append_of_mem {sep : Char} {s : Text} (h : sep ∈ s) (t : Text) :
    before sep (s ++ t) = before sep s := by
  unfold before
  rw [List.takeWhile_append, if_neg]
  intro hlength
  have hself := (List.takeWhile_prefix (· ≠ sep)).eq_of_length hlength
  simpa using List.takeWhile_eq_self_iff.1 hself sep h

theorem before_append_of_notMem {sep : Char} {s : Text} (h : sep ∉ s) (t : Text) :
    before sep (s ++ t) = s ++ before sep t :=
  List.takeWhile_append_of_pos fun _ hc => decide_eq_true fun heq => h (heq ▸ hc)

theorem before_append_cons {sep : Char} {s : Text} (h : sep ∉ s) (t : Text) :
    before sep (s ++ sep :: t) = s := by
  rw [before_append_of_notMem h, before, List.takeWhile_cons_of_neg (by simp), List.append_nil]

/-- What occurs in a text and does not contain one of its characters occurs before or after it. -/
theorem infix_of_infix_append_cons {part s t : Text} {c : Char} (hc : c ∉ part)
    (h : part <:+: s ++ c :: t) : part <:+: s ∨ part <:+: t := by
  obtain h | h | ⟨p, q, rfl, hp, hq⟩ := List.infix_append_iff.1 h
  · exact .inl h
  · obtain h | h := List.infix_cons_iff.1 h
    · obtain rfl | ⟨r, rfl, -⟩ := List.prefix_cons_iff.1 h
      · exact .inl List.nil_infix
      · exact absurd List.mem_cons_self hc
    · exact .inr h
  · obtain rfl | ⟨r, rfl, -⟩ := List.prefix_cons_iff.1 hq
    · rw [List.append_nil]
      exact .inl hp.isInfix
    · exact absurd (List.mem_append_right p List.mem_cons_self) hc

end OpsLint.Text

import OpsLint.Files.Path

/-!
# Paths and their texts

Many texts are read as one path, since empty names and single points are dropped. Among these texts
one is special: the text that the path is written as. Reading it gives the path back
(`Path.ofText_toText`), so that **different paths are written differently** (`Path.toText_inj`).
Reports are sorted by these texts, and this is what makes the order of two reports a matter of their
targets alone.

It holds of paths that have been read (`Path.wellFormed_ofText`) and of those below them in a tree
of files, not of every list of names: a name with a slash in it would be read as two.
-/

namespace OpsLint

namespace Text

theorem splitOn_eq (sep : Char) (s : Text) : splitOn sep s = List.splitOn sep s := by
  induction s with
  | nil => exact (List.splitOn_nil sep).symm
  | cons c s ih =>
    rw [splitOn, List.splitOn_cons_eq_if_modifyHead, ih]
    simp only [beq_iff_eq]
    split
    · rfl
    · cases hs : List.splitOn sep s with
      | nil => exact absurd hs (List.splitOn_ne_nil sep s)
      | cons w ws => rfl

/-- The parts between separators hold no separator. -/
theorem not_mem_of_mem_splitOn {sep : Char} {s part : Text} (h : part ∈ splitOn sep s) :
    sep ∉ part := by
  induction s generalizing part with
  | nil =>
    rw [List.mem_singleton.1 h]
    exact List.not_mem_nil
  | cons c s ih =>
    rw [splitOn] at h
    split at h
    · rcases List.mem_cons.1 h with rfl | h
      · exact List.not_mem_nil
      · exact ih h
    · rename_i hc
      split at h
      · rw [List.mem_singleton.1 h, List.mem_singleton]
        exact fun hsep => hc hsep.symm
      · rename_i w ws hsplit
        rcases List.mem_cons.1 h with rfl | h
        · rw [List.mem_cons, not_or]
          exact ⟨fun hsep => hc hsep.symm, ih (hsplit ▸ List.mem_cons_self)⟩
        · exact ih (hsplit ▸ List.mem_cons_of_mem w h)

/-- The parts of a text that is cut are parts of it. -/
theorem sublist_of_mem_splitOn {sep : Char} {s part : Text} (h : part ∈ splitOn sep s) :
    part.Sublist s := by
  induction s generalizing part with
  | nil =>
    obtain rfl := List.mem_singleton.1 h
    exact .slnil
  | cons c s ih =>
    rw [splitOn] at h
    split at h
    · obtain rfl | h := List.mem_cons.1 h
      · exact List.nil_sublist _
      · exact (ih h).cons c
    · split at h
      · rw [List.mem_singleton.1 h]
        exact List.singleton_sublist.2 List.mem_cons_self
      · rename_i w ws hsplit
        obtain rfl | h := List.mem_cons.1 h
        · exact (ih (hsplit ▸ List.mem_cons_self)).cons_cons c
        · exact (ih (hsplit ▸ List.mem_cons_of_mem w h)).cons c

theorem splitOn_of_not_mem {sep : Char} {s : Text} (h : sep ∉ s) : splitOn sep s = [s] := by
  have hjoin : List.splitOn sep ([sep].intercalate [s]) = [s] :=
    List.splitOn_intercalate sep (by simpa using h) (List.cons_ne_nil _ _)
  rw [List.intercalate_singleton] at hjoin
  rw [splitOn_eq]
  exact hjoin

/-- A separator lies between parts. -/
theorem splitOn_append_cons (sep : Char) (s t : Text) :
    splitOn sep (s ++ sep :: t) = splitOn sep s ++ splitOn sep t := by
  induction s with
  | nil => exact if_pos rfl
  | cons c s ih =>
    rw [List.cons_append, splitOn, splitOn, ih]
    split
    · rfl
    · cases hs : splitOn sep s with
      | nil => exact absurd hs (by rw [splitOn_eq]; exact List.splitOn_ne_nil sep s)
      | cons w ws => rfl

/-- What is in a text and is no separator is in one of the parts. -/
theorem exists_mem_splitOn {sep c : Char} {s : Text} (h : c ∈ s) (hc : c ≠ sep) :
    ∃ part ∈ splitOn sep s, c ∈ part := by
  induction s with
  | nil => exact nomatch h
  | cons d s ih =>
    rw [splitOn]
    by_cases hd : d = sep
    · rw [if_pos hd]
      obtain rfl | h := List.mem_cons.1 h
      · exact absurd hd hc
      · obtain ⟨part, hpart, hmem⟩ := ih h
        exact ⟨part, List.mem_cons_of_mem _ hpart, hmem⟩
    · rw [if_neg hd]
      cases hsplit : splitOn sep s with
      | nil => exact absurd hsplit (by rw [splitOn_eq]; exact List.splitOn_ne_nil sep s)
      | cons w ws =>
        obtain rfl | h := List.mem_cons.1 h
        · exact ⟨_, List.mem_cons_self, List.mem_cons_self⟩
        · obtain ⟨part, hpart, hmem⟩ := ih h
          rw [hsplit] at hpart
          obtain rfl | hpart := List.mem_cons.1 hpart
          · exact ⟨_, List.mem_cons_self, List.mem_cons_of_mem d hmem⟩
          · exact ⟨part, List.mem_cons_of_mem _ hpart, hmem⟩

/-- The first part begins as the text does, unless the text begins with a separator. -/
theorem exists_splitOn_cons {sep c : Char} (hc : c ≠ sep) (s : Text) :
    ∃ w, c :: w ∈ splitOn sep (c :: s) := by
  rw [splitOn, if_neg hc]
  cases splitOn sep s with
  | nil => exact ⟨[], List.mem_cons_self⟩
  | cons w ws => exact ⟨w, List.mem_cons_self⟩

end Text

namespace Path

/-- A name that can stand in a path. -/
structure IsPart (name : Text) : Prop where
  ne_nil : name ≠ []
  noSlash : '/' ∉ name
  ne_here : name ≠ ['.']

/-- A path that a text can be read as. -/
structure WellFormed (p : Path) : Prop where
  slashes_le : p.slashes ≤ 2
  parts : ∀ name ∈ p.names, IsPart name

theorem keptSlashes_le (count : Nat) : keptSlashes count ≤ 2 := by
  unfold keptSlashes
  split <;> omega

/-- What has been read is well-formed. -/
theorem wellFormed_ofText (s : Text) : (ofText s).WellFormed where
  slashes_le := keptSlashes_le _
  parts := by
    intro name hname
    obtain ⟨hpart, hkept⟩ := List.mem_filter.1 hname
    rw [Bool.and_eq_true] at hkept
    refine ⟨fun hnil => ?_, Text.not_mem_of_mem_splitOn hpart, of_decide_eq_true hkept.2⟩
    rw [hnil] at hkept
    exact nomatch hkept.1

theorem WellFormed.child {p : Path} (hp : p.WellFormed) {name : Text} (hname : IsPart name) :
    (p.child name).WellFormed where
  slashes_le := hp.slashes_le
  parts := by
    intro part hpart
    rcases List.mem_append.1 hpart with h | h
    · exact hp.parts part h
    · exact List.mem_singleton.1 h ▸ hname

/-! ## Reading what was written -/

/-- Slashes at the start of a text only add empty parts. -/
theorem filter_splitOn_replicate (n : Nat) (s : Text) :
    (Text.splitOn '/' (List.replicate n '/' ++ s)).filter
        (fun name => !name.isEmpty && name ≠ ['.'])
      = (Text.splitOn '/' s).filter (fun name => !name.isEmpty && name ≠ ['.']) := by
  induction n with
  | zero => rfl
  | succ n ih =>
    rw [List.replicate_succ, List.cons_append, Text.splitOn, if_pos rfl, List.filter_cons]
    exact ih

/-- A name does not begin with a slash, so that all slashes at the start of a written path are
those of the path. -/
theorem takeWhile_join {names : List Text} (hnames : ∀ name ∈ names, IsPart name) :
    (Text.join "/" names).takeWhile (· = '/') = [] := by
  cases names with
  | nil => rfl
  | cons name names =>
    have hname := hnames name List.mem_cons_self
    cases name with
    | nil => exact absurd rfl hname.ne_nil
    | cons c cs =>
      have hc : ¬ c = '/' := fun h => hname.noSlash (h ▸ List.mem_cons_self)
      have hjoin : ∃ rest, Text.join "/" ((c :: cs) :: names) = c :: rest := by
        unfold Text.join
        cases names with
        | nil => exact ⟨cs, List.intercalate_singleton⟩
        | cons _ _ => exact ⟨_, List.intercalate_cons_cons⟩
      obtain ⟨rest, hrest⟩ := hjoin
      rw [hrest, List.takeWhile_cons, if_neg (by simpa using hc)]

/-- The names are the parts between the slashes of what was written. -/
theorem filter_splitOn_join {names : List Text} (hnames : ∀ name ∈ names, IsPart name) :
    (Text.splitOn '/' (Text.join "/" names)).filter (fun name => !name.isEmpty && name ≠ ['.'])
      = names := by
  by_cases hnil : names = []
  · rw [hnil]
    rfl
  · have hsplit : List.splitOn '/' (Text.join "/" names) = names :=
      List.splitOn_intercalate '/' (fun name hname => (hnames name hname).noSlash) hnil
    rw [Text.splitOn_eq, hsplit, List.filter_eq_self]
    intro name hname
    rw [Bool.and_eq_true]
    exact ⟨by simpa using (hnames name hname).ne_nil, decide_eq_true (hnames name hname).ne_here⟩

/-- **Reading what was written gives the path back.** -/
theorem ofText_toText {p : Path} (hp : p.WellFormed) : ofText p.toText = p := by
  obtain ⟨slashes, names⟩ := p
  unfold toText
  split
  · rename_i hempty
    rw [Bool.and_eq_true, decide_eq_true_iff, List.isEmpty_iff] at hempty
    obtain ⟨rfl, rfl⟩ : slashes = 0 ∧ names = [] := hempty
    rfl
  · have hslashes : keptSlashes
        ((List.replicate slashes '/' ++ Text.join "/" names).takeWhile (· = '/')).length
        = slashes := by
      rw [List.takeWhile_append_of_pos (fun c hc => decide_eq_true (List.eq_of_mem_replicate hc)),
        takeWhile_join hp.parts, List.append_nil, List.length_replicate]
      exact if_pos hp.slashes_le
    unfold ofText
    rw [hslashes, filter_splitOn_replicate, filter_splitOn_join hp.parts]

/-- **Different paths are written differently.** -/
theorem toText_inj {p q : Path} (hp : p.WellFormed) (hq : q.WellFormed)
    (h : p.toText = q.toText) : p = q := by
  rw [← ofText_toText hp, ← ofText_toText hq, h]

/-! ## Normal forms -/

/-- Names other than double points are added one by one. -/
theorem foldl_addNormal {absolute : Bool} {names : List Text} (h : up ∉ names) (acc : List Text) :
    names.foldl (addNormal absolute) acc = names.reverse ++ acc := by
  induction names generalizing acc with
  | nil => rfl
  | cons name names ih =>
    rw [List.mem_cons, not_or] at h
    have hstep : addNormal absolute acc name = name :: acc := if_pos (Ne.symm h.1)
    rw [List.foldl_cons, hstep, ih h.2, List.reverse_cons, List.append_assoc]
    rfl

/-- A path without double points is its own normal form. -/
theorem normal_eq_self {p : Path} (hp : up ∉ p.names) : p.normal = p := by
  unfold normal
  rw [foldl_addNormal hp, List.append_nil, List.reverse_reverse]

end Path

end OpsLint

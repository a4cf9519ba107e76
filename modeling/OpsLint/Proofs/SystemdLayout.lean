import Mathlib.Data.List.Nodup
import OpsLint.Proofs.SystemdSeams

/-!
# The layout of a systemd unit

How sections, directives and problems lie in the lines of a unit. Sections come in the order of
their lines, and so do the directives of each, which lie between its header and the next one.
Problems are reported in the order of the lines, on lines that are neither headers nor directives.
After a header gone wrong there is no directive up to the next section.

Where no line ends in a backslash, **no line is lost**: each one that is not blank or a comment is a
header, a directive or a problem, and one of these only (`arranged_ofLines`).

The numbers in the sections of a unit, one section after the other, are the numbers of its items
without the problems (`lineNumbers_foldr_add`). Since items come in the order of the lines, all that
has to do with order follows from this at once. It takes for granted that every directive has a
section, which is so because one is accepted only while a section is open (`PlacedFrom`).
-/

namespace OpsLint.Systemd

/-! ## Directives have a section -/

/-- Whether a section is open after an item, from whether one was open before it. -/
def Item.opens (isOpen : Bool) : Item → Bool
  | .header _ _ => true
  | .fault _ (.badHeader _) => false
  | _ => isOpen

/-- Directives come only where a section is open. -/
def PlacedFrom : Bool → List Item → Prop
  | _, [] => True
  | isOpen, item :: items =>
    (∀ d, item = .directive d → isOpen = true) ∧ PlacedFrom (item.opens isOpen) items

theorem placedFrom_append (isOpen : Bool) (items items' : List Item) :
    PlacedFrom isOpen (items ++ items') ↔
      PlacedFrom isOpen items ∧ PlacedFrom (items.foldl Item.opens isOpen) items' := by
  induction items generalizing isOpen with
  | nil => exact (true_and _).symm.to_iff
  | cons item items ih =>
    show _ ∧ PlacedFrom (item.opens isOpen) (items ++ items') ↔ (_ ∧ _) ∧ _
    rw [ih, and_assoc]
    rfl

theorem opens_readDirective (inSection isOpen : Bool) (line : Nat) (text : Text) :
    (readDirective inSection line text).opens isOpen = isOpen := by
  unfold readDirective
  split
  · rfl
  · split
    · rfl
    · split <;> rfl

theorem placedFrom_readDirective (isOpen : Bool) (line : Nat) (text : Text) :
    PlacedFrom isOpen [readDirective isOpen line text] :=
  ⟨fun d h => ((readDirective_eq_directive_iff isOpen line text d).1 h).1, trivial⟩

/-- **A step accepts a directive only while a section is open**, and keeps track of that. -/
theorem placedFrom_step (line : Nat) (raw : Text) (st : State) :
    PlacedFrom st.inSection (step line raw st).2 ∧
      (step line raw st).1.inSection = (step line raw st).2.foldl Item.opens st.inSection := by
  have hreads := reads_step line raw st
  generalize step line raw st = r at hreads
  cases hreads with
  | ignored => exact ⟨trivial, rfl⟩
  | header => exact ⟨⟨nofun, trivial⟩, rfl⟩
  | badHeader => exact ⟨⟨nofun, trivial⟩, rfl⟩
  | continued => exact ⟨trivial, rfl⟩
  | completed =>
    exact ⟨placedFrom_readDirective _ _ _, (opens_readDirective _ _ _ _).symm⟩

theorem placedFrom_ofLines (lines : List Text) :
    PlacedFrom false (Reading.ofLines step {} lines).items ∧
      (Reading.ofLines step {} lines).state.inSection
        = (Reading.ofLines step {} lines).items.foldl Item.opens false := by
  induction lines using List.reverseRecOn with
  | nil => exact ⟨trivial, rfl⟩
  | append_singleton lines l ih =>
    obtain ⟨hplaced, hopen⟩ := ih
    rw [Reading.state_ofLines_concat, Reading.items_ofLines_concat, placedFrom_append,
      List.foldl_append, ← hopen]
    obtain ⟨hstep, hnext⟩ := placedFrom_step (lines.length + 1) l
      (Reading.ofLines step {} lines).state
    exact ⟨⟨hplaced, hstep⟩, hnext⟩

/-- **The directives of a unit come where a section is open.** -/
theorem placedFrom_items (lines : List Text) : PlacedFrom false (items lines) := by
  obtain ⟨hplaced, hopen⟩ := placedFrom_ofLines lines
  refine (placedFrom_append _ _ _).2 ⟨hplaced, hopen ▸ ?_⟩
  unfold State.finish
  split
  · exact placedFrom_readDirective _ _ _
  · trivial

/-- A problem opens no section. -/
theorem opens_fault_false (line : Nat) (problem : Problem) :
    (Item.fault line problem).opens false = false := by
  cases problem <;> rfl

/-- No directive of a unit is left without a section. -/
theorem loose_eq_nil {items : List Item} (h : PlacedFrom false items) :
    (items.foldr Sections.add {}).loose = [] := by
  induction items with
  | nil => rfl
  | cons item items ih =>
    cases item with
    | header => rfl
    | directive d => exact absurd (h.1 d rfl) Bool.false_ne_true
    | fault line problem => exact ih (opens_fault_false line problem ▸ h.2)

/-- Where no section is open, a directive comes after a header. -/
theorem exists_header_of_directive {items : List Item} (h : PlacedFrom false items)
    (hitems : items.Pairwise (Before Item.lineNumbers)) {d : Directive}
    (hd : .directive d ∈ items) : ∃ line name, .header line name ∈ items ∧ line < d.line := by
  induction items with
  | nil => exact nomatch hd
  | cons item items ih =>
    obtain ⟨hbefore, hrest⟩ := List.pairwise_cons.1 hitems
    cases item with
    | header line name =>
      rcases List.mem_cons.1 hd with hd | hd
      · exact nomatch hd
      · exact ⟨line, name, List.mem_cons_self,
          hbefore _ hd line (List.mem_singleton_self _) d.line (List.mem_singleton_self _)⟩
    | directive d' => exact absurd (h.1 d' rfl) Bool.false_ne_true
    | fault line problem =>
      rcases List.mem_cons.1 hd with hd | hd
      · exact nomatch hd
      · obtain ⟨n, name, hheader, hlt⟩ := ih (opens_fault_false line problem ▸ h.2) hrest hd
        exact ⟨n, name, List.mem_cons_of_mem _ hheader, hlt⟩

/-- **After a header gone wrong** there is a header before the next directive. -/
theorem exists_header_after_badHeader {items : List Item} (h : PlacedFrom false items)
    (hitems : items.Pairwise (Before Item.lineNumbers)) {line : Nat} {body : Text}
    (hbad : .fault line (.badHeader body) ∈ items) {d : Directive} (hd : .directive d ∈ items)
    (hlt : line < d.line) :
    ∃ n name, .header n name ∈ items ∧ line < n ∧ n < d.line := by
  obtain ⟨front, back, rfl⟩ := List.append_of_mem hbad
  obtain ⟨-, hback, hcross⟩ := List.pairwise_append.1 hitems
  obtain ⟨hafter, hback⟩ := List.pairwise_cons.1 hback
  have hself : ∀ n : Nat, n ∈ [n] := List.mem_singleton_self
  rcases List.mem_append.1 hd with hd | hd
  · have hless := hcross _ hd _ List.mem_cons_self d.line (hself _) line (hself _)
    exact absurd hless (Nat.lt_asymm hlt)
  · rcases List.mem_cons.1 hd with hd | hd
    · exact nomatch hd
    · obtain ⟨n, name, hheader, hn⟩ :=
        exists_header_of_directive ((placedFrom_append _ _ _).1 h).2.2 hback hd
      exact ⟨n, name, List.mem_append_right _ (List.mem_cons_of_mem _ hheader),
        hafter _ hheader line (hself _) n (hself _), hn⟩

/-! ## Sections and items -/

theorem exists_section_of_header {items : List Item} {line : Nat} {name : Text}
    (h : .header line name ∈ items) : ∃ s ∈ sectionsOf items, s.line = line := by
  obtain ⟨front, back, rfl⟩ := List.append_of_mem h
  rw [sectionsOf_append_header]
  exact ⟨_, List.mem_append_right _ List.mem_cons_self, rfl⟩

theorem directive_mem_of_foldr_add {items : List Item} {d : Directive}
    (h : d ∈ (items.foldr Sections.add {}).loose ∨
      ∃ s ∈ (items.foldr Sections.add {}).done, d ∈ s.directives) : .directive d ∈ items := by
  induction items with
  | nil => rcases h with h | ⟨s, hs, -⟩ <;> contradiction
  | cons item items ih =>
    cases item with
    | header line name =>
      refine List.mem_cons_of_mem _ (ih ?_)
      rcases h with h | ⟨s, hs, hd⟩
      · exact nomatch h
      · rcases List.mem_cons.1 hs with rfl | hs
        · exact .inl hd
        · exact .inr ⟨s, hs, hd⟩
    | directive d' =>
      rcases h with h | h
      · rcases List.mem_cons.1 h with rfl | h
        · exact List.mem_cons_self
        · exact List.mem_cons_of_mem _ (ih (.inl h))
      · exact List.mem_cons_of_mem _ (ih (.inr h))
    | fault line problem => exact List.mem_cons_of_mem _ (ih h)

theorem directive_mem_items {lines : List Text} {s : Section} (hs : s ∈ (ofLines lines).sections)
    {d : Directive} (hd : d ∈ s.directives) : .directive d ∈ items lines :=
  directive_mem_of_foldr_add (.inr ⟨s, hs, hd⟩)

/-! ## Line numbers in order -/

/-- The numbers in sections, in the order in which they come, are those of the items without the
problems. -/
theorem lineNumbers_foldr_add (items : List Item) :
    (items.foldr Sections.add {}).loose.map Directive.line
        ++ (items.foldr Sections.add {}).done.flatMap Section.lineNumbers
      = (items.filter (·.fault?.isNone)).flatMap Item.lineNumbers := by
  induction items with
  | nil => rfl
  | cons item items ih =>
    cases item with
    | header line name => exact congrArg (line :: ·) ih
    | directive d => exact congrArg (d.line :: ·) ih
    | fault line problem => exact ih

theorem lineNumbers_sections (lines : List Text) :
    (ofLines lines).sections.flatMap Section.lineNumbers
      = ((items lines).filter (·.fault?.isNone)).flatMap Item.lineNumbers := by
  rw [← lineNumbers_foldr_add, loose_eq_nil (placedFrom_items lines)]
  rfl

theorem lineNumbers_faults (items : List Item) :
    (items.filterMap Item.fault?).map Prod.fst
      = (items.filter (!·.fault?.isNone)).flatMap Item.lineNumbers := by
  induction items with
  | nil => rfl
  | cons item items ih =>
    cases item with
    | header line name => exact ih
    | directive d => exact ih
    | fault line problem => exact congrArg (line :: ·) ih

/-- **The line numbers in a unit are those of its items.** -/
theorem lineNumbers_perm (lines : List Text) :
    (ofLines lines).lineNumbers.Perm ((items lines).flatMap Item.lineNumbers) := by
  have hfaults : (ofLines lines).faults.map Prod.fst
      = ((items lines).filter (!·.fault?.isNone)).flatMap Item.lineNumbers :=
    lineNumbers_faults (items lines)
  unfold lineNumbers
  rw [lineNumbers_sections, hfaults, ← List.flatMap_append]
  exact (List.filter_append_perm _ _).flatMap_right _

/-- Items in the order of the lines have increasing line numbers. -/
theorem pairwise_lineNumbers {items : List Item} (h : items.Pairwise (Before Item.lineNumbers)) :
    (items.flatMap Item.lineNumbers).Pairwise (· < ·) := by
  refine List.pairwise_flatMap.2 ⟨fun item _ => ?_, h⟩
  cases item <;> exact List.pairwise_singleton _ _

theorem nodup_lineNumbers (lines : List Text) : (ofLines lines).lineNumbers.Nodup :=
  (lineNumbers_perm lines).nodup_iff.2
    ((pairwise_lineNumbers (pairwise_items lines)).imp Nat.ne_of_lt)

/-! ## Units without continued lines -/

section

variable {line : Nat} {raw : Text} {st : State}

/-- Where nothing is open, what a line completes is its own. -/
theorem lineNumbers_of_mem_step (hst : st.continued = none) {item : Item}
    (h : item ∈ (step line raw st).2) :
    item.lineNumbers = [line] ∧ isIgnored (Text.trim raw) = false := by
  have hreads := reads_step line raw st
  generalize step line raw st = r at hreads h
  cases hreads with
  | ignored => exact nomatch h
  | header _ hname =>
    rw [List.mem_singleton.1 h]
    exact ⟨rfl, isIgnored_of_head? (head?_of_headerName? hname)⟩
  | badHeader _ hhead =>
    rw [List.mem_singleton.1 h]
    exact ⟨rfl, isIgnored_of_head? hhead⟩
  | continued => exact nomatch h
  | completed hgives =>
    cases hgives with
    | itself _ hbody =>
      rw [List.mem_singleton.1 h]
      exact ⟨lineNumbers_readDirective _ _ _, hbody⟩
    | joined hopen => rw [hst] at hopen; exact nomatch hopen

/-- A line that says something completes an item unless it ends in a backslash. -/
theorem exists_mem_step (line : Nat) (st : State) (hbody : isIgnored (Text.trim raw) = false)
    (hends : Text.endsWith (Text.trim raw) '\\' = false) : ∃ item, item ∈ (step line raw st).2 := by
  have hreads := reads_step line raw st
  generalize step line raw st = r at hreads
  cases hreads with
  | ignored _ hignored => rw [hbody] at hignored; exact nomatch hignored
  | header => exact ⟨_, List.mem_singleton_self _⟩
  | badHeader => exact ⟨_, List.mem_singleton_self _⟩
  | continued hgives h => rw [hgives.endsWith, hends] at h; exact nomatch h
  | completed => exact ⟨_, List.mem_singleton_self _⟩

end

/-- A directive as it is written in a line: a key and a value around the first equals sign. -/
def Directive.IsWrittenIn (d : Directive) (raw : Text) : Prop :=
  ∃ key value, Text.trim raw = key ++ '=' :: value ∧ '=' ∉ key ∧
    d.key = Text.trim key ∧ d.key ≠ [] ∧ d.value = Text.trim value

theorem isWrittenIn_of_mem_step {line : Nat} {raw : Text} {st : State} (hst : st.continued = none)
    {d : Directive} (h : .directive d ∈ (step line raw st).2) :
    d.line = line ∧ d.IsWrittenIn raw := by
  have hreads := reads_step line raw st
  generalize step line raw st = r at hreads h
  cases hreads with
  | ignored => exact nomatch h
  | header => exact nomatch List.mem_singleton.1 h
  | badHeader => exact nomatch List.mem_singleton.1 h
  | continued => exact nomatch h
  | completed hgives =>
    cases hgives with
    | itself =>
      obtain ⟨-, key, value, htext, hfree, hkey, rfl⟩ :=
        (readDirective_eq_directive_iff _ _ _ d).1 (List.mem_singleton.1 h).symm
      exact ⟨rfl, key, value, htext, hfree, rfl, hkey, rfl⟩
    | joined hopen => rw [hst] at hopen; exact nomatch hopen

section

variable {lines : List Text}

theorem continued_eq_none_within (h : ∀ l ∈ lines, Text.endsWith (Text.trim l) '\\' = false)
    {before : List Text} (hbefore : before <+: lines) :
    (Reading.ofLines step {} before).state.continued = none :=
  continued_eq_none fun l hl => h l (hbefore.subset (List.mem_of_getLast? hl))

theorem items_eq (h : ∀ l ∈ lines, Text.endsWith (Text.trim l) '\\' = false) :
    items lines = (Reading.ofLines step {} lines).items := by
  unfold items
  dsimp only
  rw [finish_eq_nil (continued_eq_none_within h List.prefix_rfl), List.append_nil]

/-- **An item is completed by one line**, where no line ends in a backslash. -/
theorem exists_line_of_mem_items (h : ∀ l ∈ lines, Text.endsWith (Text.trim l) '\\' = false)
    {item : Item} (hitem : item ∈ items lines) :
    ∃ n raw st, lines[n]? = some raw ∧ st.continued = none ∧ item ∈ (step (n + 1) raw st).2 := by
  rw [items_eq h] at hitem
  obtain ⟨before, raw, hprefix, hstep⟩ := Reading.exists_step_of_mem_items step {} hitem
  refine ⟨before.length, raw, _, ?_,
    continued_eq_none_within h ((List.prefix_append before [raw]).trans hprefix), hstep⟩
  obtain ⟨rest, rfl⟩ := hprefix
  simp

/-- Every line is read where nothing is open, and what it completes is an item of the unit. -/
theorem exists_state_at_line (h : ∀ l ∈ lines, Text.endsWith (Text.trim l) '\\' = false) {n : Nat}
    {raw : Text} (hraw : lines[n]? = some raw) :
    ∃ st : State, st.continued = none ∧ ∀ item ∈ (step (n + 1) raw st).2, item ∈ items lines := by
  have hprefix : lines.take n ++ [raw] <+: lines := by
    have htake : lines.take (n + 1) = lines.take n ++ [raw] := by
      rw [List.take_add_one, hraw, Option.toList_some]
    exact htake ▸ List.take_prefix (n + 1) lines
  have hlength : (lines.take n).length = n :=
    List.length_take_of_le (List.getElem?_eq_some_iff.1 hraw).1.le
  refine ⟨_, continued_eq_none_within h (List.take_prefix n lines), fun item hitem => ?_⟩
  rw [items_eq h]
  refine Reading.mem_items_of_mem_step step {} hprefix ?_
  rwa [hlength]

/-- **No line is lost**: where no line ends in a backslash, the lines of the headers, directives and
problems are those that say something. -/
theorem mem_lineNumbers_iff (h : ∀ l ∈ lines, Text.endsWith (Text.trim l) '\\' = false) {n : Nat}
    {raw : Text} (hraw : lines[n]? = some raw) :
    n + 1 ∈ (ofLines lines).lineNumbers ↔ isIgnored (Text.trim raw) = false := by
  rw [(lineNumbers_perm lines).mem_iff, List.mem_flatMap]
  constructor
  · rintro ⟨item, hitem, hline⟩
    obtain ⟨m, raw', st, hraw', hst, hstep⟩ := exists_line_of_mem_items h hitem
    obtain ⟨hnumbers, hsays⟩ := lineNumbers_of_mem_step hst hstep
    rw [hnumbers, List.mem_singleton, Nat.add_right_cancel_iff] at hline
    rw [hline, hraw'] at hraw
    rwa [Option.some.inj hraw] at hsays
  · intro hbody
    obtain ⟨st, hst, hitems⟩ := exists_state_at_line h hraw
    obtain ⟨item, hitem⟩ :=
      exists_mem_step (n + 1) st hbody (h raw (List.mem_of_getElem? hraw))
    obtain ⟨hnumbers, -⟩ := lineNumbers_of_mem_step hst hitem
    exact ⟨item, hitems item hitem, hnumbers ▸ List.mem_singleton_self _⟩

theorem count_lineNumbers (h : ∀ l ∈ lines, Text.endsWith (Text.trim l) '\\' = false) {n : Nat}
    {raw : Text} (hraw : lines[n]? = some raw) :
    (ofLines lines).lineNumbers.count (n + 1) = if isIgnored (Text.trim raw) then 0 else 1 := by
  rw [(nodup_lineNumbers lines).count, if_congr (mem_lineNumbers_iff h hraw) rfl rfl]
  cases isIgnored (Text.trim raw) <;> rfl

theorem exists_isWrittenIn (h : ∀ l ∈ lines, Text.endsWith (Text.trim l) '\\' = false)
    {d : Directive} (hd : .directive d ∈ items lines) :
    ∃ n raw, d.line = n + 1 ∧ lines[n]? = some raw ∧ d.IsWrittenIn raw := by
  obtain ⟨n, raw, st, hraw, hst, hstep⟩ := exists_line_of_mem_items h hd
  obtain ⟨hline, hwritten⟩ := isWrittenIn_of_mem_step hst hstep
  exact ⟨n, raw, hline, hraw, hwritten⟩

end

/-! ## The layout -/

/-- **How sections, directives and problems lie in the lines of a unit.** -/
structure Arranged (u : Systemd) : Prop where
  sections : u.sections.Pairwise fun s t => s.line < t.line
  increasing : ∀ s ∈ u.sections, s.directives.Pairwise fun d e => d.line < e.line
  afterHeader : ∀ s ∈ u.sections, ∀ d ∈ s.directives, s.line < d.line
  beforeNext : u.sections.Pairwise fun s t => ∀ d ∈ s.directives, d.line < t.line
  faults : u.faults.Pairwise fun f g => f.1 < g.1
  apart : ∀ f ∈ u.faults, ∀ s ∈ u.sections, f.1 ≠ s.line ∧ ∀ d ∈ s.directives, f.1 ≠ d.line
  /-- A header gone wrong closes the section: a directive after it comes after another header. -/
  closed : ∀ line body, (line, .badHeader body) ∈ u.faults → ∀ s ∈ u.sections,
    ∀ d ∈ s.directives, line < d.line → ∃ t ∈ u.sections, line < t.line ∧ t.line < d.line

/-- Every line that says something is accounted for once, and every directive is one of the
lines. -/
structure Accounted (lines : List Text) (u : Systemd) : Prop where
  /-- The line of one section, directive or problem, or of none if it is blank or a comment. -/
  once : ∀ n raw, lines[n]? = some raw →
    u.lineNumbers.count (n + 1) = if isIgnored (Text.trim raw) then 0 else 1
  source : ∀ s ∈ u.sections, ∀ d ∈ s.directives,
    ∃ n raw, d.line = n + 1 ∧ lines[n]? = some raw ∧ d.IsWrittenIn raw

theorem pairwise_sections (lines : List Text) :
    (∀ s ∈ (ofLines lines).sections, s.lineNumbers.Pairwise (· < ·)) ∧
      (ofLines lines).sections.Pairwise (Before Section.lineNumbers) := by
  refine List.pairwise_flatMap.1 ?_
  rw [lineNumbers_sections]
  exact pairwise_lineNumbers ((pairwise_items lines).filter _)

/-- **The layout of a systemd unit.** Sections, directives and problems are in order, each directive
under the nearest header before it, and where no line ends in a backslash each line that says
something is one of them. -/
theorem arranged_ofLines (lines : List Text) :
    Arranged (ofLines lines) ∧
      ((∀ l ∈ lines, Text.endsWith (Text.trim l) '\\' = false) →
        Accounted lines (ofLines lines)) := by
  obtain ⟨hwithin, hbetween⟩ := pairwise_sections lines
  have hline : ∀ s : Section, s.line ∈ s.lineNumbers := fun s => List.mem_cons_self
  have hdirective : ∀ {s : Section} {d : Directive}, d ∈ s.directives → d.line ∈ s.lineNumbers :=
    fun hd => List.mem_cons_of_mem _ (List.mem_map_of_mem hd)
  refine ⟨?_, fun h => ⟨fun n raw hraw => count_lineNumbers h hraw,
    fun s hs d hd => exists_isWrittenIn h (directive_mem_items hs hd)⟩⟩
  constructor
  case sections => exact hbetween.imp fun h => h _ (hline _) _ (hline _)
  case increasing => exact fun s hs => List.pairwise_map.1 (List.pairwise_cons.1 (hwithin s hs)).2
  case afterHeader =>
    exact fun s hs d hd => (List.pairwise_cons.1 (hwithin s hs)).1 d.line (List.mem_map_of_mem hd)
  case beforeNext => exact hbetween.imp fun h d hd => h _ (hdirective hd) _ (hline _)
  case faults =>
    exact (pairwise_items lines).filterMap _ fun _ _ hbefore _ hf _ hg =>
      hbefore _ (line_mem_of_fault? hf) _ (line_mem_of_fault? hg)
  case apart =>
    intro f hf s hs
    have hdisjoint := (List.nodup_append.1 (nodup_lineNumbers lines)).2.2
    have hapart : ∀ n ∈ s.lineNumbers, f.1 ≠ n := fun n hn =>
      (hdisjoint n (List.mem_flatMap.2 ⟨s, hs, hn⟩) f.1 (List.mem_map_of_mem hf)).symm
    exact ⟨hapart _ (hline s), fun d hd => hapart _ (hdirective hd)⟩
  case closed =>
    intro line body hbad s hs d hd hlt
    obtain ⟨item, hitem, hfault⟩ := List.mem_filterMap.1 hbad
    obtain rfl : item = .fault line (.badHeader body) := by
      cases item with
      | fault line' problem =>
        obtain ⟨rfl, rfl⟩ := Prod.mk.inj (Option.some.inj hfault)
        rfl
      | _ => exact nomatch hfault
    obtain ⟨n, name, hheader, hafter, hbefore⟩ := exists_header_after_badHeader
      (placedFrom_items lines) (pairwise_items lines) hitem (directive_mem_items hs hd) hlt
    obtain ⟨t, ht, rfl⟩ := exists_section_of_header hheader
    exact ⟨t, ht, hafter, hbefore⟩

/-- A header gone wrong between two sections, and a line without an equals sign. -/
theorem arranged_ofLines_after_bad_header :
    let lines : List Text :=
      ["[Unit]", "After=a = b", "[Service", "User=x", "; nobody", "[Install]", "Alias", "Alias=c"]
    Arranged (ofLines lines) ∧ Accounted lines (ofLines lines) ∧
      (ofLines lines).faults
        = [(3, .badHeader "[Service"), (4, .noSection), (7, .noEquals "Alias")] ∧
      (ofLines lines).lineNumbers.count 5 = 0 ∧ (ofLines lines).lineNumbers.count 8 = 1 := by
  intro lines
  obtain ⟨harranged, haccounted⟩ := arranged_ofLines lines
  exact ⟨harranged, haccounted (by decide), by decide, by decide, by decide⟩

end OpsLint.Systemd

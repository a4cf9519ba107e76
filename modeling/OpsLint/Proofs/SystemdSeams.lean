import OpsLint.Proofs.SystemdStep

/-!
# Cutting systemd units in two

A unit can be cut in front of every header, and the two parts can be read each by itself: sections
and problems of the whole are those of the first part and then those of the second, with line
numbers that are greater by the length of the first part (`ofLines_append_of_header`). All that has
to be known about the first part is that its last line does not end in a backslash. A directive of
it is not open then, and whether a section is open, or has been closed by a header gone wrong, is
forgotten at the header.

Reading the second part further down changes nothing but line numbers (`step_shift`), and its
directives all come after its first header, so that none of them is left to the sections of the
first part (`sectionsOf_append_header`).
-/

namespace OpsLint.Systemd

/-! ## Further down -/

section

variable (n : Nat)

/-- What is read so many lines further down. -/
def Directive.shift (d : Directive) : Directive := { d with line := d.line + n }

@[inherit_doc Directive.shift]
def Section.shift (s : Section) : Section :=
  { s with line := s.line + n, directives := s.directives.map (·.shift n) }

@[inherit_doc Directive.shift]
def Item.shift : Item → Item
  | .header line name => .header (line + n) name
  | .directive d => .directive (d.shift n)
  | .fault line problem => .fault (line + n) problem

@[inherit_doc Directive.shift]
def Sections.shift (s : Sections) : Sections :=
  { done := s.done.map (·.shift n), loose := s.loose.map (·.shift n) }

@[inherit_doc Directive.shift]
def State.shift (st : State) : State :=
  { st with continued := st.continued.map (Prod.map (· + n) id) }

/-- A state and items so many lines further down. -/
def shiftBoth (r : State × List Item) : State × List Item := (r.1.shift n, r.2.map (·.shift n))

@[inherit_doc Directive.shift]
def shift (u : Systemd) : Systemd :=
  { sections := u.sections.map (·.shift n)
    faults := u.faults.map (Prod.map (· + n) id) }

end

theorem readDirective_shift (n : Nat) (inSection : Bool) (line : Nat) (text : Text) :
    readDirective inSection (line + n) text = (readDirective inSection line text).shift n := by
  unfold readDirective
  split
  · rfl
  · split
    · rfl
    · split <;> rfl

theorem directive_shift (n : Nat) (st : State) (line : Nat) (text : Text) :
    (st.shift n).directive (line + n) text = shiftBoth n (st.directive line text) := by
  unfold State.directive
  split
  · rfl
  · show ({ st.shift n with continued := none },
      [readDirective st.inSection (line + n) text]) = _
    rw [readDirective_shift]
    rfl

/-- **A step does the same further down.** -/
theorem step_shift (n line : Nat) (raw : Text) (st : State) :
    step (line + n) raw (st.shift n) = shiftBoth n (step line raw st) := by
  obtain ⟨inSection, continued⟩ := st
  cases continued with
  | some first => exact directive_shift n _ first.1 _
  | none =>
    unfold step
    dsimp only [State.shift, Option.map_none]
    split
    · rfl
    · split
      · split <;> rfl
      · exact directive_shift n { inSection } line _

theorem finish_shift (n : Nat) (st : State) :
    (st.shift n).finish = st.finish.map (·.shift n) := by
  obtain ⟨inSection, continued⟩ := st
  cases continued with
  | some first => exact congrArg (fun item => [item]) (readDirective_shift n inSection first.1 _)
  | none => rfl

/-! ## Units of items -/

/-- The unit that is made of items. -/
def ofItems (items : List Item) : Systemd :=
  { sections := sectionsOf items, faults := items.filterMap Item.fault? }

/-- What is in two units, one after the other. -/
def append (u v : Systemd) : Systemd :=
  { sections := u.sections ++ v.sections, faults := u.faults ++ v.faults }

theorem foldr_add_shift (n : Nat) (items : List Item) :
    (items.map (·.shift n)).foldr Sections.add {} = (items.foldr Sections.add {}).shift n := by
  induction items with
  | nil => rfl
  | cons item items ih =>
    rw [List.map_cons, List.foldr_cons, List.foldr_cons, ih]
    cases item <;> rfl

/-- **Items further down make the same unit further down.** -/
theorem ofItems_shift (n : Nat) (items : List Item) :
    ofItems (items.map (·.shift n)) = (ofItems items).shift n := by
  have hfault : ∀ item : Item, (item.shift n).fault? = item.fault?.map (Prod.map (· + n) id) :=
    fun item => by cases item <;> rfl
  unfold ofItems shift sectionsOf
  simp only [foldr_add_shift, Sections.shift, List.filterMap_map, List.map_filterMap,
    Function.comp_def, hfault]

/-- Sections are put in front of those that come after, and take up their loose directives. -/
theorem foldr_add (items : List Item) (s : Sections) :
    items.foldr Sections.add s
      = { done := (items.foldr Sections.add { loose := s.loose }).done ++ s.done
          loose := (items.foldr Sections.add { loose := s.loose }).loose } := by
  induction items with
  | nil => rfl
  | cons item items ih =>
    rw [List.foldr_cons, List.foldr_cons, ih]
    cases item <;> rfl

/-- **A header leaves no directive to the sections before it.** -/
theorem sectionsOf_append_header (items : List Item) (line : Nat) (name : Text)
    (rest : List Item) :
    sectionsOf (items ++ .header line name :: rest)
      = sectionsOf items ++ sectionsOf (.header line name :: rest) := by
  unfold sectionsOf
  rw [List.foldr_append, foldr_add]
  rfl

theorem ofItems_append_header (items : List Item) (line : Nat) (name : Text) (rest : List Item) :
    ofItems (items ++ .header line name :: rest)
      = (ofItems items).append (ofItems (.header line name :: rest)) := by
  unfold ofItems append
  rw [sectionsOf_append_header, List.filterMap_append]

/-! ## Cutting -/

/-- The items of a unit that begins with a header. -/
theorem items_cons_of_header {l name : Text} (hl : headerName? (Text.trim l) = some name)
    (rest : List Text) :
    items (l :: rest) = .header 1 name ::
      ((Reading.onward step 1 { inSection := true } rest).items
        ++ (Reading.onward step 1 { inSection := true } rest).state.finish) := by
  have hstart : Reading.ofLines step {} (l :: rest) = Reading.onward step 0 {} (l :: rest) := rfl
  unfold items
  dsimp only
  rw [hstart, Reading.items_onward_cons, Reading.state_onward_cons, step_of_header hl rfl]
  rfl

/-- Where no directive is open, the items from a header on are the same further down. -/
theorem items_append {a : List Text} (ha : (Reading.ofLines step {} a).state.continued = none)
    {l name : Text} (hl : headerName? (Text.trim l) = some name) (rest : List Text) :
    items (a ++ l :: rest) = items a ++ (items (l :: rest)).map (·.shift a.length) := by
  obtain ⟨hstate, hitems⟩ := Reading.onward_shift 1
    (fun line raw st _ => step_shift a.length line raw st) { inSection := true } rest
  rw [items_cons_of_header hl]
  unfold items
  dsimp only
  rw [Reading.items_ofLines_append, Reading.state_ofLines_append, Reading.items_onward_cons,
    Reading.state_onward_cons, step_of_header hl ha, finish_eq_nil ha, List.append_nil,
    List.append_assoc, List.map_cons, List.map_append, ← hitems, ← finish_shift, ← hstate,
    Nat.add_comm a.length 1]
  rfl

/-- **A unit can be cut in front of every header**, unless the line before it ends in a backslash.
Neither the directives nor the problems nor the open section of the first part have a part in what
the second is read as. -/
theorem ofLines_append_of_header (a : List Text)
    (ha : ∀ last, a.getLast? = some last → Text.endsWith (Text.trim last) '\\' = false)
    (l : Text) (hl : IsHeader (Text.trim l)) (rest : List Text) :
    ofLines (a ++ l :: rest) = (ofLines a).append ((ofLines (l :: rest)).shift a.length) := by
  obtain ⟨name, hname⟩ := (isHeader_iff _).1 hl
  have hitems := items_cons_of_header hname rest
  calc ofLines (a ++ l :: rest)
      = ofItems (items a ++ (items (l :: rest)).map (·.shift a.length)) :=
        congrArg ofItems (items_append (continued_eq_none ha) hname rest)
    _ = (ofLines a).append (ofItems ((items (l :: rest)).map (·.shift a.length))) := by
        rw [hitems, List.map_cons]
        exact ofItems_append_header (items a) _ name _
    _ = (ofLines a).append ((ofLines (l :: rest)).shift a.length) :=
        congrArg (ofLines a).append (ofItems_shift a.length (items (l :: rest)))

/-- A header after a directive that a blank line has ended, and after a header gone wrong. -/
theorem ofLines_append_of_header_after_bad_header :
    let a : List Text := ["[Service]", "ExecStart=/bin/app \\", "", "[Install", "Alias=app"]
    let b : List Text := ["Restart=no"]
    (ofLines a).sections.length = 1 ∧ (ofLines a).faults.length = 2 ∧
      ofLines (a ++ (" [Unit] " : Text) :: b)
        = (ofLines a).append ((ofLines ((" [Unit] " : Text) :: b)).shift 5) := by
  intro a b
  exact ⟨by decide, by decide, ofLines_append_of_header a (by rintro last ⟨⟩; decide) " [Unit] "
    ⟨"Unit", by decide, by decide, by decide, by decide⟩ b⟩

end OpsLint.Systemd

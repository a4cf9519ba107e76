import OpsLint.Proofs.ReferencePlaces

/-!
# Commands over several lines

A command that removes files is looked for **in one line at a time**. So a command that is broken
over two lines by a backslash may be found in one of them, while the variables that are passed to it
stand in the other, and they are not reported.

What is reported about a makefile is what is reported about each line of its recipes
(`map_message_unquotedVariables`), so breaking a line changes nothing but the part of that line: it
had its names reported, and now the two lines have theirs (`sameReports_iff`). If the break is not
within a quotation or a reference, the names are the same, and the report is if and only if a part
that has some to report removes files whenever the other part does.
-/

namespace OpsLint.Makefile

/-! ## What is reported about one line -/

/-- The names of the references in a list that are not quoted. -/
def unquoted (refs : List VariableRef) : List Text :=
  (refs.filter (!·.quoted)).map VariableRef.name

/-- The names that are reported about an item. -/
def Item.reportedNames (item : Item) : List Text :=
  if removesFiles item.command then unquoted item.refs else []

theorem unquotedMessage_inj {name name' : Text} (h : unquotedMessage name = unquotedMessage name') :
    name = name' :=
  List.append_cancel_left (List.append_cancel_right h)

theorem command_of_mem_inlineRecipe {n : Nat} {rule : RuleLine} {r : RecipeLine}
    (h : r ∈ inlineRecipe n rule) : Item.command (.rule n rule) = r.text := by
  rw [inlineRecipe_eq] at h
  split at h
  · exact nomatch h
  · rw [List.mem_singleton.1 h]

/-- Every recipe line of a target is held by an item. -/
theorem exists_command_of_mem_recipe {items : List Item} {t : Target} (ht : t ∈ targetsOf items)
    {r : RecipeLine} (hr : r ∈ t.recipe) :
    ∃ item ∈ items, r.line ∈ item.lineNumbers ∧ item.command = r.text := by
  obtain ⟨front, line, rule, rest, rfl, htarget⟩ := mem_targetsOf ht
  obtain ⟨name, -, rfl⟩ := List.mem_map.1 htarget
  rcases List.mem_append.1 hr with hr | hr
  · refine ⟨.rule line rule, List.mem_append_right front List.mem_cons_self, ?_,
      command_of_mem_inlineRecipe hr⟩
    rw [line_of_mem_inlineRecipe hr]
    exact List.mem_singleton_self line
  · obtain ⟨raw, hraw, htext⟩ := exists_item_of_mem_looseRecipe hr
    exact ⟨.recipe r.line raw, List.mem_append_right front (List.mem_cons_of_mem _ hraw),
      List.mem_singleton_self _, htext.symm⟩

/-- Every recipe line that an item holds is that of a target. -/
theorem exists_recipe_of_command {lines : List Text} {item : Item} (h : item ∈ items lines)
    {n : Nat} (hn : n ∈ item.lineNumbers) (hcommand : item.command ≠ []) :
    ∃ t ∈ (ofLines lines).targets, ⟨item.command, n⟩ ∈ t.recipe := by
  cases item with
  | recipe line raw =>
    have hnames : ∀ line rule, .rule line rule ∈ items lines → rule.names ≠ [] :=
      fun _ _ hrule => sound_of_mem_items hrule
    obtain rfl := List.mem_singleton.1 hn
    refine (mem_looseRecipe_or_mem_recipe hnames h).resolve_left fun hloose => ?_
    rw [looseRecipe_items] at hloose
    exact nomatch hloose
  | rule line rule =>
    obtain rfl := List.mem_singleton.1 hn
    obtain ⟨t, ht, -, hrecipe⟩ := exists_target_of_rule h (sound_of_mem_items h)
    refine ⟨t, ht, hrecipe _ ?_⟩
    rw [inlineRecipe_eq, if_neg (by simpa using hcommand)]
    exact List.mem_singleton_self _
  | phony names => exact absurd rfl hcommand
  | fault line problem => exact absurd rfl hcommand

/-- **Whether a line removes files** is said by the item on it. -/
theorem contains_removingLines {lines : List Text} {item : Item} (h : item ∈ items lines)
    {n : Nat} (hn : n ∈ item.lineNumbers) :
    (ofLines lines).removingLines.contains n = removesFiles item.command := by
  rw [Bool.eq_iff_iff, List.contains_iff_mem]
  constructor
  · intro hmem
    obtain ⟨t, ht, hmem⟩ := List.mem_flatMap.1 hmem
    obtain ⟨r, hr, rfl⟩ := List.mem_map.1 hmem
    obtain ⟨hr, hremoves⟩ := List.mem_filter.1 hr
    obtain ⟨item', hitem', hline, hcommand⟩ := exists_command_of_mem_recipe ht hr
    rw [eq_of_mem_lineNumbers (pairwise_items lines) h hitem' hn hline, hcommand]
    exact hremoves
  · intro hremoves
    have hne : item.command ≠ [] := fun hnil => by rw [hnil] at hremoves; exact nomatch hremoves
    obtain ⟨t, ht, hr⟩ := exists_recipe_of_command h hn hne
    exact List.mem_flatMap.2 ⟨t, ht, List.mem_map.2 ⟨_, List.mem_filter.2 ⟨hr, hremoves⟩, rfl⟩⟩

/-- **What is reported about a makefile** is what is reported about its items. -/
theorem map_message_unquotedVariables (lines : List Text) :
    (unquotedVariables (ofLines lines)).map Finding.message
      = ((items lines).flatMap Item.reportedNames).map unquotedMessage := by
  have hitem : ∀ item ∈ items lines,
      (item.refs.filter fun ref =>
        !ref.quoted && (ofLines lines).removingLines.contains ref.line).map VariableRef.name
        = item.reportedNames := by
    intro item hitem
    have hline : ∀ ref ∈ item.refs,
        (ofLines lines).removingLines.contains ref.line = removesFiles item.command :=
      fun ref href => contains_removingLines hitem (line_mem_of_mem_refs href)
    have hfilter : (item.refs.filter fun ref =>
        !ref.quoted && (ofLines lines).removingLines.contains ref.line)
        = item.refs.filter fun ref => !ref.quoted && removesFiles item.command :=
      List.filter_congr fun ref href => by rw [hline ref href]
    rw [hfilter, Item.reportedNames, unquoted]
    cases removesFiles item.command with
    | true => simp
    | false => simp
  calc (unquotedVariables (ofLines lines)).map Finding.message
      = (((ofLines lines).refs.filter fun ref =>
          !ref.quoted && (ofLines lines).removingLines.contains ref.line).map
            VariableRef.name).map unquotedMessage := by
        unfold unquotedVariables
        rw [List.map_map, List.map_map]
        rfl
    _ = ((items lines).flatMap Item.reportedNames).map unquotedMessage := by
        refine congrArg (List.map unquotedMessage) ?_
        show (((items lines).flatMap Item.refs).filter _).map _ = _
        rw [List.filter_flatMap, List.map_flatMap]
        exact List.flatMap_congr hitem

/-! ## Commands that remove files -/

theorem beginsRemove_iff (s : Text) :
    beginsRemove s = true ↔ ∃ c, Text.isBlank c = true ∧ ['r', 'm', c] <+: s := by
  unfold beginsRemove
  constructor
  · intro h
    obtain ⟨c, hc, hblank⟩ := (Option.any_eq_true _ _).1 h
    obtain ⟨rest, hrest, hhead⟩ := Option.bind_eq_some_iff.1 hc
    obtain ⟨t, rfl⟩ := List.head?_eq_some_iff.1 hhead
    exact ⟨c, hblank, t, (Text.eq_append_of_dropStart? hrest).symm⟩
  · rintro ⟨c, hblank, t, rfl⟩
    exact hblank

theorem beginsRemove_cons_of_blank {c : Char} (h : Text.isBlank c = true) (s : Text) :
    beginsRemove (c :: s) = false := by
  refine eq_false_of_ne_true fun hbegins => ?_
  obtain ⟨d, -, t, heq⟩ := (beginsRemove_iff _).1 hbegins
  rw [← (List.cons.inj heq).1] at h
  exact Bool.false_ne_true h

/-- Whether a text begins with the command is seen up to the first blank. -/
theorem beginsRemove_append {c : Char} (h : Text.isBlank c = true) (s t : Text) :
    beginsRemove (s ++ c :: t) = beginsRemove (s ++ [c]) := by
  have hprefix : s ++ [c] <+: s ++ c :: t := ⟨t, by simp⟩
  rw [Bool.eq_iff_iff, beginsRemove_iff, beginsRemove_iff]
  refine exists_congr fun d => and_congr_right fun _ => ⟨fun hbegins => ?_, (·.trans hprefix)⟩
  rcases Nat.le_total ['r', 'm', d].length (s ++ [c]).length with hle | hle
  · exact List.prefix_of_prefix_length_le hbegins hprefix hle
  · obtain ⟨rest, hrest⟩ := List.prefix_of_prefix_length_le hprefix hbegins hle
    cases rest with
    | nil =>
      rw [List.append_nil] at hrest
      exact hrest ▸ List.prefix_rfl
    | cons e rest =>
      -- then the blank is one of the letters of the command
      have hmem : c ∈ ['r', 'm', d].dropLast := by
        rw [← hrest, List.dropLast_append_of_ne_nil (List.cons_ne_nil e rest)]
        simp
      simp only [List.dropLast, List.mem_cons, List.not_mem_nil, or_false] at hmem
      obtain rfl | rfl := hmem <;> exact absurd h Bool.false_ne_true

/-- **What removes files does so before a blank or after it.** -/
theorem removesAfter_append {c : Char} (h : Text.isBlank c = true) (s t : Text) :
    removesAfter (s ++ c :: t) = (removesAfter (s ++ [c]) || removesAfter (c :: t)) := by
  induction s with
  | nil =>
    have hnone : removesAfter [c] = false := by
      rw [removesAfter, removesAfter, Bool.or_false]
      exact Bool.and_false _
    rw [List.nil_append, List.nil_append, hnone, Bool.false_or]
  | cons d s ih =>
    rw [List.cons_append, List.cons_append, removesAfter, removesAfter, ih,
      beginsRemove_append h s t, Bool.or_assoc]

/-- Blanks in front of a text count as one. -/
theorem removesAfter_blanks {blanks : Text} (h : ∀ c ∈ blanks, Text.isBlank c = true) {c : Char}
    (hc : Text.isBlank c = true) (t : Text) :
    removesAfter (c :: (blanks ++ t)) = removesFiles t := by
  induction blanks generalizing c with
  | nil =>
    rw [List.nil_append, removesAfter, precedesCommand, hc]
    rfl
  | cons d blanks ih =>
    obtain ⟨hd, hblanks⟩ := List.forall_mem_cons.1 h
    rw [List.cons_append, removesAfter, beginsRemove_cons_of_blank hd, Bool.and_false,
      Bool.false_or]
    exact ih hblanks hd

theorem removesFiles_trim (s : Text) :
    removesFiles (Text.trim s) = removesAfter (' ' :: Text.trimRight s) := by
  by_cases h : Text.trim s = []
  · have hright : Text.trimRight s = [] := by
      rw [Text.trimRight_eq_nil_iff, ← Text.trimLeft_eq_nil_iff, ← Text.trim_eq_nil_iff]
      exact h
    rw [h, hright]
    rfl
  · rw [Text.trimRight_eq_append_trim h]
    exact (removesAfter_blanks (fun _ hc => List.mem_takeWhile_imp hc) rfl _).symm

/-- **A command in two parts** removes files if and only if one of the parts does. -/
theorem removesFiles_whole {u w : Text} (hw : Text.trim w ≠ []) :
    removesFiles (Text.trim (u ++ ' ' :: w))
      = (removesFiles (Text.trim (u ++ " \\")) || removesFiles (Text.trim w)) := by
  have hright : Text.trimRight (' ' :: w) = ' ' :: Text.trimRight w := by
    refine Text.trimRight_append (fun hnil => hw ?_) [' ']
    rw [Text.trim_eq_nil_iff, Text.trimLeft_eq_nil_iff, ← Text.trimRight_eq_nil_iff]
    exact hnil
  have hne : Text.trimRight (' ' :: w) ≠ [] := by
    rw [hright]
    exact List.cons_ne_nil _ _
  have hfirst : Text.trimRight (u ++ " \\") = u ++ ' ' :: ['\\'] :=
    Text.trimRight_append (t := " \\") (by decide) u
  rw [removesFiles_trim, removesFiles_trim, removesFiles_trim, Text.trimRight_append hne, hright,
    hfirst, ← List.cons_append, ← List.cons_append, removesAfter_append rfl,
    removesAfter_append rfl (' ' :: u) ['\\'], Bool.or_assoc]
  rfl

/-! ## References in two lines -/

/-- Nothing is open after a blank that is not quoted. -/
theorem read_of_blank {scan : QuoteScan} (h : scan.quote = none) {c : Char}
    (hc : Text.isBlank c = true) : scan.read c = {} := by
  obtain ⟨quote, escaped⟩ := scan
  obtain rfl : quote = none := h
  have hne : ∀ mark, Text.isBlank mark = false → c ≠ mark := by
    rintro mark hmark rfl
    rw [hmark] at hc
    exact Bool.false_ne_true hc
  cases escaped with
  | true => rfl
  | false => simp [QuoteScan.read, hne '\\' rfl, hne '\'' rfl, hne '"' rfl]

theorem refsFrom_cons_of_blank {scan : QuoteScan} (h : scan.quote = none) {c : Char}
    (hc : Text.isBlank c = true) (last : Option Char) (pos : Nat) (s : Text) :
    refsFrom scan last pos 0 (c :: s) = refsFrom {} (some c) (pos + 1) 0 s := by
  have hdollar : c ≠ '$' := by
    rintro rfl
    exact Bool.false_ne_true hc
  rw [refsFrom_cons, read_of_blank h hc, refAt?, if_neg fun h => hdollar h.2.1]
  rfl

theorem leavesOpen_of_tab {u : Text} (h : LeavesOpen none ('\t' :: u)) : LeavesOpen none u := by
  obtain ⟨before, rest, hu, hlast, hopen⟩ := h
  cases before with
  | nil => exact absurd (List.cons.inj hu).1 (by decide)
  | cons c before =>
    obtain ⟨rfl, rfl⟩ := List.cons.inj hu
    refine ⟨before, rest, rfl, fun hdollar => hlast ?_, hopen⟩
    have hne : before ≠ [] := fun hnil => by rw [hnil] at hdollar; exact nomatch hdollar
    exact (List.getLast?_append_of_ne_nil ['\t'] hne).trans hdollar

/-- The names of variables in a line that are not quoted. -/
def unquotedNames (raw : Text) : List Text := unquoted (variableRefs raw 1 0)

theorem unquoted_variableRefs (text : Text) (line offset : Nat) :
    unquoted (variableRefs text line offset)
      = (((refsFrom {} none 0 0 text).map Prod.snd).filter (!·.2)).map Prod.fst := by
  simp only [unquoted, variableRefs, List.filter_map, List.map_map, Function.comp_def]

/-- A recipe line with a command in two parts. -/
def wholeLine (u w : Text) : Text := '\t' :: (u ++ ' ' :: w)

/-- A recipe line with the first part of a command. -/
def firstLine (u : Text) : Text := '\t' :: (u ++ " \\")

/-- A recipe line with the second part of a command. -/
def secondLine (w : Text) : Text := '\t' :: w

/-- **The references of a command in two parts** are those of the parts, if nothing is open where
the first ends. -/
theorem unquotedNames_wholeLine {u : Text} (hquote : endsInQuote u = false)
    (hopen : ¬ LeavesOpen none u) (w : Text) :
    unquotedNames (wholeLine u w)
      = unquotedNames (firstLine u) ++ unquotedNames (secondLine w) := by
  have hscan : (('\t' :: u).foldl QuoteScan.read {}).quote = none := by
    rw [List.foldl_cons, read_of_blank rfl rfl]
    simpa [endsInQuote] using hquote
  -- what follows the first part is read as if it began a line
  have happend : ∀ t, refsFrom {} none 0 0 ('\t' :: (u ++ ' ' :: t))
      = refsFrom {} none 0 0 ('\t' :: u) ++ refsFrom {} (some ' ') (u.length + 2) 0 t := by
    intro t
    rw [← List.cons_append, refsFrom_append (fun c hc => by rw [← Option.some.inj hc]; rfl) _ _
      (Nat.zero_le _) fun h => hopen (leavesOpen_of_tab h), refsFrom_cons_of_blank hscan rfl]
    simp
  have hfirst : refsFrom {} none 0 0 (firstLine u) = refsFrom {} none 0 0 ('\t' :: u) :=
    (happend ['\\']).trans (List.append_nil _)
  have hsecond : (refsFrom {} none 0 0 (secondLine w)).map Prod.snd
      = (refsFrom {} (some ' ') (u.length + 2) 0 w).map Prod.snd := by
    rw [secondLine, refsFrom_cons_of_blank rfl rfl]
    exact map_snd_refsFrom {} (by decide) _ _ _ _
  simp only [unquotedNames, unquoted_variableRefs]
  rw [wholeLine, happend, hfirst, hsecond, List.map_append, List.filter_append, List.map_append]

/-! ## Breaking a line -/

/-- A line that begins with a tab will be part of a recipe. -/
def State.TakesRecipe (st : State) : Prop :=
  st.phase = .recipe ∨ st.phase = .fresh ∧ st.inRule = true

theorem step_of_takesRecipe {st : State} (h : st.TakesRecipe) {raw : Text}
    (htab : raw.head? = some '\t') (line : Nat) :
    step line raw st = st.recipeLine line raw := by
  unfold step
  rcases h with h | ⟨h, hrule⟩
  · rw [h]
  · rw [h]
    dsimp only
    rw [State.fresh, if_pos htab, if_pos hrule]

/-- A complete line that is not part of a recipe yields no recipe line. -/
theorem recipe_notMem_of_completes {st : State} {line : Nat} {indented : Bool} {text : Text}
    {r : State × List Item} (h : Completes st line indented text r) (n : Nat) (raw : Text) :
    .recipe n raw ∉ r.2 := by
  cases h <;> simp

/-- **A recipe line is read from a state that has a place for it.** -/
theorem takesRecipe_of_recipe {lines : List Text} {n : Nat} {raw : Text}
    (h : .recipe n raw ∈ items lines) :
    ∃ before, before ++ [raw] <+: lines ∧ n = before.length + 1 ∧
      (Reading.ofLines step {} before).state.TakesRecipe := by
  rcases List.mem_append.1 h with h | h
  · obtain ⟨before, raw', hprefix, hstep⟩ := Reading.exists_step_of_mem_items step {} h
    have hreads := reads_step (before.length + 1) raw' (Reading.ofLines step {} before).state
    generalize step (before.length + 1) raw' (Reading.ofLines step {} before).state = r
      at hreads hstep
    cases hreads with
    | recipe hst =>
      obtain ⟨rfl, rfl⟩ := Item.recipe.inj (List.mem_singleton.1 hstep)
      exact ⟨before, hprefix, rfl, hst.imp_right fun h => ⟨h.1, h.2.2⟩⟩
    | completed _ _ hr => exact absurd hstep (recipe_notMem_of_completes hr n raw)
    | skipped => exact nomatch hstep
    | endsDefinition => exact nomatch hstep
    | ignored => exact nomatch hstep
    | strayRecipe => exact nomatch List.mem_singleton.1 hstep
    | spacesForTab => exact nomatch List.mem_singleton.1 hstep
    | continued => exact nomatch hstep
  · unfold State.finish at h
    split at h
    · exact absurd h (recipe_notMem_of_completes (completes_complete _ _ _ _) n raw)
    · exact nomatch h

theorem takesRecipe_of_inRecipe {a b : List Text} {raw : Text} (htab : raw.head? = some '\t')
    (h : (ofLines (a ++ raw :: b)).InRecipe (a.length + 1)) :
    (Reading.ofLines step {} a).state.TakesRecipe := by
  have hline : (a ++ raw :: b)[a.length]? = some raw := by simp
  rcases exists_item_of_inRecipe h with ⟨rule, hrule⟩ | ⟨raw', hraw⟩
  · -- no rule begins with a tab
    obtain ⟨text, l, hl, -⟩ := exists_readFrom_of_rule hrule
    have hread := hl.line.getElem?.2
    rw [Nat.add_sub_cancel, hline] at hread
    exact absurd (Option.some.inj hread ▸ htab) hl.noTab
  · obtain ⟨before, hprefix, hlength, hst⟩ := takesRecipe_of_recipe hraw
    have hbefore : before = a := by
      have ha : a <+: a ++ raw :: b := List.prefix_append a (raw :: b)
      have hfront := (List.prefix_append before [raw']).trans hprefix
      exact (List.prefix_of_prefix_length_le hfront ha (by omega)).eq_of_length (by omega)
    rwa [hbefore] at hst

theorem reportedNames_shift (n : Nat) (item : Item) :
    (item.shift n).reportedNames = item.reportedNames := by
  have hcommand : (item.shift n).command = item.command := by cases item <;> rfl
  unfold Item.reportedNames unquoted
  rw [hcommand, refs_shift, List.filter_map, List.map_map]
  rfl

/-- The names that are reported about a recipe line. -/
def reportedNames (raw : Text) : List Text :=
  if removesFiles (Text.trim raw) then unquotedNames raw else []

theorem reportedNames_recipe (n : Nat) (raw : Text) :
    Item.reportedNames (.recipe n raw) = reportedNames raw := by
  simp only [Item.reportedNames, Item.command, Item.refs, reportedNames, unquotedNames,
    unquoted_variableRefs]

/-- The same is reported about two makefiles, wherever it is. -/
def SameReports (lines lines' : List Text) : Prop :=
  (unquotedVariables (ofLines lines)).map Finding.message
    = (unquotedVariables (ofLines lines')).map Finding.message

instance (lines lines' : List Text) : Decidable (SameReports lines lines') :=
  inferInstanceAs (Decidable (_ = _))

theorem sameReports_iff_flatMap (lines lines' : List Text) :
    SameReports lines lines' ↔
      (items lines).flatMap Item.reportedNames = (items lines').flatMap Item.reportedNames := by
  unfold SameReports
  rw [map_message_unquotedVariables, map_message_unquotedVariables]
  exact List.map_inj_right fun _ _ => unquotedMessage_inj

/-- The state after a recipe line, as far as the next line depends on it. -/
def State.afterRecipe (st : State) (continued : Bool) : State :=
  { st with phase := if continued then .recipe else .fresh }

theorem shift_afterRecipe (n : Nat) (st : State) (continued : Bool) :
    (st.afterRecipe continued).shift n = st.afterRecipe continued := by
  cases continued <;> rfl

/-- What is reported from a recipe line on. -/
theorem flatMap_itemsFrom_recipe {st : State} (h : st.TakesRecipe) {raw : Text}
    (htab : raw.head? = some '\t') (count : Nat) (b : List Text) :
    (itemsFrom count st (raw :: b)).flatMap Item.reportedNames
      = reportedNames raw ++ (itemsFrom (count + 1) (st.afterRecipe (isContinued raw)) b).flatMap
          Item.reportedNames := by
  rw [itemsFrom_cons, step_of_takesRecipe h htab, List.flatMap_append]
  refine congrArg (· ++ _) ?_
  show Item.reportedNames (.recipe (count + 1) raw) ++ [] = _
  rw [List.append_nil, reportedNames_recipe]

/-- **Breaking a line changes what is reported about that line only.** -/
theorem sameReports_broken {a : List Text} {u w : Text}
    (ha : (Reading.ofLines step {} a).state.TakesRecipe) (hw : Text.trim w ≠ []) (b : List Text) :
    SameReports (a ++ firstLine u :: secondLine w :: b) (a ++ wholeLine u w :: b) ↔
      reportedNames (firstLine u) ++ reportedNames (secondLine w)
        = reportedNames (wholeLine u w) := by
  have hright : Text.trimRight w ≠ [] := by
    rwa [ne_eq, Text.trimRight_eq_nil_iff, ← Text.trimLeft_eq_nil_iff, ← Text.trim_eq_nil_iff]
  have hfirst : isContinued (firstLine u) = true :=
    isContinued_append (t := " \\") (by decide) ('\t' :: u)
  have hsecond : isContinued (secondLine w) = isContinued w := isContinued_append hright ['\t']
  have hwhole : isContinued (wholeLine u w) = isContinued w := by
    have hline : wholeLine u w = '\t' :: (u ++ [' ']) ++ w := by simp [wholeLine]
    rw [hline, isContinued_append hright]
  generalize hst : (Reading.ofLines step {} a).state = st at ha
  -- the rest of the file is read in the same state, one line further down
  have hrest : (itemsFrom (a.length + 2) (st.afterRecipe (isContinued w)) b).flatMap
        Item.reportedNames
      = (itemsFrom (a.length + 1) (st.afterRecipe (isContinued w)) b).flatMap
        Item.reportedNames := by
    have hshift := itemsFrom_shift 1 (a.length + 1) (st.afterRecipe (isContinued w)) b
    rw [shift_afterRecipe] at hshift
    rw [hshift, List.flatMap_map]
    exact congrArg (List.flatMap · _) (funext (reportedNames_shift 1))
  have hnext : (st.afterRecipe true).TakesRecipe := .inl rfl
  rw [sameReports_iff_flatMap, items_append_itemsFrom, items_append_itemsFrom, List.flatMap_append,
    List.flatMap_append, hst, flatMap_itemsFrom_recipe ha rfl, flatMap_itemsFrom_recipe ha rfl,
    hfirst, flatMap_itemsFrom_recipe hnext rfl, hsecond, hwhole]
  show _ ++ (_ ++ (_ ++ (itemsFrom (a.length + 2) (st.afterRecipe (isContinued w)) b).flatMap _))
    = _ ↔ _
  rw [hrest, ← List.append_assoc (reportedNames (firstLine u)), List.append_right_inj,
    List.append_left_inj]

/-! ## The parts of a command -/

theorem colon_mem_of_leavesOpen {last : Option Char} {s : Text} (h : LeavesOpen last s) :
    ':' ∈ s := by
  obtain ⟨before, rest, rfl, -, bracket, name, more, rfl, -⟩ := h
  simp

/-- **A line covers another**: if it removes files, so does the other, unless that has no name to
report. -/
def Covers (l l' : Text) : Prop :=
  removesFiles (Text.trim l) = true → unquotedNames l' ≠ [] → removesFiles (Text.trim l') = true

/-- **Breaking a command over two lines.** What is reported stays the same if and only if the names
reported about the two lines are those reported about the one. If the break is not within a
quotation or a reference, this is so if and only if each of the two lines covers the other. -/
theorem sameReports_iff {a b : List Text} {u w : Text}
    (h : (ofLines (a ++ wholeLine u w :: b)).InRecipe (a.length + 1)) (hw : Text.trim w ≠ []) :
    (SameReports (a ++ firstLine u :: secondLine w :: b) (a ++ wholeLine u w :: b) ↔
        reportedNames (firstLine u) ++ reportedNames (secondLine w)
          = reportedNames (wholeLine u w)) ∧
      (endsInQuote u = false → ¬ LeavesOpen none u →
        (SameReports (a ++ firstLine u :: secondLine w :: b) (a ++ wholeLine u w :: b) ↔
          Covers (firstLine u) (secondLine w) ∧ Covers (secondLine w) (firstLine u))) := by
  have hsame := sameReports_broken (u := u) (takesRecipe_of_inRecipe rfl h) hw b
  refine ⟨hsame, fun hquote hopen => hsame.trans ?_⟩
  have hremoves : removesFiles (Text.trim (wholeLine u w))
      = (removesFiles (Text.trim (firstLine u)) || removesFiles (Text.trim (secondLine w))) :=
    removesFiles_whole hw
  unfold Covers reportedNames
  rw [hremoves, unquotedNames_wholeLine hquote hopen]
  cases removesFiles (Text.trim (firstLine u)) <;>
    cases removesFiles (Text.trim (secondLine w)) <;> simp

/-- Where both parts remove files, it does not matter that they are on two lines. -/
theorem sameReports_iff_of_two_removals :
    let whole : List Text := ["clean:", "\trm $(A) && rm $(B)"]
    let broken : List Text := ["clean:", "\trm $(A) && \\", "\trm $(B)"]
    (ofLines whole).InRecipe 2 ∧ SameReports broken whole ∧
      (unquotedVariables (ofLines broken)).length = 2 := by
  intro whole broken
  let u : Text := "rm $(A) &&"
  let w : Text := "rm $(B)"
  have hwhole : [("clean:" : Text)] ++ wholeLine u w :: [] = whole := by decide +kernel
  have hbroken : [("clean:" : Text)] ++ firstLine u :: secondLine w :: [] = broken := by
    decide +kernel
  have hrecipe : (ofLines whole).InRecipe 2 := by
    unfold InRecipe
    decide +kernel
  have hopen : ¬ LeavesOpen none u :=
    fun h => absurd (colon_mem_of_leavesOpen h) (by decide +kernel)
  have hiff := (sameReports_iff (hwhole ▸ hrecipe) (by decide +kernel)).2 (by decide +kernel) hopen
  rw [hwhole, hbroken] at hiff
  exact ⟨hrecipe, hiff.2 ⟨fun _ _ => by decide +kernel, fun _ _ => by decide +kernel⟩,
    by decide +kernel⟩

/-- A variable that is passed to the command on the line before is not reported, and it is if they
are on one line. -/
theorem not_sameReports_of_broken_command :
    let broken : List Text := [".PHONY: clean", "clean:", "\trm -rf \\", "\t$(BUILD)"]
    ¬ SameReports broken [".PHONY: clean", "clean:", "\trm -rf $(BUILD)"] ∧
      (unquotedVariables (ofLines broken)).length = 0 := by
  decide +kernel

end OpsLint.Makefile

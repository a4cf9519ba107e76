import OpsLint.Proofs.LastGiven
import OpsLint.Settings.Resolve

/-!
# Drafts and what they were made of

A draft is made by reading a settings file entry by entry, at three levels: the file, its sections,
and the mappings in them. Here it is said what has been given in it, in terms of the file alone.

At each level it is the last entry that counts, so that every statement is an instance of
`foldlM_lastGiven` and needs a lemma about one entry only. A rule can be given directly in a section
or under `rules`; an entry of either form replaces all that was given for the rule before
(`Value.ruleAt?`). A section replaces the earlier section for its kind of file.

What is given for a rule may be a truth value, a word or a mapping. `Value.enabling?` and
`Value.grading?` say what it amounts to.
-/

namespace OpsLint

/-! ## What a file gives -/

namespace Value

/-- The entries of a mapping; other values have none. -/
def entries : Value → List (Value × Value)
  | .map entries => entries
  | _ => []

/-- What an entry gives for a key. -/
def givenFor (key : Text) (entry : Value × Value) : Option Value :=
  if entry.1.toText? = some key then some entry.2 else none

/-- The value under a key of a mapping. -/
def at? (v : Value) (key : Text) : Option Value := lastGiven (givenFor key) v.entries

/-- The section of a file for a kind of file; it is empty if there is none. -/
def sectionFor (file : Value) (kind : FileKind) : Value := (file.at? kind.name).getD .null

/-- What an entry of a section gives for a rule: directly, or in the mapping under `rules`. -/
def ruleGiven (id : Text) (entry : Value × Value) : Option Value :=
  if entry.1.toText? = some ("rules" : Text) then entry.2.at? id else givenFor id entry

/-- What a section gives for a rule. -/
def ruleAt? (v : Value) (id : Text) : Option Value := lastGiven (ruleGiven id) v.entries

/-- What a value that is given for a rule says about whether it is enabled. -/
def enabling? : Value → Option Value
  | .bool b => some (.bool b)
  | .str s =>
    if disableWords.contains (Text.lower (Text.trim s)) then some (.bool false)
    else if enableWords.contains (Text.lower (Text.trim s)) then some (.bool true)
    else none
  | v => v.at? "enabled"

/-- What a value that is given for a rule says about its severity: a word does if it neither enables
nor disables the rule. -/
def grading? : Value → Option Value
  | .str s =>
    if disableWords.contains (Text.lower (Text.trim s)) then none
    else if enableWords.contains (Text.lower (Text.trim s)) then none
    else some (severityWord (.str s))
  | v => (v.at? "severity").map severityWord

end Value

/-- What is given for a rule by a value. -/
def RuleDraft.denoted (v : Value) : RuleDraft :=
  { enabled := v.enabling?, severity := v.grading? }

/-! ## Keys -/

namespace Value

variable {key : Value} {texts : List Text} {text : Text}

/-- A key is one of the texts that are looked for. -/
theorem key_of_filter_eq_some (h : key.toText?.filter texts.contains = some text) :
    key.toText? = some text ∧ text ∈ texts := by
  obtain ⟨hkey, htext⟩ := Option.filter_eq_some_iff.1 h
  exact ⟨hkey, by simpa using htext⟩

theorem key_ne_of_filter_eq_none (h : key.toText?.filter texts.contains = none)
    (htext : text ∈ texts) : key.toText? ≠ some text := by
  intro hkey
  exact Option.filter_eq_none_iff.1 h text hkey (by simpa using htext)

theorem givenFor_eq_none {entry : Value × Value} (h : entry.1.toText? ≠ some text) :
    givenFor text entry = none :=
  if_neg h

/-- Putting what an entry gives under its key. -/
theorem lookup_put_of_key {α : Type} (f : Value → α) {entry : Value × Value}
    (hkey : entry.1.toText? = some text) (table : List (Text × α)) (k : Text) :
    (Assoc.put text (f entry.2) table).lookup k
      = ((givenFor k entry).map f).or (table.lookup k) := by
  unfold givenFor
  rw [Assoc.lookup_put, hkey]
  by_cases hk : k = text
  · rw [hk, beq_self_eq_true, if_pos rfl, if_pos rfl]
    rfl
  · rw [beq_eq_false_iff_ne.2 hk, if_neg Bool.false_ne_true,
      if_neg (fun h => hk (Option.some.inj h).symm)]
    rfl

end Value

/-! ## Rules -/

namespace RuleDraft

/-- An entry for a rule replaces what was given under its key, and only that. -/
theorem addEntry_spec {id name : Text} {acc acc' : Noted RuleDraft} {entry : Value × Value}
    (h : addEntry id name acc entry = .ok acc') :
    acc'.value.enabled = (Value.givenFor "enabled" entry).or acc.value.enabled ∧
      acc'.value.severity
        = ((Value.givenFor "severity" entry).map severityWord).or acc.value.severity := by
  unfold addEntry at h
  unfold Value.givenFor
  dsimp only at h
  split at h
  · rename_i hkey
    cases h
    rw [hkey]
    exact ⟨rfl, rfl⟩
  · rename_i hkey
    rw [if_neg hkey]
    split at h
    · rename_i hkey'
      cases h
      rw [hkey']
      exact ⟨rfl, rfl⟩
    · rename_i hkey'
      rw [if_neg hkey']
      obtain ⟨shown, -, h⟩ := exists_ok_of_bind_ok h
      cases h
      exact ⟨rfl, rfl⟩

/-- **What is read for a rule is what its value denotes.** -/
theorem ofValue_eq_denoted {id name : Text} {v : Value} {d : Noted RuleDraft}
    (h : ofValue id name v = .ok d) : d.value = denoted v := by
  have hbad : ∀ {v : Value}, (do throw (.badRule id name (← v.quoted.mapError .numeral)) :
      Except SettingsError (Noted RuleDraft)) ≠ .ok d := by
    intro v hok
    obtain ⟨shown, -, hok⟩ := exists_ok_of_bind_ok hok
    exact nomatch hok
  unfold ofValue at h
  split at h
  · cases h
    rfl
  · rename_i s
    unfold denoted Value.enabling? Value.grading?
    dsimp only at h ⊢
    split at h
    · rename_i hword
      cases h
      rw [if_pos hword, if_pos hword]
    · rename_i hword
      rw [if_neg hword, if_neg hword]
      split at h
      · rename_i hword'
        cases h
        rw [if_pos hword', if_pos hword']
      · rename_i hword'
        cases h
        rw [if_neg hword', if_neg hword']
  · rename_i entries
    have henabled : d.value.enabled = (Value.map entries).at? "enabled" :=
      foldlM_lastGiven _ (P := fun given acc => acc.value.enabled = given)
        (fun hstep hs => (addEntry_spec hstep).1.trans (congrArg _ hs)) h rfl
    have hseverity : d.value.severity = ((Value.map entries).at? "severity").map severityWord := by
      unfold Value.at?
      rw [← lastGiven_map]
      exact foldlM_lastGiven _ (P := fun given acc => acc.value.severity = given)
        (fun hstep hs => (addEntry_spec hstep).2.trans (congrArg _ hs)) h rfl
    show RuleDraft.mk d.value.enabled d.value.severity = _
    rw [henabled, hseverity]
    rfl
  · exact absurd h hbad

end RuleDraft

/-! ## Sections -/

namespace SectionDraft

theorem addRule_spec {id name : Text} {acc acc' : Noted SectionDraft} {v : Value}
    (h : addRule id name acc v = .ok acc') : acc'.value = acc.value.putRule id (.denoted v) := by
  obtain ⟨rule, hrule, h⟩ := exists_ok_of_bind_ok h
  cases h
  rw [RuleDraft.ofValue_eq_denoted hrule]

/-- An entry under `rules` replaces what was given for its rule, and only that. -/
theorem addListedRule_spec {ids : List Text} {name : Text} {acc acc' : Noted SectionDraft}
    {entry : Value × Value} (h : addListedRule ids name acc entry = .ok acc') :
    acc'.value.options = acc.value.options ∧
      ∀ id ∈ ids, acc'.value.rules.lookup id
        = ((Value.givenFor id entry).map RuleDraft.denoted).or (acc.value.rules.lookup id) := by
  unfold addListedRule at h
  dsimp only at h
  split at h
  · rename_i id' hid'
    rw [addRule_spec h]
    obtain ⟨hkey, -⟩ := Value.key_of_filter_eq_some hid'
    exact ⟨rfl, fun id _ => Value.lookup_put_of_key RuleDraft.denoted hkey _ id⟩
  · rename_i hnone
    obtain ⟨shown, -, h⟩ := exists_ok_of_bind_ok h
    cases h
    refine ⟨rfl, fun id hid => ?_⟩
    rw [Value.givenFor_eq_none (Value.key_ne_of_filter_eq_none hnone hid)]
    rfl

/-- The mapping under `rules` is read like a mapping of rules, and contains no options. -/
theorem foldlM_addListedRule_spec {ids : List Text} {name : Text} {acc acc' : Noted SectionDraft}
    {entries : List (Value × Value)} (h : entries.foldlM (addListedRule ids name) acc = .ok acc') :
    acc'.value.options = acc.value.options ∧
      ∀ id ∈ ids, acc'.value.rules.lookup id
        = (((Value.map entries).at? id).map RuleDraft.denoted).or (acc.value.rules.lookup id) := by
  constructor
  · exact foldlM_keeps (P := fun s => s.value.options = acc.value.options)
      (fun hstep hs => (addListedRule_spec hstep).1.trans hs) h rfl
  · intro id hid
    refine foldlM_lastGiven _ (P := fun given s => s.value.rules.lookup id
      = (given.map RuleDraft.denoted).or (acc.value.rules.lookup id)) (fun hstep hs => ?_) h rfl
    rw [(addListedRule_spec hstep).2 id hid, hs, Option.map_or, Option.or_assoc]

theorem rules_not_mem_optionNames (kind : FileKind) : ("rules" : Text) ∉ kind.optionNames := by
  cases kind <;> decide

/-- An entry of a section replaces what was given for its rules or its option, and only that. -/
theorem addEntry_spec {ids : List Text} {kind : FileKind} {acc acc' : Noted SectionDraft}
    {entry : Value × Value} (h : addEntry ids kind acc entry = .ok acc') :
    (∀ id ∈ ids, acc'.value.rules.lookup id
        = ((Value.ruleGiven id entry).map RuleDraft.denoted).or (acc.value.rules.lookup id)) ∧
      ∀ name ∈ kind.optionNames, name ∉ ids →
        acc'.value.options.lookup name
          = (Value.givenFor name entry).or (acc.value.options.lookup name) := by
  unfold addEntry at h
  unfold Value.ruleGiven
  dsimp only at h
  split at h
  · -- the mapping under `rules`: no option is called that
    rename_i hkey
    have hoption : ∀ name ∈ kind.optionNames, Value.givenFor name entry = none := by
      intro name hname
      refine Value.givenFor_eq_none fun hname' => rules_not_mem_optionNames kind ?_
      rwa [Option.some.inj (hkey.symm.trans hname')]
    have hrule : ∀ id, (if entry.1.toText? = some ("rules" : Text) then entry.2.at? id
        else Value.givenFor id entry) = entry.2.at? id := fun id => if_pos hkey
    split at h
    · rename_i hnull
      cases h
      refine ⟨fun id _ => ?_, fun name hname _ => ?_⟩
      · rw [hrule, hnull]
        rfl
      · rw [hoption name hname]
        rfl
    · rename_i entries hmap
      obtain ⟨hoptions, hrules⟩ := foldlM_addListedRule_spec h
      refine ⟨fun id hid => ?_, fun name hname _ => ?_⟩
      · rw [hrule, hmap]
        exact hrules id hid
      · rw [hoption name hname, hoptions]
        rfl
    · exact nomatch h
  · rename_i hkey
    have hrule : ∀ id, (if entry.1.toText? = some ("rules" : Text) then entry.2.at? id
        else Value.givenFor id entry) = Value.givenFor id entry := fun id => if_neg hkey
    split at h
    · -- a rule: its identifier is not among the options that are asked for
      rename_i id' hid'
      obtain ⟨hkey', hmem⟩ := Value.key_of_filter_eq_some hid'
      rw [addRule_spec h]
      refine ⟨fun id _ => ?_, fun name _ hname => ?_⟩
      · rw [hrule]
        exact Value.lookup_put_of_key RuleDraft.denoted hkey' _ id
      · rw [Value.givenFor_eq_none fun hname' => hname ?_]
        · rfl
        · rwa [Option.some.inj (hname'.symm.trans hkey')]
    · rename_i hnone
      have hother : ∀ id ∈ ids, Value.givenFor id entry = none :=
        fun id hid => Value.givenFor_eq_none (Value.key_ne_of_filter_eq_none hnone hid)
      split at h
      · rename_i option hoption
        cases h
        refine ⟨fun id hid => ?_, fun name _ _ => ?_⟩
        · rw [hrule, hother id hid]
          rfl
        · have hput := Value.lookup_put_of_key id (Value.key_of_filter_eq_some hoption).1
            acc.value.options name
          rwa [Option.map_id] at hput
      · rename_i hnone'
        obtain ⟨shown, -, h⟩ := exists_ok_of_bind_ok h
        cases h
        refine ⟨fun id hid => ?_, fun name hname _ => ?_⟩
        · rw [hrule, hother id hid]
          rfl
        · rw [Value.givenFor_eq_none (Value.key_ne_of_filter_eq_none hnone' hname)]
          rfl

/-- **What a section gives**, for its rules and its options. -/
theorem ofValue_spec {ids : List Text} {kind : FileKind} {v : Value} {d : Noted SectionDraft}
    (h : ofValue ids kind v = .ok d) :
    (∀ id ∈ ids, d.value.rules.lookup id = (v.ruleAt? id).map RuleDraft.denoted) ∧
      ∀ name ∈ kind.optionNames, name ∉ ids → d.value.option? name = v.at? name := by
  unfold ofValue at h
  split at h
  · cases h
    exact ⟨fun _ _ => rfl, fun _ _ _ => rfl⟩
  · rename_i entries
    refine ⟨fun id hid => ?_, fun name hname hids => ?_⟩
    · unfold Value.ruleAt?
      rw [← lastGiven_map]
      exact foldlM_lastGiven _ (P := fun given s => s.value.rules.lookup id = given)
        (fun hstep hs => ((addEntry_spec hstep).1 id hid).trans (congrArg _ hs)) h rfl
    · exact foldlM_lastGiven _ (P := fun given s => s.value.options.lookup name = given)
        (fun hstep hs => ((addEntry_spec hstep).2 name hname hids).trans (congrArg _ hs)) h rfl
  · exact nomatch h

end SectionDraft

/-! ## Files -/

namespace FileKind

theorem ofName?_name (kind : FileKind) : ofName? kind.name = some kind := by
  cases kind <;> decide

theorem name_of_ofName? {kind : FileKind} {s : Text} (h : ofName? s = some kind) :
    kind.name = s := by
  simpa using List.find?_some h

theorem name_inj {kind kind' : FileKind} (h : kind.name = kind'.name) : kind = kind' := by
  rw [← Option.some_inj, ← ofName?_name kind, h, ofName?_name]

theorem name_not_mem_runKeys (kind : FileKind) : kind.name ∉ runKeys := by
  cases kind <;> decide

end FileKind

namespace Draft

/-- What has been given for a rule. -/
def rule (d : Draft) (r : Rule) : RuleDraft :=
  ((d.sections r.kind).rules.lookup r.id).getD {}

/-- An entry of a file replaces the value of its key or its section, and only that. -/
theorem addEntry_spec {registry : Registry} {acc acc' : Noted Draft} {entry : Value × Value}
    (h : addEntry registry acc entry = .ok acc') :
    (∀ key ∈ runKeys,
        acc'.value.run? key = (Value.givenFor key entry).or (acc.value.run? key)) ∧
      ∀ kind : FileKind, match Value.givenFor kind.name entry with
        | none => acc'.value.sections kind = acc.value.sections kind
        | some v => ∃ part, SectionDraft.ofValue (registry.idsFor kind) kind v = .ok part ∧
            acc'.value.sections kind = part.value := by
  unfold addEntry at h
  dsimp only at h
  split at h
  · rename_i name hname
    obtain ⟨hkey, hmem⟩ := Value.key_of_filter_eq_some hname
    cases h
    refine ⟨fun key _ => ?_, fun kind => ?_⟩
    · have hput := Value.lookup_put_of_key id hkey acc.value.run key
      rwa [Option.map_id] at hput
    · rw [Value.givenFor_eq_none fun hkind => kind.name_not_mem_runKeys ?_]
      · rfl
      · rwa [Option.some.inj (hkind.symm.trans hkey)]
  · rename_i hnone
    have hrun : ∀ key ∈ runKeys, Value.givenFor key entry = none :=
      fun key hkey => Value.givenFor_eq_none (Value.key_ne_of_filter_eq_none hnone hkey)
    split at h
    · rename_i kind' hkind'
      obtain ⟨name, hkey, hname⟩ := Option.bind_eq_some_iff.1 hkind'
      have hname := FileKind.name_of_ofName? hname
      obtain ⟨part, hpart, h⟩ := exists_ok_of_bind_ok h
      cases h
      refine ⟨fun key hmem => ?_, fun kind => ?_⟩
      · rw [hrun key hmem]
        rfl
      · by_cases hkind : kind = kind'
        · subst hkind
          have hgiven : Value.givenFor kind.name entry = some entry.2 :=
            if_pos (hkey.trans (congrArg some hname.symm))
          rw [hgiven]
          exact ⟨part, hpart, if_pos rfl⟩
        · rw [Value.givenFor_eq_none fun hkey' => hkind ?_]
          · exact if_neg hkind
          · have hsame : kind.name = kind'.name :=
              (Option.some.inj (hkey'.symm.trans hkey)).trans hname.symm
            exact FileKind.name_inj hsame
    · rename_i hkind'
      obtain ⟨shown, -, h⟩ := exists_ok_of_bind_ok h
      cases h
      refine ⟨fun key hmem => ?_, fun kind => ?_⟩
      · rw [hrun key hmem]
        rfl
      · rw [Value.givenFor_eq_none fun hkey => ?_]
        · rfl
        · rw [hkey] at hkind'
          exact absurd (kind.ofName?_name.symm.trans hkind') (Option.some_ne_none kind)

/-- What a file gives, for the run as a whole and for its sections. -/
theorem ofValue_spec {registry : Registry} {v : Value} {d : Noted Draft}
    (h : ofValue registry v = .ok d) :
    (∀ key ∈ runKeys, d.value.run? key = v.at? key) ∧
      ∀ kind : FileKind, ∃ part,
        SectionDraft.ofValue (registry.idsFor kind) kind (v.sectionFor kind) = .ok part ∧
          d.value.sections kind = part.value := by
  unfold ofValue at h
  split at h
  · cases h
    exact ⟨fun _ _ => rfl, fun kind => ⟨_, rfl, rfl⟩⟩
  · rename_i entries
    refine ⟨fun key hkey => ?_, fun kind => ?_⟩
    · exact foldlM_lastGiven _ (P := fun given s => s.value.run? key = given)
        (fun hstep hs => ((addEntry_spec hstep).1 key hkey).trans (congrArg _ hs)) h rfl
    · -- a section is read anew from the value that was given for it last
      refine foldlM_lastGiven (Value.givenFor kind.name) (P := fun given s => ∃ part,
        SectionDraft.ofValue (registry.idsFor kind) kind (given.getD .null) = .ok part ∧
          s.value.sections kind = part.value) (fun {s a s' given} hstep hs => ?_) h ⟨_, rfl, rfl⟩
      have hentry := (addEntry_spec hstep).2 kind
      cases hgiven : Value.givenFor kind.name a with
      | none =>
        rw [hgiven] at hentry
        rw [Option.none_or, hentry]
        exact hs
      | some part =>
        rw [hgiven] at hentry
        exact hentry
  · exact nomatch h

variable {registry : Registry} {v : Value} {d : Noted Draft} (h : ofValue registry v = .ok d)

include h

/-- **What a file gives for a rule.** -/
theorem rule_ofValue {r : Rule} (hr : r ∈ registry.rules) :
    (d.value.rule r).enabled = ((v.sectionFor r.kind).ruleAt? r.id).bind Value.enabling? ∧
      (d.value.rule r).severity = ((v.sectionFor r.kind).ruleAt? r.id).bind Value.grading? := by
  obtain ⟨part, hpart, hsection⟩ := (ofValue_spec h).2 r.kind
  have hid : r.id ∈ registry.idsFor r.kind :=
    List.mem_map_of_mem (List.mem_filter.2 ⟨hr, decide_eq_true rfl⟩)
  unfold rule
  rw [hsection, (SectionDraft.ofValue_spec hpart).1 r.id hid]
  cases (v.sectionFor r.kind).ruleAt? r.id with
  | none => exact ⟨rfl, rfl⟩
  | some given => exact ⟨rfl, rfl⟩

/-- **What a file gives for an option**, if no rule has the name of the option. -/
theorem option_ofValue {kind : FileKind}
    (hids : ∀ r ∈ registry.forKind kind, r.id ∉ kind.optionNames) {name : Text}
    (hname : name ∈ kind.optionNames) :
    (d.value.sections kind).option? name = (v.sectionFor kind).at? name := by
  obtain ⟨part, hpart, hsection⟩ := (ofValue_spec h).2 kind
  rw [hsection]
  refine (SectionDraft.ofValue_spec hpart).2 name hname fun hmem => ?_
  obtain ⟨r, hr, rfl⟩ := List.mem_map.1 hmem
  exact hids r (registry.forKindOrUnknown_some kind ▸ hr) hname

end Draft

end OpsLint

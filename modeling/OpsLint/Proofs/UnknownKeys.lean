import OpsLint.Proofs.LastGiven
import OpsLint.Settings.Resolve

/-!
# Unknown keys of a settings file

A settings file may hold keys that mean nothing: at its top, in a section, under `rules` and in what
is given for a rule. `Value.pruneFile` takes them out, with all that stands under them. What is left
is resolved to the same settings or refused for the same reason, and the only trace of a key that
was taken out is a warning of its own, in the order of the file (`inert_iff`).

There is **one exception**. To warn of a key is to show it, and an integer can be too long to be
shown. Then resolving the file stops, though nothing is wrong with what is known in it. It stops for
the same reason if what is given for a rule is neither a truth value nor a text nor a mapping and
cannot be shown in the message about that.

The proof follows the levels of a file. `Mirrors` relates what is read of a mapping to what is read
of it when pruned; it is kept by reading one thing after another (`Mirrors.bind`) and so by a loop
over entries (`Mirrors.foldlM`), and what remains at each level is to look at one entry.
-/

namespace OpsLint

/-! ## Pruning -/

/-- A key that means nothing where it stands, and the notice that its text gives. -/
structure UnknownKey where
  key : Value
  notice : Text → Notice

/-- The notice of a key, if it can be shown. -/
def UnknownKey.shown (k : UnknownKey) : Except SettingsError Notice := k.notice <$> k.key.keyText

/-- What is left of something, and the keys taken out of it in the order in which they stood. -/
structure Pruned (α : Type) where
  left : α
  taken : List UnknownKey := []

namespace Value

/-- A mapping of which each entry is pruned; other values stay as they are. -/
def pruneMap (prune : Value × Value → Pruned (List (Value × Value))) : Value → Pruned Value
  | .map entries =>
    { left := .map (entries.flatMap fun entry => (prune entry).left)
      taken := entries.flatMap fun entry => (prune entry).taken }
  | v => { left := v }

/-- An entry that stays, with a pruned value. -/
def keep (key : Value) (value : Pruned Value) : Pruned (List (Value × Value)) :=
  { left := [(key, value.left)], taken := value.taken }

/-- An entry that is taken out. -/
def takeOut (key : Value) (notice : Text → Notice) : Pruned (List (Value × Value)) :=
  { left := [], taken := [{ key, notice }] }

/-- An entry of the mapping given for a rule. -/
def pruneRuleEntry (id name : Text) (entry : Value × Value) : Pruned (List (Value × Value)) :=
  if entry.1.toText? = some ("severity" : Text) ∨ entry.1.toText? = some ("enabled" : Text) then
    keep entry.1 { left := entry.2 }
  else takeOut entry.1 (.unknownRuleKey · id name)

/-- What is given for a rule. -/
def pruneRule (id name : Text) : Value → Pruned Value := pruneMap (pruneRuleEntry id name)

/-- An entry of the mapping under `rules`. -/
def pruneListedRule (ids : List Text) (name : Text) (entry : Value × Value) :
    Pruned (List (Value × Value)) :=
  match entry.1.toText?.filter ids.contains with
  | some id => keep entry.1 (pruneRule id name entry.2)
  | none => takeOut entry.1 (.unknownRule · name)

/-- An entry of a section. -/
def pruneSectionEntry (ids : List Text) (kind : FileKind) (entry : Value × Value) :
    Pruned (List (Value × Value)) :=
  if entry.1.toText? = some ("rules" : Text) then
    keep entry.1 (pruneMap (pruneListedRule ids kind.name) entry.2)
  else match entry.1.toText?.filter ids.contains with
    | some id => keep entry.1 (pruneRule id kind.name entry.2)
    | none =>
      if (entry.1.toText?.filter kind.optionNames.contains).isSome then
        keep entry.1 { left := entry.2 }
      else takeOut entry.1 (.unknownOption · kind.name)

/-- A section; `ids` are the rules for its kind of file. -/
def pruneSection (ids : List Text) (kind : FileKind) : Value → Pruned Value :=
  pruneMap (pruneSectionEntry ids kind)

/-- An entry of a settings file. -/
def pruneFileEntry (registry : Registry) (entry : Value × Value) :
    Pruned (List (Value × Value)) :=
  if (entry.1.toText?.filter runKeys.contains).isSome then keep entry.1 { left := entry.2 }
  else match entry.1.toText?.bind FileKind.ofName? with
    | some kind => keep entry.1 (pruneSection (registry.idsFor kind) kind entry.2)
    | none => takeOut entry.1 .unknownSection

/-- A settings file without the keys that mean nothing, and these keys. -/
def pruneFile (registry : Registry) : Value → Pruned Value := pruneMap (pruneFileEntry registry)

end Value

/-! ## Two readers -/

section

variable {α β : Type}

/-- The notices of keys one after another. -/
theorem mapM_shown_append {taken taken' : List UnknownKey} {notices notices' : List Notice}
    (h : taken.mapM UnknownKey.shown = .ok notices)
    (h' : taken'.mapM UnknownKey.shown = .ok notices') :
    (taken ++ taken').mapM UnknownKey.shown = .ok (notices ++ notices') := by
  rw [List.mapM_append, h, h']
  rfl

/-- What is read of something, and of the same when pruned. The notices of the one are those there
were `before` and then those of the keys that were taken out; the other has none. -/
inductive Mirrors (before : List Notice) (taken : List UnknownKey) :
    Except SettingsError (Noted α) → Except SettingsError (Noted α) → Prop
  | unshown {k : UnknownKey} {e : SettingsError} (hk : k ∈ taken) (h : k.shown = .error e)
      (y : Except SettingsError (Noted α)) : Mirrors before taken (.error e) y
  | failed (e : SettingsError) : Mirrors before taken (.error e) (.error e)
  | read (value : α) (notices : List Notice) (h : taken.mapM UnknownKey.shown = .ok notices) :
      Mirrors before taken (.ok { value, notices := before ++ notices }) (.ok { value })

namespace Mirrors

/-- Nothing was taken out, and nothing was noticed. -/
theorem same (before : List Notice) (value : α) :
    Mirrors before [] (.ok { value, notices := before }) (.ok { value }) := by
  have h : Mirrors before [] (.ok { value, notices := before ++ [] }) (.ok { value }) :=
    .read value [] rfl
  rwa [List.append_nil] at h

/-- Nothing was taken out, and there is nothing to notice. -/
theorem refl {x : Except SettingsError (Noted α)} (h : ∀ r, x = .ok r → r.notices = []) :
    Mirrors [] [] x x := by
  cases x with
  | error e => exact .failed e
  | ok r =>
    obtain ⟨value, notices⟩ := r
    obtain rfl : notices = [] := h _ rfl
    exact .same [] value

/-- A key was taken out, and noticed. -/
theorem noticed (acc : Noted α) (key : Value) (notice : Text → Notice) :
    Mirrors acc.notices [{ key, notice }] (do return acc.note (notice (← key.keyText)))
      (.ok { value := acc.value }) := by
  cases hkey : key.keyText with
  | error e =>
    exact .unshown (List.mem_singleton_self _) (by rw [UnknownKey.shown, hkey]; rfl) _
  | ok text =>
    refine .read acc.value [notice text] ?_
    rw [List.mapM_cons, UnknownKey.shown, hkey]
    rfl

/-- **Reading one thing after another.** -/
theorem bind {before : List Notice} {taken taken' : List UnknownKey}
    {x y : Except SettingsError (Noted α)} {f g : Noted α → Except SettingsError (Noted α)}
    (h : Mirrors before taken x y)
    (hf : ∀ acc : Noted α, Mirrors acc.notices taken' (f acc) (g { value := acc.value })) :
    Mirrors before (taken ++ taken') (x >>= f) (y >>= g) := by
  cases h with
  | unshown hk h y => exact .unshown (List.mem_append_left _ hk) h _
  | failed e => exact .failed e
  | read value notices h =>
    -- the second part starts with the notices of the first
    show Mirrors before (taken ++ taken') (f _) (g _)
    have hnext := hf { value, notices := before ++ notices }
    generalize f _ = x', g _ = y' at hnext ⊢
    cases hnext with
    | unshown hk h y => exact .unshown (List.mem_append_right _ hk) h _
    | failed e => exact .failed e
    | read value' notices' h' =>
      rw [List.append_assoc]
      exact .read value' (notices ++ notices') (mapM_shown_append h h')

/-- **A loop over entries**: one entry, and what is left of it. -/
theorem foldlM {step : Noted α → Value × Value → Except SettingsError (Noted α)}
    {prune : Value × Value → Pruned (List (Value × Value))}
    (hstep : ∀ acc entry, Mirrors acc.notices (prune entry).taken (step acc entry)
      ((prune entry).left.foldlM step { value := acc.value }))
    (entries : List (Value × Value)) (acc : Noted α) :
    Mirrors acc.notices (entries.flatMap fun entry => (prune entry).taken)
      (entries.foldlM step acc)
      ((entries.flatMap fun entry => (prune entry).left).foldlM step { value := acc.value }) := by
  induction entries generalizing acc with
  | nil => exact .same acc.notices acc.value
  | cons entry entries ih =>
    rw [List.flatMap_cons, List.flatMap_cons, List.foldlM_cons, List.foldlM_append]
    exact (hstep acc entry).bind ih

/-- Something read by itself becomes part of something larger. -/
theorem within {taken : List UnknownKey} {x y : Except SettingsError (Noted α)}
    (h : Mirrors [] taken x y) (before : List Notice) (f : α → β) :
    Mirrors before taken
      (do let part ← x; return { value := f part.value, notices := before ++ part.notices })
      (do let part ← y; return { value := f part.value, notices := [] ++ part.notices }) := by
  cases h with
  | unshown hk h y => exact .unshown hk h _
  | failed e => exact .failed e
  | read value notices h => exact .read (f value) notices h

end Mirrors

end

/-! ## The levels of a file -/

theorem foldlM_keep {α : Type} (step : Noted α → Value × Value → Except SettingsError (Noted α))
    (acc : Noted α) (key : Value) (p : Pruned Value) :
    (Value.keep key p).left.foldlM step acc = step acc (key, p.left) := by
  rw [Value.keep, List.foldlM_cons]
  exact bind_pure _

namespace RuleDraft

theorem mirrors_addEntry (id name : Text) (acc : Noted RuleDraft) (entry : Value × Value) :
    Mirrors acc.notices (Value.pruneRuleEntry id name entry).taken (addEntry id name acc entry)
      ((Value.pruneRuleEntry id name entry).left.foldlM (addEntry id name)
        { value := acc.value }) := by
  unfold Value.pruneRuleEntry
  split
  · rename_i hkey
    rw [foldlM_keep]
    unfold addEntry
    dsimp only
    split
    · exact .same acc.notices _
    · rename_i hseverity
      rw [if_pos (hkey.resolve_left hseverity), if_pos (hkey.resolve_left hseverity)]
      exact .same acc.notices _
  · rename_i hkey
    obtain ⟨hseverity, henabled⟩ := not_or.1 hkey
    unfold addEntry
    dsimp only
    rw [if_neg hseverity, if_neg henabled]
    exact .noticed acc entry.1 _

/-- What is given for a rule. -/
theorem mirrors_ofValue (id name : Text) (v : Value) :
    Mirrors [] (v.pruneRule id name).taken (ofValue id name v)
      (ofValue id name (v.pruneRule id name).left) := by
  cases v with
  | map entries => exact .foldlM (mirrors_addEntry id name) entries { value := {} }
  | bool b => exact .same [] _
  | str s =>
    refine .refl fun r h => ?_
    unfold ofValue at h
    dsimp only at h
    split at h
    · cases h
      rfl
    · split at h
      · cases h
        rfl
      · cases h
        rfl
  | _ =>
    refine .refl fun r h => ?_
    obtain ⟨shown, -, h⟩ := exists_ok_of_bind_ok h
    exact nomatch h

end RuleDraft

namespace SectionDraft

theorem mirrors_addRule (id name : Text) (acc : Noted SectionDraft) (v : Value) :
    Mirrors acc.notices (v.pruneRule id name).taken (addRule id name acc v)
      (addRule id name { value := acc.value } (v.pruneRule id name).left) :=
  (RuleDraft.mirrors_ofValue id name v).within acc.notices (acc.value.putRule id)

theorem mirrors_addListedRule (ids : List Text) (name : Text) (acc : Noted SectionDraft)
    (entry : Value × Value) :
    Mirrors acc.notices (Value.pruneListedRule ids name entry).taken
      (addListedRule ids name acc entry)
      ((Value.pruneListedRule ids name entry).left.foldlM (addListedRule ids name)
        { value := acc.value }) := by
  unfold Value.pruneListedRule
  split
  · rename_i id hid
    rw [foldlM_keep]
    unfold addListedRule
    dsimp only
    rw [hid]
    exact mirrors_addRule id name acc entry.2
  · rename_i hnone
    unfold addListedRule
    dsimp only
    rw [hnone]
    exact .noticed acc entry.1 _

/-- The value under `rules`. -/
theorem mirrors_rules (ids : List Text) (kind : FileKind) (acc : Noted SectionDraft) {key : Value}
    (hkey : key.toText? = some ("rules" : Text)) (v : Value) :
    Mirrors acc.notices (v.pruneMap (Value.pruneListedRule ids kind.name)).taken
      (addEntry ids kind acc (key, v))
      (addEntry ids kind { value := acc.value }
        (key, (v.pruneMap (Value.pruneListedRule ids kind.name)).left)) := by
  unfold addEntry
  dsimp only
  rw [if_pos hkey, if_pos hkey]
  cases v with
  | map entries => exact .foldlM (mirrors_addListedRule ids kind.name) entries acc
  | null => exact .same acc.notices _
  | _ => exact .failed _

theorem mirrors_addEntry (ids : List Text) (kind : FileKind) (acc : Noted SectionDraft)
    (entry : Value × Value) :
    Mirrors acc.notices (Value.pruneSectionEntry ids kind entry).taken
      (addEntry ids kind acc entry)
      ((Value.pruneSectionEntry ids kind entry).left.foldlM (addEntry ids kind)
        { value := acc.value }) := by
  unfold Value.pruneSectionEntry
  split
  · rename_i hkey
    rw [foldlM_keep]
    exact mirrors_rules ids kind acc hkey entry.2
  · rename_i hkey
    split
    · rename_i id hid
      rw [foldlM_keep]
      unfold addEntry
      dsimp only
      rw [if_neg hkey, if_neg hkey, hid]
      exact mirrors_addRule id kind.name acc entry.2
    · rename_i hnone
      split
      · rename_i hoption
        obtain ⟨option, hoption⟩ := Option.isSome_iff_exists.1 hoption
        rw [foldlM_keep]
        unfold addEntry
        dsimp only
        rw [if_neg hkey, if_neg hkey, hnone, hoption]
        exact .same acc.notices _
      · rename_i hoption
        unfold addEntry
        dsimp only
        rw [if_neg hkey, hnone, Option.not_isSome_iff_eq_none.1 hoption]
        exact .noticed acc entry.1 _

/-- A section. -/
theorem mirrors_ofValue (ids : List Text) (kind : FileKind) (v : Value) :
    Mirrors [] (v.pruneSection ids kind).taken (ofValue ids kind v)
      (ofValue ids kind (v.pruneSection ids kind).left) := by
  cases v with
  | map entries => exact .foldlM (mirrors_addEntry ids kind) entries { value := {} }
  | null => exact .same [] _
  | _ => exact .failed _

end SectionDraft

namespace Draft

theorem mirrors_addEntry (registry : Registry) (acc : Noted Draft) (entry : Value × Value) :
    Mirrors acc.notices (Value.pruneFileEntry registry entry).taken (addEntry registry acc entry)
      ((Value.pruneFileEntry registry entry).left.foldlM (addEntry registry)
        { value := acc.value }) := by
  unfold Value.pruneFileEntry
  split
  · rename_i hrun
    obtain ⟨name, hname⟩ := Option.isSome_iff_exists.1 hrun
    rw [foldlM_keep]
    unfold addEntry
    dsimp only
    rw [hname]
    exact .same acc.notices _
  · rename_i hrun
    have hrun := Option.not_isSome_iff_eq_none.1 hrun
    split
    · rename_i kind hkind
      rw [foldlM_keep]
      unfold addEntry
      dsimp only
      rw [hrun, hkind]
      exact (SectionDraft.mirrors_ofValue (registry.idsFor kind) kind entry.2).within acc.notices
        (acc.value.putSection kind)
    · rename_i hnone
      unfold addEntry
      dsimp only
      rw [hrun, hnone]
      exact .noticed acc entry.1 _

/-- **A file, and what is left of it.** -/
theorem mirrors_ofValue (registry : Registry) (v : Value) :
    Mirrors [] (v.pruneFile registry).taken (ofValue registry v)
      (ofValue registry (v.pruneFile registry).left) := by
  cases v with
  | map entries => exact .foldlM (mirrors_addEntry registry) entries { value := {} }
  | null => exact .same [] _
  | _ => exact .failed _

end Draft

/-! ## Resolving -/

theorem exists_numeral_of_shown {k : UnknownKey} {e : SettingsError} (h : k.shown = .error e) :
    ∃ n, k.key.plain = .error n ∧ e = .numeral n := by
  unfold UnknownKey.shown Value.keyText at h
  cases hplain : k.key.plain with
  | error n =>
    rw [hplain] at h
    cases h
    exact ⟨n, rfl, rfl⟩
  | ok text =>
    rw [hplain] at h
    exact nomatch h

/-- **Unknown keys do nothing** but give a warning each: the file and what is left of it are refused
for the same reason, or they have the same settings, with warnings about overrides only, and the
file has in front of these a warning for each key that was taken out. -/
def Inert (registry : Registry) (file : Value) (overrides : Overrides) (source : Text) : Prop :=
  (∃ e, (∀ n, e ≠ .numeral n) ∧
    resolveSettings registry file overrides source = .error e ∧
    resolveSettings registry (file.pruneFile registry).left overrides source = .error e) ∨
  ∃ settings notices warnings,
    (file.pruneFile registry).taken.mapM UnknownKey.shown = .ok notices ∧
    resolveSettings registry (file.pruneFile registry).left overrides source
      = .ok (settings, warnings) ∧
    (∀ w ∈ warnings, w.source = overrideSource) ∧
    resolveSettings registry file overrides source
      = .ok (settings, notices.map ({ notice := ·, source }) ++ warnings)

section

variable {registry : Registry} {file : Value}

/-- Where no draft is made, nothing is resolved. -/
theorem resolveSettings_of_error {e : SettingsError} (h : Draft.ofValue registry file = .error e)
    (overrides : Overrides) (source : Text) :
    resolveSettings registry file overrides source = .error e := by
  unfold resolveSettings
  rw [h]
  rfl

theorem resolveSettings_of_invalid {draft : Noted Draft} {overrides : Overrides}
    {issues : List Issue} (h : Draft.ofValue registry file = .ok draft)
    (hvalid : (overrides.apply registry draft.value).value.validate = .error issues)
    (source : Text) :
    resolveSettings registry file overrides source = .error (.invalid source issues) := by
  unfold resolveSettings
  rw [h]
  dsimp only [bind, Except.bind]
  rw [hvalid]
  rfl

theorem resolveSettings_of_valid {draft : Noted Draft} {overrides : Overrides}
    {settings : Settings} (h : Draft.ofValue registry file = .ok draft)
    (hvalid : (overrides.apply registry draft.value).value.validate = .ok settings)
    (source : Text) :
    resolveSettings registry file overrides source
      = .ok (settings, draft.notices.map ({ notice := ·, source })
        ++ (overrides.apply registry draft.value).notices.map
          ({ notice := ·, source := overrideSource })) := by
  unfold resolveSettings
  rw [h]
  dsimp only [bind, Except.bind]
  rw [hvalid]
  rfl

/-- What has the same draft is refused for the same values or has the same settings. -/
theorem inert_of_drafts {draft : Draft} {notices : List Notice}
    (hfile : Draft.ofValue registry file = .ok { value := draft, notices })
    (hleft : Draft.ofValue registry (file.pruneFile registry).left = .ok { value := draft })
    (hnotices : (file.pruneFile registry).taken.mapM UnknownKey.shown = .ok notices)
    (overrides : Overrides) (source : Text) : Inert registry file overrides source := by
  cases hvalid : (overrides.apply registry draft).value.validate with
  | error issues =>
    exact .inl ⟨.invalid source issues, nofun, resolveSettings_of_invalid hfile hvalid source,
      resolveSettings_of_invalid hleft hvalid source⟩
  | ok settings =>
    refine .inr ⟨settings, notices, _, hnotices, resolveSettings_of_valid hleft hvalid source,
      fun w hw => ?_, resolveSettings_of_valid hfile hvalid source⟩
    obtain ⟨notice, -, rfl⟩ := List.mem_map.1 hw
    rfl

theorem Inert.ne_numeral {overrides : Overrides} {source : Text}
    (h : Inert registry file overrides source) (n : Numeral.Error) :
    resolveSettings registry file overrides source ≠ .error (.numeral n) := by
  rcases h with ⟨e, he, hfile, -⟩ | ⟨settings, notices, warnings, -, -, -, hfile⟩
  · rw [hfile]
    exact fun heq => he n (Except.error.inj heq)
  · rw [hfile]
    exact nofun

/-- **Unknown keys are inert unless a number is too long to be shown.** This can be in one of them,
or else what is left of the file is refused for the same reason. -/
theorem inert_iff (registry : Registry) (file : Value) (overrides : Overrides) (source : Text) :
    (Inert registry file overrides source ↔
      ∀ n, resolveSettings registry file overrides source ≠ .error (.numeral n)) ∧
    ∀ n, resolveSettings registry file overrides source = .error (.numeral n) →
      (∃ k ∈ (file.pruneFile registry).taken, k.key.plain = .error n) ∨
        resolveSettings registry (file.pruneFile registry).left overrides source
          = .error (.numeral n) := by
  have hmirrors := Draft.mirrors_ofValue registry file
  generalize hx : Draft.ofValue registry file = x,
    hy : Draft.ofValue registry (file.pruneFile registry).left = y at hmirrors
  cases hmirrors with
  | unshown hk hshown y =>
    -- the file is given up at a key, whatever would become of what is left of it
    obtain ⟨n, hplain, rfl⟩ := exists_numeral_of_shown hshown
    have hfile := resolveSettings_of_error hx overrides source
    refine ⟨⟨fun h => absurd hfile (h.ne_numeral n), fun h => absurd hfile (h n)⟩, fun n' h => ?_⟩
    cases hfile.symm.trans h
    exact .inl ⟨_, hk, hplain⟩
  | failed e =>
    -- both are refused alike, and it only matters whether this is for a number
    have hfile := resolveSettings_of_error hx overrides source
    have hleft := resolveSettings_of_error hy overrides source
    refine ⟨⟨Inert.ne_numeral, fun h => .inl ⟨e, fun n he => h n (he ▸ hfile), hfile, hleft⟩⟩,
      fun n h => .inr ?_⟩
    rw [hleft, ← hfile, h]
  | read value notices hnotices =>
    have hinert := inert_of_drafts hx hy hnotices overrides source
    exact ⟨⟨Inert.ne_numeral, fun _ => hinert⟩, fun n h => absurd h (hinert.ne_numeral n)⟩

end

/-- An option that nobody knows and that cannot be shown. -/
theorem resolveSettings_of_unshown_option {n : Int} {e : Numeral.Error}
    (h : Numeral.write n = .error e) (registry : Registry) (overrides : Overrides) (source : Text) :
    resolveSettings registry (.map [(.str "dockerfile", .map [(.int n, .int 1)])]) overrides source
      = .error (.numeral e) := by
  have hkey : (Value.int n).keyText = .error (.numeral e) := by
    show (Numeral.write n).mapError SettingsError.numeral = _
    rw [h]
    rfl
  have hsection : SectionDraft.ofValue (registry.idsFor FileKind.dockerfile) .dockerfile
      (.map [(.int n, .int 1)]) = .error (.numeral e) := by
    show ((Value.int n).keyText >>= fun _ => _) >>= _ = _
    rw [hkey]
    rfl
  refine resolveSettings_of_error ?_ overrides source
  show (SectionDraft.ofValue (registry.idsFor FileKind.dockerfile) .dockerfile
    (.map [(.int n, .int 1)]) >>= fun _ => _) >>= _ = _
  rw [hsection]
  rfl

/-- A file is refused for an option that nobody knows: its name is an integer of 4335 digits. -/
theorem not_inert_of_long_option :
    ¬ Inert .standard (.map [(.str "dockerfile", .map [(.int (Nat.pow 16 3600 - 1), .int 1)])]) {}
      "ops.yaml" := by
  have hwrite : Numeral.write (Nat.pow 16 3600 - 1) = .error .tooLongToWrite :=
    if_neg (by decide +kernel)
  intro h
  exact h.ne_numeral .tooLongToWrite (resolveSettings_of_unshown_option hwrite _ {} _)

end OpsLint

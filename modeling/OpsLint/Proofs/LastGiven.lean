import OpsLint.Assoc

/-!
# The last one counts

Settings are read entry by entry, and a later entry takes the place of an earlier one for the same
thing. `lastGiven gives entries` is what the last of the entries gives that gives something at all.
A reader that goes through the entries from the first to the last arrives at it, if one entry of
which it takes up what it gives replaces what was there, and one that gives nothing is of no
consequence (`foldlM_lastGiven`).

The same holds of the tables that the readers keep: the value under a key is the one that was put
there last, and other keys are not concerned (`Assoc.lookup_put`).
-/

namespace OpsLint

/-! ## Tables -/

namespace Assoc

variable {κ α : Type} [BEq κ] [LawfulBEq κ]

theorem lookup_put (key : κ) (value : α) (table : List (κ × α)) (k : κ) :
    (put key value table).lookup k = if k == key then some value else table.lookup k := by
  unfold put
  induction table with
  | nil =>
    rw [putBy, List.lookup_cons]
    cases k == key <;> rfl
  | cons entry table ih =>
    obtain ⟨k', v⟩ := entry
    rw [putBy]
    by_cases hk' : k' = key
    · subst hk'
      rw [if_pos (beq_self_eq_true k'), List.lookup_cons, List.lookup_cons]
      cases k == k' <;> rfl
    · rw [if_neg (by simpa using hk'), List.lookup_cons, List.lookup_cons, ih]
      by_cases hk : k = k'
      · subst hk
        rw [beq_self_eq_true, beq_eq_false_iff_ne.2 hk']
        rfl
      · rw [beq_eq_false_iff_ne.2 hk]

theorem lookup_modify (key : κ) (fallback : α) (f : α → α) (table : List (κ × α)) (k : κ) :
    (modify key fallback f table).lookup k
      = if k == key then some (f ((table.lookup key).getD fallback)) else table.lookup k :=
  lookup_put key _ table k

/-- Under different keys each entry can be looked up. -/
theorem lookup_eq_some_iff_mem {table : List (κ × α)} (h : (table.map Prod.fst).Nodup) (key : κ)
    (value : α) : table.lookup key = some value ↔ (key, value) ∈ table := by
  rw [List.lookup_eq_some_iff]
  constructor
  · rintro ⟨before, after, rfl, -⟩
    exact List.mem_append_right before List.mem_cons_self
  · intro hmem
    obtain ⟨before, after, rfl⟩ := List.append_of_mem hmem
    refine ⟨before, after, rfl, fun p hp => ?_⟩
    rw [List.map_append, List.nodup_append] at h
    have hne := h.2.2 p.1 (List.mem_map_of_mem hp) key List.mem_cons_self
    simpa using hne.symm

end Assoc

/-! ## Entries one after another -/

section

variable {α β σ ε : Type}

/-- Of two steps in a row both succeed. -/
theorem exists_ok_of_bind_ok {x : Except ε α} {f : α → Except ε β} {b : β} (h : x >>= f = .ok b) :
    ∃ a, x = .ok a ∧ f a = .ok b := by
  cases x with
  | error e => exact nomatch h
  | ok a => exact ⟨a, rfl, h⟩

theorem exists_ok_of_map_ok {x : Except ε α} {f : α → β} {b : β} (h : x.map f = .ok b) :
    ∃ a, x = .ok a ∧ f a = b := by
  cases x with
  | error e => exact nomatch h
  | ok a => exact ⟨a, rfl, Except.ok.inj h⟩

/-- A list of steps succeeds if each of them does. -/
theorem exists_mapM_of_forall {f : α → Except ε β} {l : List α}
    (h : ∀ a ∈ l, ∃ b, f a = .ok b) : ∃ results, l.mapM f = .ok results := by
  induction l with
  | nil => exact ⟨[], rfl⟩
  | cons a l ih =>
    obtain ⟨⟨b, hb⟩, hl⟩ := List.forall_mem_cons.1 h
    obtain ⟨results, hresults⟩ := ih hl
    refine ⟨b :: results, ?_⟩
    rw [List.mapM_cons, hb, hresults]
    rfl

/-- What the last entry gives of those that give something. -/
def lastGiven (gives : α → Option β) (entries : List α) : Option β :=
  entries.reverse.findSome? gives

theorem lastGiven_cons (gives : α → Option β) (a : α) (entries : List α) :
    lastGiven gives (a :: entries) = (lastGiven gives entries).or (gives a) := by
  unfold lastGiven
  rw [List.reverse_cons, List.findSome?_append, List.findSome?_singleton]

theorem lastGiven_map {γ : Type} (f : β → γ) (gives : α → Option β) (entries : List α) :
    lastGiven (fun a => (gives a).map f) entries = (lastGiven gives entries).map f := by
  induction entries with
  | nil => rfl
  | cons a entries ih => rw [lastGiven_cons, lastGiven_cons, ih, Option.map_or]

/-- **A reader arrives at what was given last.** `P given s` says that the reader has come to `s`
by what was given so far. -/
theorem foldlM_lastGiven {step : σ → α → Except ε σ} (gives : α → Option β)
    {P : Option β → σ → Prop}
    (hstep : ∀ {s a s' given}, step s a = .ok s' → P given s → P ((gives a).or given) s')
    {entries : List α} {s s' : σ} (h : entries.foldlM step s = .ok s') (hs : P none s) :
    P (lastGiven gives entries) s' := by
  -- the induction is on the entries that remain, with something given by those before
  suffices hgeneral : ∀ {given s}, entries.foldlM step s = .ok s' → P given s →
      P ((lastGiven gives entries).or given) s' by
    have hlast := hgeneral h hs
    rwa [Option.or_none] at hlast
  clear h hs s
  induction entries with
  | nil =>
    intro given s h hs
    cases h
    exact hs
  | cons a entries ih =>
    intro given s h hs
    rw [List.foldlM_cons] at h
    obtain ⟨next, hnext, h⟩ := exists_ok_of_bind_ok h
    rw [lastGiven_cons, Option.or_assoc]
    exact ih h (hstep hnext hs)

/-- What every entry leaves alone is left alone by all of them. -/
theorem foldlM_keeps {step : σ → α → Except ε σ} {P : σ → Prop}
    (hstep : ∀ {s a s'}, step s a = .ok s' → P s → P s') {entries : List α} {s s' : σ}
    (h : entries.foldlM step s = .ok s') (hs : P s) : P s' :=
  foldlM_lastGiven (fun _ => (none : Option Unit)) (P := fun _ s => P s) hstep h hs

/-- A reader that cannot fail. -/
theorem foldl_lastGiven {step : σ → α → σ} (gives : α → Option β) {P : Option β → σ → Prop}
    (hstep : ∀ {s a given}, P given s → P ((gives a).or given) (step s a)) (entries : List α)
    {s : σ} (hs : P none s) : P (lastGiven gives entries) (entries.foldl step s) := by
  let step' (s : σ) (a : α) : Except Empty σ := .ok (step s a)
  have hstep' : ∀ {s a s' given}, step' s a = .ok s' → P given s → P ((gives a).or given) s' :=
    fun h hs => Except.ok.inj h ▸ hstep hs
  exact foldlM_lastGiven gives hstep' List.foldlM_pure hs

end

end OpsLint

import Mathlib.Data.List.Induction
import Mathlib.Data.List.Nodup
import Mathlib.Data.List.Perm.Basic
import OpsLint.Rule.Registry

/-!
# Which proposals become a registry

Proposals are looked at one by one, and what has been accepted so far is what a proposal is held
against. As long as nothing has been refused these are all the proposals before it, so that a
proposal can be judged by the list alone (`Proposal.IsFaulty`). A list is refused if and only if one
of its proposals is faulty, and the refusal is about the **first** of these
(`Registry.ofProposals_eq_error_iff`); otherwise all of them become rules, in their order
(`Registry.exists_ofProposals_iff`).

What a registry offers then follows from its identifiers being different: its rules fall into one
list for each kind of file, and each of them is found under its identifier.
-/

namespace OpsLint

/-! ## Faults of a proposal -/

namespace Proposal

/-- A proposal that repeats the identifier of one before it, applies to no kind of file or has no
severity. -/
def IsFaulty (before : List Proposal) (p : Proposal) : Prop :=
  p.id ∈ before.map Proposal.id ∨ p.kind = none ∨ ∀ s, p.severity ≠ .severity s

/-- **Why a proposal is refused**: the first of its faults counts. -/
inductive Refused (before : List Proposal) (p : Proposal) : Registry.Error → Prop
  | duplicateId (hid : p.id ∈ before.map Proposal.id) : Refused before p (.duplicateId p.id)
  | noKind (hid : p.id ∉ before.map Proposal.id) (hkind : p.kind = none) :
    Refused before p (.noKind p.id)
  | badSeverity (hid : p.id ∉ before.map Proposal.id) (hkind : p.kind ≠ none) {word : Text}
    (hword : p.severity = .word word) : Refused before p (.badSeverity p.id word)

/-- Proposals of which none is faulty after those before it. -/
def Consistent (ps : List Proposal) : Prop :=
  ∀ before p after, ps = before ++ p :: after → ¬ p.IsFaulty before

variable {before ps : List Proposal} {p : Proposal} {e : Registry.Error}

theorem Refused.isFaulty (h : Refused before p e) : p.IsFaulty before := by
  cases h with
  | duplicateId hid => exact .inl hid
  | noKind _ hkind => exact .inr (.inl hkind)
  | badSeverity _ _ hword =>
    refine .inr (.inr fun s hs => ?_)
    exact ProposedSeverity.noConfusion (hword.symm.trans hs)

/-- There is one reason. -/
theorem Refused.unique {e' : Registry.Error} (h : Refused before p e) (h' : Refused before p e') :
    e = e' := by
  cases h with
  | duplicateId hid =>
    cases h' with
    | duplicateId _ => rfl
    | noKind hid' _ => exact absurd hid hid'
    | badSeverity hid' _ _ => exact absurd hid hid'
  | noKind hid hkind =>
    cases h' with
    | duplicateId hid' => exact absurd hid' hid
    | noKind _ _ => rfl
    | badSeverity _ hkind' _ => exact absurd hkind hkind'
  | badSeverity hid hkind hword =>
    cases h' with
    | duplicateId hid' => exact absurd hid' hid
    | noKind _ hkind' => exact absurd hkind' hkind
    | badSeverity _ _ hword' =>
      rw [ProposedSeverity.word.inj (hword.symm.trans hword')]

theorem consistent_nil : Consistent [] := fun before p after h => by simp at h

theorem consistent_concat :
    Consistent (ps ++ [p]) ↔ Consistent ps ∧ ¬ p.IsFaulty ps := by
  constructor
  · refine fun h => ⟨fun before q after hps => ?_, h ps p [] rfl⟩
    exact h before q (after ++ [p]) (by simp [hps])
  · rintro ⟨hps, hp⟩ before q after heq
    rcases List.eq_nil_or_concat after with rfl | ⟨after, r, rfl⟩
    · obtain ⟨rfl, hq⟩ := List.append_inj' heq rfl
      obtain rfl := List.head_eq_of_cons_eq hq
      exact hp
    · rw [List.concat_eq_append, ← List.cons_append, ← List.append_assoc] at heq
      exact hps before q after (List.append_inj' heq rfl).1

end Proposal

/-! ## Looking at the proposals -/

namespace Registry

open Proposal

/-- The registry holds the proposals, as rules. -/
def Holds (r : Registry) (ps : List Proposal) : Prop := r.rules.map Rule.proposal = ps

theorem Holds.map_id {r : Registry} {ps : List Proposal} (h : r.Holds ps) :
    ps.map Proposal.id = r.rules.map Rule.id := by
  rw [← h, List.map_map]
  rfl

/-- **What becomes of one proposal**: it is refused for its first fault, or it is added. -/
theorem accept_cases {r : Registry} {before : List Proposal} (h : r.Holds before) (p : Proposal) :
    (∃ e, r.accept p = .error e ∧ Refused before p e) ∨
      ∃ r', r.accept p = .ok r' ∧ ¬ p.IsFaulty before ∧ r'.Holds (before ++ [p]) := by
  obtain ⟨id, kind, severity, description, check⟩ := p
  unfold accept
  by_cases hid : id ∈ r.rules.map Rule.id
  · rw [dif_pos hid]
    exact .inl ⟨_, rfl, .duplicateId (h.map_id ▸ hid)⟩
  · have hnew : id ∉ before.map Proposal.id := h.map_id ▸ hid
    rw [dif_neg hid]
    cases kind with
    | none => exact .inl ⟨_, rfl, .noKind hnew rfl⟩
    | some kind =>
      cases severity with
      | word word => exact .inl ⟨_, rfl, .badSeverity hnew (Option.some_ne_none kind) rfl⟩
      | severity severity =>
        refine .inr ⟨_, rfl, ?_, ?_⟩
        · rintro (hmem | hkind | hseverity)
          · exact hnew hmem
          · exact Option.some_ne_none kind hkind
          · exact hseverity severity rfl
        · unfold Holds push
          rw [List.map_append, h]
          rfl

theorem ofProposals_append (before after : List Proposal) :
    ofProposals (before ++ after) = ofProposals before >>= fun r => after.foldlM accept r :=
  List.foldlM_append

/-- **What becomes of a list of proposals.** -/
def Registers (ps : List Proposal) : Except Error Registry → Prop
  | .error e => ∃ before p after, ps = before ++ p :: after ∧ Consistent before ∧ Refused before p e
  | .ok r => Consistent ps ∧ r.Holds ps

/-- The induction is on the last proposal: either the ones before it have been refused already, or
they are what it is held against. -/
theorem registers_ofProposals (ps : List Proposal) : Registers ps (ofProposals ps) := by
  induction ps using List.reverseRecOn with
  | nil => exact ⟨consistent_nil, rfl⟩
  | append_singleton ps p ih =>
    rw [ofProposals_append]
    cases hps : ofProposals ps with
    | error e =>
      rw [hps] at ih
      obtain ⟨before, q, after, rfl, hbefore, hq⟩ := ih
      exact ⟨before, q, after ++ [p], by simp, hbefore, hq⟩
    | ok r =>
      rw [hps] at ih
      show Registers (ps ++ [p]) ([p].foldlM accept r)
      rw [List.foldlM_cons]
      rcases accept_cases ih.2 p with ⟨e, haccept, he⟩ | ⟨r', haccept, hp, hr'⟩
      · rw [haccept]
        exact ⟨ps, p, [], rfl, ih.1, he⟩
      · rw [haccept]
        exact ⟨consistent_concat.2 ⟨ih.1, hp⟩, hr'⟩

/-- **Consistent proposals become a registry that holds them**, and no others do. -/
theorem exists_ofProposals_iff (ps : List Proposal) :
    Consistent ps ↔ ∃ r, ofProposals ps = .ok r ∧ r.Holds ps := by
  have h := registers_ofProposals ps
  cases hps : ofProposals ps with
  | error e =>
    rw [hps] at h
    obtain ⟨before, p, after, heq, -, hp⟩ := h
    refine iff_of_false (fun hall => hall before p after heq hp.isFaulty) ?_
    rintro ⟨r, hr, -⟩
    exact nomatch hr
  | ok r =>
    rw [hps] at h
    exact iff_of_true h.1 ⟨r, rfl, h.2⟩

/-- **A refusal is about the first faulty proposal.** -/
theorem ofProposals_eq_error_iff (ps : List Proposal) (e : Error) :
    ofProposals ps = .error e ↔
      ∃ before p after, ps = before ++ p :: after ∧ Consistent before ∧ Refused before p e := by
  constructor
  · intro h
    have hps := registers_ofProposals ps
    rwa [h] at hps
  · rintro ⟨before, p, after, rfl, hbefore, hp⟩
    obtain ⟨r, hr, hholds⟩ := (exists_ofProposals_iff before).1 hbefore
    rcases accept_cases hholds p with ⟨e', haccept, he'⟩ | ⟨r', -, hok, -⟩
    · rw [ofProposals_append, hr, hp.unique he']
      show (p :: after).foldlM accept r = _
      rw [List.foldlM_cons, haccept]
      rfl
    · exact absurd hp.isFaulty hok

/-! ## What a registry offers -/

section

variable (r : Registry)

theorem nodup_rules : r.rules.Nodup := r.nodup.of_map

/-- **A rule is found under its identifier**, and it is the only one there. -/
theorem get?_eq_some_iff {id : Text} {rule : Rule} :
    r.get? id = some rule ↔ rule ∈ r.rules ∧ rule.id = id := by
  unfold get?
  constructor
  · intro h
    exact ⟨List.mem_of_find?_eq_some h, by simpa using List.find?_some h⟩
  · rintro ⟨hrule, rfl⟩
    cases h : r.rules.find? (·.id = rule.id) with
    | none => exact absurd (decide_eq_true rfl) (List.find?_eq_none.1 h rule hrule)
    | some rule' =>
      have hid : rule'.id = rule.id := by simpa using List.find?_some h
      rw [List.inj_on_of_nodup_map r.nodup (List.mem_of_find?_eq_some h) hrule hid]

theorem get?_eq_none_iff {id : Text} : r.get? id = none ↔ id ∉ r.rules.map Rule.id := by
  simp [get?, List.find?_eq_none]

theorem mem_forKindOrUnknown {kind : Option FileKind} {rule : Rule} :
    rule ∈ r.forKindOrUnknown kind ↔ rule ∈ r.rules ∧ some rule.kind = kind := by
  simp [forKindOrUnknown]

theorem forKindOrUnknown_none : r.forKindOrUnknown none = [] := by
  simp [forKindOrUnknown]

theorem disjoint_forKindOrUnknown {kind kind' : Option FileKind} (h : kind ≠ kind') :
    (r.forKindOrUnknown kind).Disjoint (r.forKindOrUnknown kind') := by
  intro rule hrule hrule'
  exact h ((r.mem_forKindOrUnknown.1 hrule).2.symm.trans (r.mem_forKindOrUnknown.1 hrule').2)

/-- **The lists for all kinds make up the rules**, each rule once. -/
theorem perm_forKindOrUnknown :
    ((none :: FileKind.all.map some).flatMap r.forKindOrUnknown).Perm r.rules := by
  have hkinds : (none :: FileKind.all.map some).Nodup := by decide
  have hlists : ((none :: FileKind.all.map some).flatMap r.forKindOrUnknown).Nodup :=
    List.nodup_flatMap.2 ⟨fun _ _ => r.nodup_rules.filter _,
      hkinds.imp fun hne => r.disjoint_forKindOrUnknown hne⟩
  refine (List.perm_ext_iff_of_nodup hlists r.nodup_rules).2 fun rule => ?_
  rw [List.mem_flatMap]
  constructor
  · rintro ⟨kind, -, h⟩
    exact (r.mem_forKindOrUnknown.1 h).1
  · intro h
    have hkind : some rule.kind ∈ none :: FileKind.all.map some := by
      cases rule.kind <;> decide
    exact ⟨some rule.kind, hkind, r.mem_forKindOrUnknown.2 ⟨h, rfl⟩⟩

/-- Rules for different kinds have different identifiers. -/
theorem disjoint_idsFor {kind kind' : Option FileKind} (h : kind ≠ kind') :
    (r.idsFor kind).Disjoint (r.idsFor kind') := by
  intro id hid hid'
  obtain ⟨rule, hrule, rfl⟩ := List.mem_map.1 hid
  obtain ⟨rule', hrule', hsame⟩ := List.mem_map.1 hid'
  rw [mem_forKindOrUnknown] at hrule hrule'
  obtain rfl := List.inj_on_of_nodup_map r.nodup hrule'.1 hrule.1 hsame
  exact h (hrule.2.symm.trans hrule'.2)

end

/-- **A registry sorts proposals**: it holds them in their order, offers them in one list for each
kind of file, none of them for a file of unknown kind, and finds each by its identifier. -/
structure Sorts (r : Registry) (ps : List Proposal) : Prop where
  holds : r.Holds ps
  sublist : ∀ kind, ((r.forKindOrUnknown kind).map Rule.proposal).Sublist ps
  applies : ∀ kind, ∀ rule ∈ r.forKindOrUnknown kind, some rule.kind = kind
  unknown : r.forKindOrUnknown none = []
  disjoint : ∀ kind kind', kind ≠ kind' →
    (r.forKindOrUnknown kind).Disjoint (r.forKindOrUnknown kind')
  once : ((none :: FileKind.all.map some).flatMap r.forKindOrUnknown).Perm r.rules
  found : ∀ id rule, r.get? id = some rule ↔ rule ∈ r.rules ∧ rule.id = id
  missing : ∀ id, r.get? id = none ↔ id ∉ ps.map Proposal.id
  ids : ∀ kind kind', kind ≠ kind' → (r.idsFor kind).Disjoint (r.idsFor kind')

theorem Holds.sorts {r : Registry} {ps : List Proposal} (h : r.Holds ps) : r.Sorts ps where
  holds := h
  sublist _ := h ▸ List.filter_sublist.map Rule.proposal
  applies _ _ hrule := (r.mem_forKindOrUnknown.1 hrule).2
  unknown := r.forKindOrUnknown_none
  disjoint _ _ hne := r.disjoint_forKindOrUnknown hne
  once := r.perm_forKindOrUnknown
  found _ _ := r.get?_eq_some_iff
  missing _ := h.map_id ▸ r.get?_eq_none_iff
  ids _ _ hne := r.disjoint_idsFor hne

/-- **Registration accepts exactly the consistent lists and sorts them.** A list is refused if and
only if one of its proposals is faulty after those before it, and the refusal gives the first fault
of the first such proposal. -/
theorem ofProposals_exact (ps : List Proposal) :
    ((∃ e, ofProposals ps = .error e) ↔
      ∃ before p after, ps = before ++ p :: after ∧ p.IsFaulty before) ∧
    (∀ e, ofProposals ps = .error e ↔
      ∃ before p after, ps = before ++ p :: after ∧ Consistent before ∧ Refused before p e) ∧
    (Consistent ps ↔ ∃ r, ofProposals ps = .ok r ∧ r.Sorts ps) := by
  refine ⟨⟨?_, ?_⟩, ofProposals_eq_error_iff ps, ?_⟩
  · rintro ⟨e, he⟩
    obtain ⟨before, p, after, hps, -, hp⟩ := (ofProposals_eq_error_iff ps e).1 he
    exact ⟨before, p, after, hps, hp.isFaulty⟩
  · rintro ⟨before, p, after, hps, hp⟩
    cases h : ofProposals ps with
    | error e => exact ⟨e, rfl⟩
    | ok r =>
      have hall := registers_ofProposals ps
      rw [h] at hall
      exact absurd hp (hall.1 before p after hps)
  · rw [exists_ofProposals_iff]
    exact exists_congr fun r => and_congr_right fun _ => ⟨Holds.sorts, Sorts.holds⟩

end Registry

end OpsLint

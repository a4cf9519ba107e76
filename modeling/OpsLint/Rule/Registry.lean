import OpsLint.Rule.Basic
import OpsLint.Text.Quoted

/-!
# Registries

A registry is a list of rules with pairwise different identifiers. It is made from **proposals**,
which are rules that have not been looked at: a proposal may apply to no kind of file, and may have
a word in the place of a severity. Proposals are looked at in order, and the first one that repeats
an identifier, applies to nothing or has no severity is refused, for the first of these reasons.

That identifiers differ is a field of the type, so that looking up a rule by its identifier cannot
depend on the order of the rules.
-/

namespace OpsLint

/-- What a proposal has for a severity. A word is none, whatever it says. -/
inductive ProposedSeverity where
  | severity (severity : Severity)
  | word (word : Text)
deriving DecidableEq

/-- A rule that has not been looked at. -/
structure Proposal where
  id : Text
  kind : Option FileKind := none
  severity : ProposedSeverity := .severity .warning
  description : Text := ""
  check : Rule.Check

/-- A rule proposed as it is. -/
def Rule.proposal (r : Rule) : Proposal :=
  { id := r.id
    kind := some r.kind
    severity := .severity r.severity
    description := r.description
    check := r.check }

/-- A list of rules with pairwise different identifiers. -/
structure Registry where
  rules : List Rule := []
  nodup : (rules.map Rule.id).Nodup := by decide

namespace Registry

/-- Why a proposal is refused. -/
inductive Error where
  | duplicateId (id : Text)
  | noKind (id : Text)
  | badSeverity (id word : Text)
deriving DecidableEq

/-- The wording of a refusal. -/
def Error.message : Error → Text
  | .duplicateId id => "Duplicate rule id '" ++ id ++ "'"
  | .noKind id => "Rule '" ++ id ++ "' does not apply to any file type"
  | .badSeverity id word =>
    "Rule '" ++ id ++ "' has invalid default severity " ++ Text.quoted word

/-- Adds a rule whose identifier is new. -/
def push (r : Registry) (rule : Rule) (h : rule.id ∉ r.rules.map Rule.id) : Registry :=
  { rules := r.rules ++ [rule]
    nodup := by
      rw [List.map_append, List.nodup_append]
      refine ⟨r.nodup, by simp, fun a ha b hb => ?_⟩
      rw [List.map_singleton, List.mem_singleton] at hb
      exact fun hab => h (hb ▸ hab ▸ ha) }

/-- Looks at one proposal and adds it. -/
def accept (r : Registry) (p : Proposal) : Except Error Registry :=
  if h : p.id ∈ r.rules.map Rule.id then .error (.duplicateId p.id)
  else match p.kind with
    | none => .error (.noKind p.id)
    | some kind =>
      match p.severity with
      | .word word => .error (.badSeverity p.id word)
      | .severity severity =>
        .ok (r.push
          { id := p.id, kind, severity, description := p.description, check := p.check } h)

/-- The registry of a list of proposals. -/
def ofProposals (proposals : List Proposal) : Except Error Registry := proposals.foldlM accept {}

/-- The registry of the rules of this library. -/
def standard : Registry := { rules := Rule.standard }

/-- The rule of a given identifier. -/
def get? (r : Registry) (id : Text) : Option Rule := r.rules.find? (·.id = id)

/-- The rules for a kind of file. -/
def forKind (r : Registry) (kind : FileKind) : List Rule := r.rules.filter (·.kind = kind)

/-- The rules for a file of a kind that may be unknown. -/
def forKindOrUnknown (r : Registry) (kind : Option FileKind) : List Rule :=
  r.rules.filter (some ·.kind = kind)

theorem forKindOrUnknown_some (r : Registry) (kind : FileKind) :
    r.forKindOrUnknown (some kind) = r.forKind kind := by
  simp [forKindOrUnknown, forKind]

/-- The identifiers of the rules for a file of a kind that may be unknown. -/
def idsFor (r : Registry) (kind : Option FileKind) : List Text :=
  (r.forKindOrUnknown kind).map Rule.id

end Registry

end OpsLint

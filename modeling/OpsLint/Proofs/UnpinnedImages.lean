import OpsLint.Proofs.Path
import OpsLint.Proofs.Words
import OpsLint.Rule.Registry

/-!
# Unpinned images are reported exactly

The rule about base images goes through the build stages of a Dockerfile and keeps the names that
stages have been given so far, because an image may be one of these. What it finds is the same as if
each stage were held against the list of those **before** it (`IsUnpinned`): the names kept are
those of the stages read, last name first (`imageFindings_eq`).

The verdict on a stage is therefore a matter of its own image and of the stages before it. It does
not depend on the name that the stage itself is given, nor on anything that comes later.

Whether an image has a tag is asked of its last part, the one after the last slash (`lastPart`). A
colon before that slash is the colon of a port.
-/

namespace OpsLint.Dockerfile

/-! ## What a build stage says -/

namespace Instruction

/-- The arguments of an instruction that are no flags. -/
def operands (i : Instruction) : List Text :=
  (Text.words i.arguments).filter fun word => !Text.startsWith word "--"

/-- The image that a build stage starts from. -/
def image (i : Instruction) : Text := i.operands.head?.getD ""

/-- The name that a build stage is given. -/
def stage? (i : Instruction) : Option Text :=
  if i.operands[1]?.map Text.capitals = some ("AS" : Text) then i.operands[2]? else none

theorem splitFrom_arguments (i : Instruction) : splitFrom i.arguments = (i.image, i.stage?) := by
  unfold splitFrom image stage?
  rw [show (Text.words i.arguments).filter (!Text.startsWith · "--") = i.operands from rfl]
  rcases i.operands with _ | ⟨image, _ | ⟨as, _ | ⟨stage, rest⟩⟩⟩
  · rfl
  · rfl
  · simp
  · simp

end Instruction

/-- The names that build stages are given, in small letters. -/
def stageNames (stages : List Instruction) : List Text :=
  stages.filterMap fun i => i.stage?.map Text.lower

/-- The name of a stage is one of its words, so it is never empty. -/
theorem stageName?_eq (i : Instruction) : stageName? i = i.stage?.map Text.lower := by
  unfold stageName?
  rw [i.splitFrom_arguments]
  cases hstage : i.stage? with
  | none => rfl
  | some stage =>
    have hmem : stage ∈ i.operands := by
      unfold Instruction.stage? at hstage
      split at hstage
      · exact List.mem_of_getElem? hstage
      · exact nomatch hstage
    have hne : stage ≠ [] := Text.ne_nil_of_mem_words (List.mem_filter.1 hmem).1
    simp [hne]

/-! ## The tag of an image -/

/-- The part of an image after its last slash. -/
def lastPart (image : Text) : Text := (Text.splitOn '/' image).getLast?.getD ""

/-- **The address of a registry is not looked at**, its port included. -/
theorem lastPart_append_slash (registry : Text) {name : Text} (h : '/' ∉ name) :
    lastPart (registry ++ '/' :: name) = name := by
  unfold lastPart
  rw [Text.splitOn_append_cons, Text.splitOn_of_not_mem h]
  simp

theorem baseName_eq (image : Text) : baseName image = lastPart image := by
  unfold baseName
  by_cases h : '/' ∈ image
  · obtain ⟨name, registry, hsplit, hname⟩ := List.eq_append_cons_of_mem (List.mem_reverse.2 h)
    have himage : image = registry.reverse ++ '/' :: name.reverse := by
      rw [← List.reverse_reverse image, hsplit]
      simp
    have hcut : image.reverse.takeWhile (· ≠ '/') = name := by
      rw [hsplit]
      exact Text.before_append_cons hname registry
    rw [hcut, himage, lastPart_append_slash _ (by simpa using hname)]
  · have hcut : image.reverse.takeWhile (· ≠ '/') = image.reverse :=
      Text.before_eq_self (by simpa using h)
    rw [hcut, List.reverse_reverse, lastPart, Text.splitOn_of_not_mem h]
    rfl

/-- The tag of an image is `latest`: this is all that follows the first colon of its last part. -/
def IsLatest (image : Text) : Prop :=
  ∃ name, ':' ∉ name ∧ lastPart image = name ++ ':' :: "latest".toList

theorem imageTag?_eq_none_iff (image : Text) : imageTag? image = none ↔ ':' ∉ lastPart image := by
  rw [imageTag?, baseName_eq, Option.map_eq_none_iff, Text.cut?_eq_none_iff]

theorem imageTag?_eq_latest_iff (image : Text) :
    imageTag? image = some "latest".toList ↔ IsLatest image := by
  rw [imageTag?, baseName_eq, Option.map_eq_some_iff]
  constructor
  · rintro ⟨⟨name, tag⟩, hcut, rfl⟩
    exact ⟨name, ((Text.cut?_eq_some_iff _ _ _ _).1 hcut).symm⟩
  · rintro ⟨name, h⟩
    exact ⟨(name, "latest"), (Text.cut?_eq_some_iff _ _ _ _).2 h.symm, rfl⟩

instance (image : Text) : Decidable (IsLatest image) :=
  decidable_of_iff _ (imageTag?_eq_latest_iff image)

/-! ## The verdict on an image -/

/-- **An image that should be pinned and is not**, where `before` are the build stages before the
one that starts from it. -/
structure IsUnpinned (before : List Instruction) (image : Text) : Prop where
  ne_nil : image ≠ []
  noVariable : '$' ∉ image
  noDigest : '@' ∉ image
  notScratch : Text.lower image ≠ "scratch"
  notStage : Text.lower image ∉ stageNames before
  tag : ':' ∉ lastPart image ∨ IsLatest image

/-- What is said of a build stage whose image is not pinned. -/
def unpinned (i : Instruction) : Finding :=
  { line := i.line
    message :=
      if IsLatest i.image then
        "Image '" ++ i.image ++ "' uses the 'latest' tag; pin a specific version"
      else "Image '" ++ i.image ++ "' has no tag and implicitly uses 'latest'; " ++
        "pin a specific version" }

theorem isExempt_eq_false_iff (before : List Instruction) (image : Text) :
    isExempt (stageNames before).reverse image = false ↔
      image ≠ [] ∧ '$' ∉ image ∧ '@' ∉ image ∧ Text.lower image ≠ "scratch" ∧
        Text.lower image ∉ stageNames before := by
  unfold isExempt
  rw [← Bool.not_eq_true]
  simp only [Bool.or_eq_true, List.isEmpty_iff, List.contains_iff_mem, decide_eq_true_iff,
    List.mem_reverse, not_or, and_assoc, ne_eq]

theorem tagProblem?_eq (i : Instruction) :
    tagProblem? i.image =
      if ':' ∉ lastPart i.image ∨ IsLatest i.image then some (unpinned i).message else none := by
  have hnone := imageTag?_eq_none_iff i.image
  have hlatest := imageTag?_eq_latest_iff i.image
  unfold tagProblem? unpinned
  cases htag : imageTag? i.image with
  | none =>
    rw [htag] at hnone hlatest
    rw [if_pos (.inl (hnone.1 rfl)), if_neg fun h => Option.some_ne_none _ (hlatest.2 h).symm]
  | some tag =>
    rw [htag, Option.some_inj] at hlatest
    have hcolon : ¬ ':' ∉ lastPart i.image :=
      fun h => Option.some_ne_none tag (htag.symm.trans (hnone.2 h))
    by_cases h : IsLatest i.image
    · simp only [hlatest.2 h, h, or_true, if_true]
    · simp only [mt hlatest.1 h, h, hcolon, or_false, if_false]

theorem isUnpinned_iff (before : List Instruction) (image : Text) :
    IsUnpinned before image ↔ isExempt (stageNames before).reverse image = false ∧
      (':' ∉ lastPart image ∨ IsLatest image) := by
  rw [isExempt_eq_false_iff]
  exact ⟨fun h => ⟨⟨h.1, h.2, h.3, h.4, h.5⟩, h.6⟩,
    fun ⟨⟨h₁, h₂, h₃, h₄, h₅⟩, h₆⟩ => ⟨h₁, h₂, h₃, h₄, h₅, h₆⟩⟩

instance (before : List Instruction) (image : Text) : Decidable (IsUnpinned before image) :=
  decidable_of_iff _ (isUnpinned_iff before image).symm

/-- **The verdict on one stage.** -/
theorem imageFinding?_eq (before : List Instruction) (i : Instruction) :
    imageFinding? (stageNames before).reverse i
      = if IsUnpinned before i.image then some (unpinned i) else none := by
  unfold imageFinding?
  rw [i.splitFrom_arguments]
  simp only [isUnpinned_iff, tagProblem?_eq]
  cases isExempt (stageNames before).reverse i.image with
  | true => simp
  | false =>
    by_cases htag : ':' ∉ lastPart i.image ∨ IsLatest i.image
    · simp only [htag]
      rfl
    · simp only [htag]
      rfl

/-! ## All stages -/

/-- **The reports on a list of build stages**: one on each stage whose image is not pinned, judged
by the stages before it, in order. -/
def unpinnedAmong (stages : List Instruction) : List Finding :=
  (stages.zipIdx.filter fun t => IsUnpinned (stages.take t.2) t.1.image).map fun t => unpinned t.1

/-- A stage adds its name to those of the stages before it. -/
theorem stageNames_concat (before : List Instruction) (i : Instruction) :
    (stageName? i).toList ++ (stageNames before).reverse
      = (stageNames (before ++ [i])).reverse := by
  unfold stageNames
  rw [stageName?_eq, List.filterMap_append, List.filterMap_cons, List.filterMap_nil]
  cases i.stage? with
  | none => simp
  | some stage => simp

/-- **The names kept are those of the stages before.** The induction is on the stages to come;
`before` are those that have been read. -/
theorem imageFindings_eq (before stages : List Instruction) :
    imageFindings (stageNames before).reverse stages
      = ((stages.zipIdx before.length).filter fun t =>
          IsUnpinned ((before ++ stages).take t.2) t.1.image).map fun t => unpinned t.1 := by
  induction stages generalizing before with
  | nil => rfl
  | cons i stages ih =>
    have hlength : before.length + 1 = (before ++ [i]).length := by simp
    have hsplit : before ++ i :: stages = (before ++ [i]) ++ stages := by simp
    rw [imageFindings, stageNames_concat, ih, imageFinding?_eq, List.zipIdx_cons, List.filter_cons,
      hlength, hsplit]
    have htake : ((before ++ [i]) ++ stages).take before.length = before := by simp
    simp only [htake]
    by_cases h : IsUnpinned before i.image
    · simp [h]
    · simp [h]

theorem imageFindings_nil (stages : List Instruction) :
    imageFindings [] stages = unpinnedAmong stages :=
  imageFindings_eq [] stages

theorem imageFindings_append (before xs ys : List Instruction) :
    imageFindings (stageNames before).reverse (xs ++ ys)
      = imageFindings (stageNames before).reverse xs
        ++ imageFindings (stageNames (before ++ xs)).reverse ys := by
  induction xs generalizing before with
  | nil => simp [imageFindings]
  | cons i xs ih =>
    rw [List.cons_append, imageFindings, imageFindings, stageNames_concat, ih]
    simp

/-- **Later stages change nothing** in what is said of the earlier ones. -/
theorem unpinnedAmong_append (before after : List Instruction) :
    unpinnedAmong (before ++ after)
      = unpinnedAmong before ++ imageFindings (stageNames before).reverse after := by
  rw [← imageFindings_nil, ← imageFindings_nil]
  exact imageFindings_append [] before after

theorem unpinnedAmong_concat (before : List Instruction) (i : Instruction) :
    unpinnedAmong (before ++ [i])
      = unpinnedAmong before ++ if IsUnpinned before i.image then [unpinned i] else [] := by
  rw [unpinnedAmong_append, imageFindings, imageFinding?_eq, imageFindings, List.append_nil]
  split
  · rfl
  · rfl

/-- **The name of a stage changes nothing** in what is said of the stage itself. -/
theorem unpinnedAmong_concat_congr {i i' : Instruction} (hline : i'.line = i.line)
    (himage : i'.image = i.image) (before : List Instruction) :
    unpinnedAmong (before ++ [i']) = unpinnedAmong (before ++ [i]) := by
  have hreport : unpinned i' = unpinned i := by
    unfold unpinned
    rw [hline, himage]
  rw [unpinnedAmong_concat, unpinnedAmong_concat, himage, hreport]

/-! ## The rule -/

/-- **Unpinned images are reported exactly.** What precedes the last slash of an image is not looked
at for a tag. Two Dockerfiles whose build stages agree up to some stage, whatever that stage is
called and whatever follows, have the same reports up to it. -/
theorem check_unpinned (context : Rule.Context)
    (hoptions : context.options.dockerfile.allowLatestTag = false) (d : Dockerfile) :
    ∃ rule, Registry.standard.get? "dockerfile-latest-tag" = some rule ∧
      rule.check context (.dockerfile d) = .ok (unpinnedAmong (d.find "FROM")) ∧
      (∀ registry name : Text, '/' ∉ name → lastPart (registry ++ '/' :: name) = name) ∧
      ∀ (d' : Dockerfile) (before after after' : List Instruction) (i i' : Instruction),
        d.find "FROM" = before ++ i :: after → d'.find "FROM" = before ++ i' :: after' →
        i'.line = i.line → i'.image = i.image →
        ∃ rest rest',
          rule.check context (.dockerfile d) = .ok (unpinnedAmong (before ++ [i]) ++ rest) ∧
          rule.check context (.dockerfile d') = .ok (unpinnedAmong (before ++ [i]) ++ rest') := by
  have hcheck : ∀ d : Dockerfile, Rule.Check.dockerfile unpinnedImages context (.dockerfile d)
      = .ok (unpinnedAmong (d.find "FROM")) := by
    intro d
    show Except.ok (unpinnedImages context.options.dockerfile d) = _
    rw [unpinnedImages, hoptions, if_neg Bool.false_ne_true, imageFindings_nil]
  refine ⟨_, rfl, hcheck d, fun registry _ => lastPart_append_slash registry, ?_⟩
  intro d' before after after' i i' hd hd' hline himage
  have hfirst := hcheck d
  have hsecond := hcheck d'
  rw [hd, List.append_cons, unpinnedAmong_append] at hfirst
  rw [hd', List.append_cons, unpinnedAmong_append,
    unpinnedAmong_concat_congr hline himage] at hsecond
  exact ⟨_, _, hfirst, hsecond⟩

/-- A port is no tag, a stage may be named like its own image, and an image in other letters than
the name of a stage before it is that stage. -/
theorem check_unpinned_of_port :
    let stage (arguments : Text) (line : Nat) : Instruction :=
      { keyword := "FROM", arguments, line, column := 1, endLine := line }
    let d : Dockerfile :=
      { instructions := [stage "--pull host:5000/go as Go" 1, stage "deb AS deb" 2, stage "GO" 3,
          stage "a/b:latest" 4] }
    let context : Rule.Context :=
      { ruleId := "dockerfile-latest-tag", path := "Dockerfile", severity := .warning }
    ∃ rule, Registry.standard.get? "dockerfile-latest-tag" = some rule ∧
      rule.check context (.dockerfile d) = .ok [
        { line := 1
          message := "Image 'host:5000/go' has no tag and implicitly uses 'latest'; " ++
            "pin a specific version" },
        { line := 2
          message := "Image 'deb' has no tag and implicitly uses 'latest'; " ++
            "pin a specific version" },
        { line := 4
          message := "Image 'a/b:latest' uses the 'latest' tag; pin a specific version" }] := by
  intro stage d context
  obtain ⟨rule, hrule, hcheck, -⟩ := check_unpinned context rfl d
  exact ⟨rule, hrule, hcheck.trans (congrArg Except.ok (by decide +kernel))⟩

end OpsLint.Dockerfile

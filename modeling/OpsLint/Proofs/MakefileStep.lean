import Mathlib.Data.List.TakeWhile
import OpsLint.Makefile.Basic

/-!
# One line of a makefile

All that reading one line of a makefile can do, said once (`reads_step`): to which state it leads,
which item it yields, and under which condition. What holds of makefiles is proved by cases on this,
and nothing else looks into `step`.

There are two stages. A line may be skipped, be part of a recipe, be passed over, or go on with a
line that is not part of a recipe (`Reads`). In this last case it may be that the line is still to
be continued; otherwise it is complete, and what a complete line does is a matter of its text
(`Completes`).
-/

namespace OpsLint.Makefile

/-- A text that is continued, without the backslash that says so. -/
def withoutBackslash (text : Text) : Text := (Text.trimRight text).dropLast

/-- A text that is continued, and the line that continues it. -/
def joined (text raw : Text) : Text := withoutBackslash text ++ " " ++ Text.trim raw

/-! ## Rules -/

/-- **How a rule is split**: at its first colon, if something that is not blank begins its names and
no equals sign or comment is among them. -/
theorem splitRule?_eq_some_iff (text names : Text) (doubleColon : Bool) (rest : Text) :
    splitRule? text = some (names, doubleColon, rest) ↔
      text = names ++ ':' :: (if doubleColon then ':' :: rest else rest) ∧
      (∃ c ∈ names.head?, Text.isBlank c = false) ∧ (∀ c ∈ names, endsNames c = false) ∧
      (doubleColon = false → rest.head? ≠ some ':') := by
  unfold splitRule?
  dsimp only
  constructor
  · intro h
    have hsplit := List.takeWhile_append_dropWhile (p := (!endsNames ·)) (l := text)
    have hplain : ∀ c ∈ text.takeWhile (!endsNames ·), endsNames c = false :=
      fun c hc => by simpa using List.mem_takeWhile_imp hc
    split at h
    · rename_i first more after htake hdrop
      rw [htake] at hplain
      rw [htake, hdrop] at hsplit
      split at h
      · exact nomatch h
      · rename_i hblank
        have hfirst : ∃ c ∈ (first :: more).head?, Text.isBlank c = false :=
          ⟨first, rfl, eq_false_of_ne_true hblank⟩
        split at h
        · obtain ⟨rfl, rfl, rfl⟩ : _ ∧ _ ∧ _ := by simpa using h
          rw [htake]
          exact ⟨hsplit.symm, hfirst, hplain, nofun⟩
        · rename_i hone
          obtain ⟨rfl, rfl, rfl⟩ : _ ∧ _ ∧ _ := by simpa using h
          rw [htake]
          refine ⟨hsplit.symm, hfirst, hplain, fun _ hhead => ?_⟩
          obtain ⟨tail, rfl⟩ := List.head?_eq_some_iff.1 hhead
          exact hone tail rfl
    · exact nomatch h
  · rintro ⟨rfl, ⟨c, hc, hblank⟩, hplain, hone⟩
    obtain ⟨more, rfl⟩ := List.head?_eq_some_iff.1 hc
    have hpos : ∀ d ∈ c :: more, (!endsNames d) = true := fun d hd => by rw [hplain d hd]; rfl
    have htake : ∀ after, (c :: more ++ ':' :: after).takeWhile (!endsNames ·) = c :: more :=
      fun after => (List.takeWhile_append_of_pos hpos).trans (List.append_nil _)
    have hdrop : ∀ after, (c :: more ++ ':' :: after).dropWhile (!endsNames ·) = ':' :: after :=
      fun after => List.dropWhile_append_of_pos hpos
    rw [htake, hdrop]
    refine (if_neg (ne_true_of_eq_false hblank)).trans ?_
    cases doubleColon with
    | true => rfl
    | false =>
      split
      · rename_i hrest
        exact absurd (congrArg List.head? hrest) (hone rfl)
      · rfl

/-! ## Complete lines -/

/-- What a complete line does that is not part of a recipe. -/
inductive Completes (st : State) (line : Nat) (indented : Bool) (text : Text) :
    State × List Item → Prop
  | conditional (h : isConditional (Text.trim text) = true) :
      Completes st line indented text ({ st with phase := .fresh }, [])
  | definition (h : isDefine (Text.trim text) = true) :
      Completes st line indented text ({ phase := .definition }, [])
  /-- An assignment, a directive, or a rule for a special target that means nothing here. -/
  | passed (h : isAssignment (Text.trim text) = true ∨ isDirective (Text.trim text) = true ∨
      ∃ rule, ruleLine? text = some rule ∧
        (rule.names.any isSpecialName = true ∨ rule.assigns = true)) :
      Completes st line indented text ({}, [])
  | phony {rule : RuleLine} (h : ruleLine? text = some rule)
      (hphony : rule.names.contains (".PHONY" : Text) = true) :
      Completes st line indented text ({}, [.phony rule.prerequisites])
  | rule {rule : RuleLine} (hindented : indented = false) (h : ruleLine? text = some rule)
      (hspecial : rule.names.any isSpecialName = false) (hassigns : rule.assigns = false) :
      Completes st line indented text ({ inRule := true }, [.rule line rule])
  | fault (h : indented = true ∨ ruleLine? text = none) :
      Completes st line indented text ({}, [.fault line (.noSeparator (Text.trim text))])

theorem completes_readRule (st : State) (line : Nat) {indented : Bool} {text : Text}
    {rule : RuleLine} (hindented : indented = false) (h : ruleLine? text = some rule) :
    Completes st line indented text (readRule line rule) := by
  unfold readRule
  split
  · rename_i hspecial
    split
    · rename_i hphony
      exact .phony h hphony
    · exact .passed (.inr (.inr ⟨rule, h, .inl hspecial⟩))
  · rename_i hspecial
    split
    · rename_i hassigns
      exact .passed (.inr (.inr ⟨rule, h, .inr hassigns⟩))
    · rename_i hassigns
      exact .rule hindented h (eq_false_of_ne_true hspecial) (eq_false_of_ne_true hassigns)

/-- **What a complete line does.** -/
theorem completes_complete (st : State) (line : Nat) (indented : Bool) (text : Text) :
    Completes st line indented text (st.complete line indented text) := by
  unfold State.complete
  dsimp only
  split
  · rename_i h
    exact .conditional h
  · split
    · rename_i h
      exact .definition h
    · split
      · rename_i h
        exact .passed ((Bool.or_eq_true_iff.1 h).imp_right .inl)
      · cases indented with
        | true => exact .fault (.inl rfl)
        | false =>
          cases h : ruleLine? text with
          | none => exact .fault (.inr h)
          | some rule => exact completes_readRule st line rfl h

/-! ## Lines -/

/-- What a line that is not part of a recipe comes to: the number of the line that it begins with,
whether that is indented by spaces, and the text up to here. -/
inductive Phase.Gives (phase : Phase) (line : Nat) (raw : Text) : Nat → Bool → Text → Prop
  | itself (h : phase = .fresh) (htab : raw.head? ≠ some '\t')
      (hbody : isIgnored (Text.trim raw) = false) :
      Gives phase line raw line (raw.head? = some ' ') raw
  | joined {first : Nat} {indented : Bool} {text : Text}
      (h : phase = .continued first indented text) :
      Gives phase line raw first indented (joined text raw)

/-- What a line does. -/
inductive Reads (line : Nat) (raw : Text) (st : State) : State × List Item → Prop
  | skipped (h : st.phase = .definition) (hend : Text.startsWith (Text.trim raw) "endef" = false) :
      Reads line raw st ({ st with phase := .definition }, [])
  | endsDefinition (h : st.phase = .definition)
      (hend : Text.startsWith (Text.trim raw) "endef" = true) :
      Reads line raw st ({ st with phase := .fresh }, [])
  | recipe (h : st.phase = .recipe ∨
      st.phase = .fresh ∧ raw.head? = some '\t' ∧ st.inRule = true) :
      Reads line raw st
        ({ st with phase := if isContinued raw then .recipe else .fresh }, [.recipe line raw])
  | ignored (h : st.phase = .fresh) (hbody : isIgnored (Text.trim raw) = true) :
      Reads line raw st (st, [])
  | strayRecipe (h : st.phase = .fresh) (htab : raw.head? = some '\t') (hrule : st.inRule = false)
      (hbody : isIgnored (Text.trim raw) = false) :
      Reads line raw st (st, [.fault line .strayRecipe])
  | spacesForTab (h : st.phase = .fresh) (hspace : raw.head? = some ' ') (hrule : st.inRule = true)
      (hbody : isIgnored (Text.trim raw) = false) :
      Reads line raw st (st, [.fault line .spacesForTab])
  | continued {first : Nat} {indented : Bool} {text : Text}
      (hgives : st.phase.Gives line raw first indented text) (h : isContinued text = true) :
      Reads line raw st ({ st with phase := .continued first indented text }, [])
  | completed {first : Nat} {indented : Bool} {text : Text} {r : State × List Item}
      (hgives : st.phase.Gives line raw first indented text) (h : isContinued text = false)
      (hr : Completes st first indented text r) : Reads line raw st r

namespace Reads

variable {line : Nat} {raw : Text} {st : State}

theorem ofLine {first : Nat} {indented : Bool} {text : Text}
    (hgives : st.phase.Gives line raw first indented text) :
    Reads line raw st (st.line first indented text) := by
  unfold State.line
  split
  · rename_i h
    exact .continued hgives h
  · rename_i h
    exact .completed hgives (eq_false_of_ne_true h) (completes_complete st first indented text)

theorem ofFresh (h : st.phase = .fresh) : Reads line raw st (st.fresh line raw) := by
  unfold State.fresh
  dsimp only
  split
  · rename_i htab
    split
    · rename_i hrule
      exact .recipe (.inr ⟨h, htab, hrule⟩)
    · rename_i hrule
      split
      · rename_i hbody
        exact .ignored h hbody
      · rename_i hbody
        exact .strayRecipe h htab (eq_false_of_ne_true hrule) (eq_false_of_ne_true hbody)
  · rename_i htab
    split
    · rename_i hbody
      exact .ignored h hbody
    · rename_i hbody
      split
      · rename_i hspaces
        simp only [Bool.and_eq_true, decide_eq_true_eq] at hspaces
        exact .spacesForTab h hspaces.1.1.2 hspaces.1.1.1 (eq_false_of_ne_true hbody)
      · exact ofLine (.itself h htab (eq_false_of_ne_true hbody))

end Reads

/-- **What one line does.** -/
theorem reads_step (line : Nat) (raw : Text) (st : State) :
    Reads line raw st (step line raw st) := by
  unfold step
  split
  · rename_i h
    split
    · rename_i hend
      exact .endsDefinition h hend
    · rename_i hend
      exact .skipped h (eq_false_of_ne_true hend)
  · rename_i h
    exact .recipe (.inl h)
  · rename_i h
    exact .ofLine (.joined h)
  · rename_i h
    exact .ofFresh h

end OpsLint.Makefile

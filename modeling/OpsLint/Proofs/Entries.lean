import OpsLint.Crontab.Basic
import OpsLint.Env.Basic
import OpsLint.Proofs.Reading

/-!
# Files of independent lines

In crontabs and environment files no line depends on another. Their items are what the numbered
lines are by themselves (`Crontab.items_eq`, `Env.items_eq`), and what a line is can be said by
cases: the conditions are checked in a fixed order, and the first that fails is the problem.

If what a line is has the number of the line, then items are in the order of the lines
(`pairwise_of_read`), and a line that is something has exactly one item (`countP_of_read`).
-/

namespace OpsLint

/-! ## Numbered lines -/

section

variable {Item : Type} (read : Nat → Text → Option Item) {ofItem : Item → List Nat}
variable (hread : ∀ line raw item, read line raw = some item → ofItem item = [line])

include hread

/-- Items have the numbers of the lines they are read from. -/
theorem exists_of_mem_read {start : Nat} {lines : List Text} {item : Item}
    (h : item ∈ (lines.zipIdx start).filterMap (fun t => read t.2 t.1)) :
    ∃ n raw, lines[n]? = some raw ∧ ofItem item = [start + n] ∧
      read (start + n) raw = some item := by
  obtain ⟨⟨raw, line⟩, ht, hitem⟩ := List.mem_filterMap.1 h
  obtain ⟨hle, hraw⟩ := List.mk_mem_zipIdx_iff_le_and_getElem?_sub.1 ht
  obtain ⟨n, rfl⟩ := Nat.exists_eq_add_of_le hle
  rw [Nat.add_sub_cancel_left] at hraw
  exact ⟨n, raw, hraw, hread _ _ _ hitem, hitem⟩

/-- **Items are in the order of the lines.** -/
theorem pairwise_of_read (start : Nat) (lines : List Text) :
    ((lines.zipIdx start).filterMap (fun t => read t.2 t.1)).Pairwise (Before ofItem) := by
  induction lines generalizing start with
  | nil => exact .nil
  | cons l lines ih =>
    rw [List.zipIdx_cons, List.filterMap_cons]
    cases hl : read start l with
    | none => exact ih (start + 1)
    | some item =>
      refine List.pairwise_cons.2 ⟨fun later hlater m hm n hn => ?_, ih (start + 1)⟩
      obtain ⟨k, -, -, hk, -⟩ := exists_of_mem_read read hread hlater
      rw [hread _ _ _ hl, List.mem_singleton] at hm
      rw [hk, List.mem_singleton] at hn
      omega

/-- **A line has one item if it is something, and none otherwise.** -/
theorem countP_of_read (start : Nat) {n : Nat} {lines : List Text} {raw : Text}
    (h : lines[n]? = some raw) :
    ((lines.zipIdx start).filterMap (fun t => read t.2 t.1)).countP
        (fun item => ofItem item = [start + n])
      = (read (start + n) raw).toList.length := by
  induction lines generalizing start n with
  | nil => exact nomatch h
  | cons l lines ih =>
    rw [List.zipIdx_cons, List.filterMap_cons]
    cases n with
    | zero =>
      obtain rfl : l = raw := Option.some.inj h
      -- the items of all other lines have greater numbers
      have hlater : ((lines.zipIdx (start + 1)).filterMap (fun t => read t.2 t.1)).countP
          (fun item => ofItem item = [start + 0]) = 0 := by
        rw [List.countP_eq_zero]
        intro item hitem
        obtain ⟨k, -, -, hk, -⟩ := exists_of_mem_read read hread hitem
        rw [hk, decide_eq_true_eq, List.singleton_inj]
        omega
      cases hl : read start l with
      | none => simpa [hl] using hlater
      | some item => simpa [hl, hread _ _ _ hl] using hlater
    | succ n =>
      have hrest := ih (start + 1) h
      rw [Nat.add_right_comm, Nat.add_assoc] at hrest
      cases hl : read start l with
      | none => exact hrest
      | some item => simpa [hread _ _ _ hl] using hrest

end

namespace Crontab

/-- The items of a crontab are what its numbered lines are. -/
theorem items_eq (lines : List Text) :
    items lines = (lines.zipIdx 1).filterMap (fun t => readLine t.2 t.1) :=
  Reading.items_ofLines_stateless readLine lines

/-- An entry is a schedule with a command after it. -/
theorem readEntry_eq (line : Nat) (body : Text) :
    readEntry line body
      = (readSchedule body).bind fun found =>
          if (splitUser (Text.trim found.2.2)).2.isEmpty then .error .noCommand
          else .ok {
            schedule := found.1
            nickname := found.2.1
            line
            user := (splitUser (Text.trim found.2.2)).1
            command := (splitUser (Text.trim found.2.2)).2 } := by
  unfold readEntry
  cases readSchedule body with
  | error problem => rfl
  | ok found =>
    dsimp only [bind, Except.bind]
    by_cases h : (splitUser (Text.trim found.2.2)).2.isEmpty = true
    · rw [if_pos h, if_pos h]
      rfl
    · rw [if_neg h, if_neg h]
      rfl

end Crontab

namespace Env

/-- The items of an environment file are what its numbered lines are. -/
theorem items_eq (lines : List Text) :
    items lines = (lines.zipIdx 1).filterMap (fun t => readLine t.2 t.1) :=
  Reading.items_ofLines_stateless readLine lines

/-- An assignment has an equals sign, a key that is one, and a value without a problem. -/
theorem readAssignment_eq (line : Nat) (raw : Text) :
    readAssignment line raw
      = match Text.cut? '=' (assignmentPart raw) with
        | none =>
          .error ⟨line, raw.length - (assignmentPart raw).length + 1, .noEquals (Text.trim raw)⟩
        | some (rawKey, rawValue) =>
          if (Text.trim rawKey).isEmpty then
            .error ⟨line, raw.length - (assignmentPart raw).length + 1, .noKey⟩
          else if !Text.isKey (Text.trim rawKey) then
            .error ⟨line, raw.length - (assignmentPart raw).length + 1, .badKey (Text.trim rawKey)⟩
          else match valueProblem? (Text.trim rawKey) rawValue with
            | some problem => .error ⟨line, 0, problem⟩
            | none => .ok {
                key := Text.trim rawKey
                rawValue, line, rawKey
                quoted := beginsQuoted (Text.trim rawValue)
                equalsColumn := raw.length - (assignmentPart raw).length + rawKey.length + 1 } := by
  unfold readAssignment
  dsimp only
  cases Text.cut? '=' (assignmentPart raw) with
  | none => rfl
  | some parts =>
    obtain ⟨rawKey, rawValue⟩ := parts
    dsimp only
    split
    · rfl
    · split
      · rfl
      · cases valueProblem? (Text.trim rawKey) rawValue with
        | none => rfl
        | some problem => rfl

end Env

end OpsLint

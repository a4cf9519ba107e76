import OpsLint.Proofs.LineNumbers
import OpsLint.Proofs.Words

/-!
# One line of a systemd unit

All that reading one line of a unit can do, said once (`reads_step`): a line is passed over, is a
header, is a header gone wrong, or goes on with a directive, which is then still to be continued or
complete. What a header and a directive look like is said without the reader (`IsHeader`,
`readDirective_eq_directive_iff`).

Whether a directive is to be continued is seen at the last line read, for joining puts a space in
front of what is added (`endsWith_of_continued`). So a line that is blank always ends the directive
before it, and where no line ends in a backslash nothing is ever open.
-/

namespace OpsLint.Systemd

/-! ## Headers and directives -/

/-- A trimmed line that is a well-formed header: a name in brackets, without brackets in it. -/
def IsHeader (body : Text) : Prop :=
  ∃ name, body = '[' :: name ++ [']'] ∧ name ≠ [] ∧ '[' ∉ name ∧ ']' ∉ name

/-- **What a header is named.** -/
theorem headerName?_eq_some_iff (body name : Text) :
    headerName? body = some name ↔
      ∃ inner, body = '[' :: inner ++ [']'] ∧ inner ≠ [] ∧ '[' ∉ inner ∧ ']' ∉ inner ∧
        name = Text.trim inner := by
  constructor
  · intro h
    unfold headerName? at h
    split at h
    · rename_i rest
      dsimp only at h
      split at h
      · rename_i hrest
        simp only [Bool.and_eq_true, decide_eq_true_eq, Bool.not_eq_true',
          List.isEmpty_eq_false_iff, List.contains_eq_mem, decide_eq_false_iff_not] at hrest
        obtain ⟨⟨⟨hlast, hne⟩, hopen⟩, hclose⟩ := hrest
        refine ⟨rest.dropLast, ?_, hne, hopen, hclose, (Option.some.inj h).symm⟩
        rw [List.cons_append, List.dropLast_append_getLast? _ hlast]
      · exact nomatch h
    · exact nomatch h
  · rintro ⟨inner, rfl, hne, hopen, hclose, rfl⟩
    simp [headerName?, hne, hopen, hclose]

theorem isHeader_iff (body : Text) : IsHeader body ↔ ∃ name, headerName? body = some name := by
  constructor
  · rintro ⟨inner, hbody, hne, hopen, hclose⟩
    exact ⟨_, (headerName?_eq_some_iff body _).2 ⟨inner, hbody, hne, hopen, hclose, rfl⟩⟩
  · rintro ⟨name, hname⟩
    obtain ⟨inner, hbody, hne, hopen, hclose, -⟩ := (headerName?_eq_some_iff body name).1 hname
    exact ⟨inner, hbody, hne, hopen, hclose⟩

theorem head?_of_headerName? {body name : Text} (h : headerName? body = some name) :
    body.head? = some '[' := by
  obtain ⟨inner, rfl, -⟩ := (headerName?_eq_some_iff body name).1 h
  rfl

/-- What begins like a header is not passed over. -/
theorem isIgnored_of_head? {body : Text} (h : body.head? = some '[') : isIgnored body = false := by
  cases body with
  | nil => exact nomatch h
  | cons c rest =>
    obtain rfl : c = '[' := Option.some.inj h
    rfl

/-- **What a directive consists of**: a key and a value around the first equals sign, and it has to
have a section. -/
theorem readDirective_eq_directive_iff (inSection : Bool) (line : Nat) (text : Text)
    (d : Directive) :
    readDirective inSection line text = .directive d ↔
      inSection = true ∧ ∃ key value, text = key ++ '=' :: value ∧ '=' ∉ key ∧
        Text.trim key ≠ [] ∧ d = { key := Text.trim key, value := Text.trim value, line } := by
  cases inSection with
  | false => exact ⟨nofun, fun h => nomatch h.1⟩
  | true =>
    unfold readDirective
    rw [Bool.not_true, if_neg Bool.false_ne_true]
    constructor
    · intro h
      split at h
      · exact nomatch h
      · rename_i key value hcut
        split at h
        · exact nomatch h
        · rename_i hkey
          obtain ⟨htext, hfree⟩ := (Text.cut?_eq_some_iff '=' text key value).1 hcut
          exact ⟨rfl, key, value, htext, hfree, fun hnil => hkey (by rw [hnil]; rfl),
            (Item.directive.inj h).symm⟩
    · rintro ⟨-, key, value, htext, hfree, hkey, rfl⟩
      rw [(Text.cut?_eq_some_iff '=' text key value).2 ⟨htext, hfree⟩]
      exact if_neg fun hempty => hkey (List.isEmpty_iff.1 hempty)

/-! ## Lines -/

/-- A directive that is continued, and the line that continues it. -/
def joined (text raw : Text) : Text := Text.trimRight text.dropLast ++ " " ++ Text.trim raw

/-- What a line that is part of a directive comes to: the number of the line that the directive
begins on, and its text up to here. -/
inductive State.Gives (st : State) (line : Nat) (raw : Text) : Nat → Text → Prop
  | itself (h : st.continued = none) (hbody : isIgnored (Text.trim raw) = false)
      (hhead : (Text.trim raw).head? ≠ some '[') : Gives st line raw line (Text.trim raw)
  | joined {first : Nat} {text : Text} (h : st.continued = some (first, text)) :
      Gives st line raw first (joined text raw)

/-- What a line does. -/
inductive Reads (line : Nat) (raw : Text) (st : State) : State × List Item → Prop
  | ignored (h : st.continued = none) (hbody : isIgnored (Text.trim raw) = true) :
      Reads line raw st (st, [])
  | header {name : Text} (h : st.continued = none)
      (hname : headerName? (Text.trim raw) = some name) :
      Reads line raw st ({ inSection := true }, [.header line name])
  | badHeader (h : st.continued = none) (hhead : (Text.trim raw).head? = some '[')
      (hname : headerName? (Text.trim raw) = none) :
      Reads line raw st ({ inSection := false }, [.fault line (.badHeader (Text.trim raw))])
  | continued {first : Nat} {text : Text} (hgives : st.Gives line raw first text)
      (h : Text.endsWith text '\\' = true) :
      Reads line raw st ({ st with continued := some (first, text) }, [])
  | completed {first : Nat} {text : Text} (hgives : st.Gives line raw first text)
      (h : Text.endsWith text '\\' = false) :
      Reads line raw st
        ({ st with continued := none }, [readDirective st.inSection first text])

theorem Reads.ofDirective {line : Nat} {raw : Text} {st : State} {first : Nat} {text : Text}
    (hgives : st.Gives line raw first text) : Reads line raw st (st.directive first text) := by
  unfold State.directive
  split
  · rename_i h
    exact .continued hgives h
  · rename_i h
    exact .completed hgives (eq_false_of_ne_true h)

/-- **What one line does.** -/
theorem reads_step (line : Nat) (raw : Text) (st : State) :
    Reads line raw st (step line raw st) := by
  obtain ⟨inSection, continued⟩ := st
  unfold step
  dsimp only
  split
  · exact .ofDirective (.joined rfl)
  · split
    · rename_i hbody
      exact .ignored rfl hbody
    · rename_i hbody
      split
      · rename_i hhead
        split
        · rename_i hname
          exact .header rfl hname
        · rename_i hname
          exact .badHeader rfl hhead hname
      · rename_i hhead
        exact .ofDirective (.itself rfl (eq_false_of_ne_true hbody) hhead)

/-- A header that begins something new opens a section, whatever was before it. -/
theorem step_of_header {raw name : Text} (hname : headerName? (Text.trim raw) = some name)
    {st : State} (hst : st.continued = none) (line : Nat) :
    step line raw st = ({ inSection := true }, [.header line name]) := by
  have hhead := head?_of_headerName? hname
  unfold step
  dsimp only
  rw [hst, isIgnored_of_head? hhead, if_neg Bool.false_ne_true, if_pos hhead, hname]

/-! ## What is to be continued -/

/-- A joined text ends as the line that was added does, and a blank line takes the backslash
away. -/
theorem endsWith_joined (text raw : Text) :
    Text.endsWith (joined text raw) '\\' = Text.endsWith (Text.trim raw) '\\' := by
  unfold joined
  by_cases hblank : Text.trim raw = []
  · rw [hblank, List.append_nil]
    exact Text.endsWith_append (List.cons_ne_nil ' ' []) _ _
  · exact Text.endsWith_append hblank _ _

theorem State.Gives.endsWith {st : State} {line first : Nat} {raw text : Text}
    (h : st.Gives line raw first text) :
    Text.endsWith text '\\' = Text.endsWith (Text.trim raw) '\\' := by
  cases h with
  | itself => rfl
  | joined => exact endsWith_joined _ raw

/-- **A directive is to be continued only after a line that ends in a backslash.** -/
theorem endsWith_of_continued {line : Nat} {raw : Text} {st : State} {open' : Nat × Text}
    (h : (step line raw st).1.continued = some open') :
    Text.endsWith (Text.trim raw) '\\' = true := by
  have hreads := reads_step line raw st
  generalize step line raw st = r at hreads h
  cases hreads with
  | ignored hnone => rw [hnone] at h; exact nomatch h
  | header => exact nomatch h
  | badHeader => exact nomatch h
  | continued hgives hends => rw [← hgives.endsWith, hends]
  | completed => exact nomatch h

/-- After a line that does not end in a backslash nothing is open. -/
theorem continued_eq_none {lines : List Text}
    (h : ∀ l, lines.getLast? = some l → Text.endsWith (Text.trim l) '\\' = false) :
    (Reading.ofLines step {} lines).state.continued = none := by
  rcases List.eq_nil_or_concat' lines with rfl | ⟨front, last, rfl⟩
  · rfl
  · rw [Reading.state_ofLines_concat]
    refine Option.eq_none_iff_forall_ne_some.2 fun open' hopen => ?_
    have hends := endsWith_of_continued hopen
    rw [h last (by simp)] at hends
    exact Bool.false_ne_true hends

theorem finish_eq_nil {st : State} (h : st.continued = none) : st.finish = [] := by
  unfold State.finish
  rw [h]

/-! ## Items in the order of the lines -/

/-- **A line completes one thing at a time**, and leaves nothing open then. -/
theorem step_completes_one (line : Nat) (raw : Text) (st : State) :
    (step line raw st).2 = [] ∨
      ∃ item, (step line raw st).2 = [item] ∧ (step line raw st).1.lineNumbers = [] := by
  have hreads := reads_step line raw st
  generalize step line raw st = r at hreads
  cases hreads with
  | ignored => exact .inl rfl
  | header => exact .inr ⟨_, rfl, rfl⟩
  | badHeader => exact .inr ⟨_, rfl, rfl⟩
  | continued => exact .inl rfl
  | completed => exact .inr ⟨_, rfl, rfl⟩

theorem pairwise_finish (st : State) : st.finish.Pairwise (Before Item.lineNumbers) := by
  unfold State.finish
  split
  · exact List.pairwise_singleton _ _
  · exact .nil

/-- **The items of a unit come in the order of the lines.** -/
theorem pairwise_items (lines : List Text) : (items lines).Pairwise (Before Item.lineNumbers) := by
  obtain ⟨hread, hopen⟩ := Reading.pairwise_ofLines (rfl : State.lineNumbers {} = [])
    drawnFrom_step step_completes_one lines
  refine List.pairwise_append.2 ⟨hread, pairwise_finish _, fun a ha b hb m hm n hn => ?_⟩
  exact hopen a ha m hm n (lineNumbers_of_mem_finish hb ▸ hn)

end OpsLint.Systemd

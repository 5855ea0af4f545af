import ParseKit.Outcome.Details
import ParseKit.Proofs.Run.Except
import ParseKit.Proofs.Value.Inspect

namespace ParseKit.Details

-- The values of which the text of what was found or expected is made.
def shown (s : Store) (v : Value) : List Value :=
  if v = .null ∨ s.isText v then [] else (collection? s v).getD [v]

def shownFound (s : Store) (e : Failure) : List Value :=
  if field e "found" = .null then
    if field e "token" = .null then shown s (field e "char") else [field e "token"]
  else shown s (field e "found")

def HasText (s : Store) (v : Value) : Prop := ∃ t, s.display v = .ok t

-- Everything that the details of an error show has a text, and so has the error itself unless it
-- comes with a message.
structure Legible (s : Store) (e : Failure) : Prop where
  found : ∀ v ∈ shownFound s e, HasText s v
  expected : ∀ v ∈ shown s (firstOf (field e "expected") (field e "allowed")), HasText s v
  message : s.isText (field e "message") = true ∨ ∃ t, s.failureText e = .ok t

theorem not_hasText_of_position {s : Store} {v : Value} {p : NodeParts}
    (hnode : s.get? v = some (.node p)) (hposition : s.part? p.position "line" = none) :
    ¬HasText s v := by
  rintro ⟨t, ht⟩
  rw [Store.display, Store.textAt_object hnode] at ht
  obtain ⟨type, -, ht⟩ := bind_eq_ok_iff.mp ht
  obtain ⟨count, -, ht⟩ := bind_eq_ok_iff.mp ht
  obtain ⟨line, hline, -⟩ := bind_eq_ok_iff.mp ht
  simp [Store.requirePart, hposition] at hline

theorem exists_bind_pure {α β : Type} {x : Except Failure α} (f : α → β) :
    (∃ b, (do return f (← x)) = Except.ok b) ↔ ∃ a, x = .ok a := by
  cases x with
  | ok a => simp [bind, Except.bind, pure, Except.pure]
  | error e => simp [bind, Except.bind]

theorem mapM_display_ok_iff {s : Store} {items : List Value} :
    (∃ texts, items.mapM s.display = .ok texts) ↔ ∀ v ∈ items, HasText s v :=
  ⟨fun ⟨_, h⟩ => exists_ok_of_mapM h, exists_mapM_eq_ok⟩

theorem textOf_ok_iff {s : Store} {v : Value} :
    (∃ t, textOf s v = .ok t) ↔ ∀ u ∈ shown s v, HasText s u := by
  unfold textOf shown
  by_cases hnull : v = .null
  · simp [hnull]
  by_cases htext : s.isText v = true
  · simp [hnull, htext]
  rw [if_neg hnull, if_neg htext, if_neg (by simp [hnull, htext])]
  cases collection? s v with
  | none =>
      rw [Option.getD_none, List.forall_mem_singleton]
      exact exists_bind_pure _
  | some items =>
      rw [Option.getD_some, ← mapM_display_ok_iff]
      exact exists_bind_pure _

theorem found_ok_iff {s : Store} {e : Failure} :
    (∃ v, foundOf s e = .ok v ∧ ∃ t, textOf s v = .ok t) ↔ ∀ u ∈ shownFound s e, HasText s u := by
  by_cases hsaid : field e "found" = .null
  · by_cases htoken : field e "token" = .null
    · simp [foundOf, shownFound, hsaid, htoken, textOf_ok_iff]
    · simp only [foundOf, shownFound, if_pos hsaid, if_neg htoken, List.mem_singleton, forall_eq]
      constructor
      · rintro ⟨v, hv, -⟩
        obtain ⟨t, ht, -⟩ := bind_eq_ok_iff.mp hv
        exact ⟨t, ht⟩
      · rintro ⟨t, ht⟩
        exact ⟨.text t, by simp [ht, bind, Except.bind, pure, Except.pure], .text t, rfl⟩
  · simp [foundOf, shownFound, hsaid, textOf_ok_iff]

theorem messageOf_ok_iff {s : Store} {e : Failure} (expected : String) :
    (∃ v, messageOf s e expected = .ok v) ↔
      s.isText (field e "message") = true ∨ ∃ t, s.failureText e = .ok t := by
  unfold messageOf
  by_cases hown : s.isText (field e "message") = true
  · simp [hown]
  · simp only [hown, Bool.false_eq_true, if_false, false_or]
    exact exists_bind_pure _

theorem ofFailure_ok_iff {s : Store} {e : Failure} :
    (∃ d, ofFailure s e = .ok d) ↔ Legible s e := by
  unfold ofFailure
  simp only [bind_eq_ok_iff]
  constructor
  · rintro ⟨-, found, hfound, expected, hexpected, message, hmessage, text, htext, -⟩
    exact ⟨found_ok_iff.mp ⟨found, hfound, text, htext⟩, textOf_ok_iff.mp ⟨expected, hexpected⟩,
      (messageOf_ok_iff _).mp ⟨message, hmessage⟩⟩
  · rintro ⟨hfound, hexpected, hmessage⟩
    obtain ⟨found, hfound, text, htext⟩ := found_ok_iff.mpr hfound
    obtain ⟨expected, hexpected⟩ := textOf_ok_iff.mpr hexpected
    obtain ⟨message, hmessage⟩ := (messageOf_ok_iff ((s.text? expected).getD "")).mpr hmessage
    exact ⟨_, found, hfound, expected, hexpected, message, hmessage, text, htext, rfl⟩

theorem isText_messageOf {s : Store} {e : Failure} {expected : String} {v : Value}
    (h : messageOf s e expected = .ok v) : s.isText v = true := by
  unfold messageOf at h
  by_cases hown : s.isText (field e "message") = true
  · rw [if_pos hown] at h
    cases h
    exact hown
  · rw [if_neg hown] at h
    obtain ⟨t, -, ht⟩ := bind_eq_ok_iff.mp h
    cases ht
    rfl

theorem isText_message {s : Store} {e : Failure} {d : Details} (h : ofFailure s e = .ok d) :
    s.isText d.message = true := by
  obtain ⟨found, -, h⟩ := bind_eq_ok_iff.mp h
  obtain ⟨expected, -, h⟩ := bind_eq_ok_iff.mp h
  obtain ⟨message, hmessage, h⟩ := bind_eq_ok_iff.mp h
  obtain ⟨text, -, h⟩ := bind_eq_ok_iff.mp h
  cases h
  exact isText_messageOf hmessage

theorem textOf_onlyTooDeep {s : Store} (h : s.WholeNodes) (v : Value) :
    Store.OnlyTooDeep (textOf s v) := by
  refine (Store.OnlyTooDeep.ok _).ite ((Store.OnlyTooDeep.ok v).ite ?_)
  split
  · exact (Store.OnlyTooDeep.mapM (Store.display_onlyTooDeep h) _).bind fun _ => .ok _
  · exact (Store.display_onlyTooDeep h v).bind fun _ => .ok _

theorem foundOf_onlyTooDeep {s : Store} (h : s.WholeNodes) (e : Failure) :
    Store.OnlyTooDeep (foundOf s e) :=
  ((Store.OnlyTooDeep.ok _).ite ((Store.display_onlyTooDeep h _).bind fun _ => .ok _)).ite (.ok _)

theorem messageOf_onlyTooDeep {s : Store} (h : s.WholeNodes) (e : Failure) (expected : String) :
    Store.OnlyTooDeep (messageOf s e expected) :=
  (Store.OnlyTooDeep.ok _).ite ((Store.failureText_onlyTooDeep h e).bind fun _ => .ok _)

-- With whole nodes, what cannot be read is nested too deep.
theorem ofFailure_onlyTooDeep {s : Store} (h : s.WholeNodes) (e : Failure) :
    Store.OnlyTooDeep (ofFailure s e) :=
  (foundOf_onlyTooDeep h e).bind fun _ => (textOf_onlyTooDeep h _).bind fun _ =>
    (messageOf_onlyTooDeep h e _).bind fun _ => (textOf_onlyTooDeep h _).bind fun _ => .ok _

end ParseKit.Details

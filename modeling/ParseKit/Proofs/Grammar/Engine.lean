import ParseKit.Grammar.Engine
import ParseKit.Proofs.Actions.Shown
import ParseKit.Proofs.SyntaxTree.Objects

namespace ParseKit

variable {σ : Type}

open Run (Gives)

namespace Rejection

open Details (field firstOf shown shownFound)

-- What is found is a text, and what is expected is a list of texts.
structure Shows (s : Store) (e : Failure) : Prop where
  errorClass : e.errorClass = .unexpectedInput
  message : ∃ m, e.args = [.text m]
  found : field e "found" = .null
  text : ∃ t, field e "token" = .text t ∨ field e "token" = .null ∧ field e "char" = .text t
  expected : ∃ names : List String,
    s.get? (firstOf (field e "expected") (field e "allowed")) = some (.list (names.map .text))

theorem Shows.reportable {s : Store} {e : Failure} (h : Shows s e) : e.Reportable s := by
  obtain ⟨m, hargs⟩ := h.message
  obtain ⟨t, ht⟩ := h.text
  obtain ⟨names, hnames⟩ := h.expected
  have htext : ∃ u, s.failureText e = .ok u := by
    have hkey : e.isA .keyError = false := by rw [Failure.isA, h.errorClass]; rfl
    exact ⟨m, by simp [Store.failureText, hkey, hargs, Store.display_text]⟩
  refine ⟨by rw [Failure.isA, h.errorClass]; rfl, ?_, ⟨?_, ?_, .inr htext⟩, htext⟩
  · simp only [Failure.isA, h.errorClass]
    decide
  · intro v hv
    rcases ht with htoken | ⟨htoken, hchar⟩
    · rw [shownFound, if_pos h.found, if_neg (by simp [htoken]), List.mem_singleton] at hv
      exact ⟨t, by rw [hv, htoken, Store.display_text]⟩
    · rw [shownFound, if_pos h.found, if_pos htoken, hchar] at hv
      cases hv
  · intro v hv
    generalize firstOf (field e "expected") (field e "allowed") = listed at hv hnames
    have hnot : ¬(listed = .null ∨ s.isText listed = true) := by
      rintro (rfl | hlisted)
      · cases hnames
      · rw [Store.isText, Store.text?_of_get? hnames rfl] at hlisted
        cases hlisted
    rw [shown, if_neg hnot, Details.collection?, hnames, Option.getD_some] at hv
    obtain ⟨name, -, rfl⟩ := List.mem_map.mp hv
    exact ⟨name, Store.display_text s name⟩

-- A rejection is reported by an error of which everything can be shown.
theorem failure_gives (r : Rejection) (s : Store) : ∃ e s',
    Gives (r.failure : Run σ Failure) s e s' ∧ s.Extends s' ∧ e.Reportable s' := by
  have hlisted := fun names : List String => Store.get?_alloc_here s (.list (names.map .text))
  cases r with
  | token type text p names =>
      refine ⟨_, _, (Gives.bind (.alloc (.list (names.map .text)) s) (.pure _ _)).bind (.pure _ _),
        .alloc s _, Shows.reportable ⟨rfl, ⟨_, rfl⟩, rfl, ⟨text, .inl rfl⟩, names, hlisted names⟩⟩
  | character c p names =>
      exact ⟨_, _, (Gives.bind (.alloc (.list (names.map .text)) s) (.pure _ _)).bind (.pure _ _),
        .alloc s _, Shows.reportable ⟨rfl, ⟨_, rfl⟩, rfl, ⟨_, .inr ⟨rfl, rfl⟩⟩, names, hlisted names⟩⟩
  | ending names =>
      exact ⟨_, _, (Gives.bind (.alloc (.list (names.map .text)) s) (.pure _ _)).bind (.pure _ _),
        .alloc s _, Shows.reportable ⟨rfl, ⟨_, rfl⟩, rfl, ⟨"", .inl rfl⟩, names, hlisted names⟩⟩

end Rejection

namespace Engine

-- What an engine with such starts can be asked to start from.
inductive Startable (starts : List String) : Value → Prop where
  | only {name : String} (one : starts = [name]) : Startable starts .null
  | listed {name : String} (member : name ∈ starts) : Startable starts (.text name)

theorem chooseStart_gives {starts : List String} {start : Value} (h : Startable starts start)
    (s : Store) : ∃ name, Run.Gives (chooseStart starts start : Run σ String) s name s := by
  cases h with
  | only one =>
      subst one
      exact ⟨_, .pure _ s⟩
  | @listed name member =>
      have hsome : (starts.find? fun other => s.text? (.text name) == some other).isSome = true :=
        List.find?_isSome.mpr ⟨name, member, by simp [Store.text?]⟩
      obtain ⟨found, hfound⟩ := Option.isSome_iff_exists.mp hsome
      refine ⟨found, Gives.bind (.store s) ?_⟩
      rw [hfound]
      exact .pure _ s

theorem ok_of_chooseStart {starts : List String} {start : Value} {name : String} {w w' : World σ}
    (h : chooseStart starts start w = .ok name w') : w' = w := by
  unfold chooseStart at h
  split at h
  · cases h
    rfl
  · cases h
  · obtain ⟨_, _, -, h⟩ := Run.ok_of_bind h
    cases h
  · obtain ⟨_, _, hstore, h⟩ := Run.ok_of_bind h
    cases hstore
    generalize starts.find? _ = found at h
    cases found with
    | some start =>
        cases h
        rfl
    | none =>
        obtain ⟨_, _, -, h⟩ := Run.ok_of_bind h
        obtain ⟨_, _, -, h⟩ := Run.ok_of_bind h
        obtain ⟨_, _, -, h⟩ := Run.ok_of_bind h
        cases h

variable {starts : List String} {placed : Bool}
  {parse : String → String → Except Rejection SyntaxTree}

theorem ofParse_givesTrees : (ofParse starts placed parse : Engine σ).GivesTrees := by
  intro text start w v w' h
  obtain ⟨name, w₁, hname, h⟩ := Run.ok_of_bind h
  rw [ok_of_chooseStart hname] at h
  obtain ⟨_, _, hstore, h⟩ := Run.ok_of_bind h
  cases hstore
  dsimp only at h
  generalize parse name _ = parsed at h
  cases parsed with
  | ok t =>
      obtain ⟨u, s', hrun, hbuilt⟩ := SyntaxTree.alloc_built (σ := σ) t.named_trivial w.store
      dsimp only at h
      rw [hrun w rfl] at h
      cases h
      exact hbuilt
  | error r =>
      obtain ⟨_, _, -, h⟩ := Run.ok_of_bind h
      cases h

theorem ofGrammar_givesTrees {options : EngineOptions} {source : String} {engine : Engine σ}
    (h : ofGrammar options source = .ok engine) : engine.GivesTrees := by
  unfold ofGrammar at h
  cases hg : Grammar.ofText options.starts options.placeholders source with
  | error fault =>
      rw [hg] at h
      cases h
  | ok g =>
      rw [hg] at h
      cases halgorithm : options.algorithm with
      | earley =>
          rw [halgorithm] at h
          cases h
          exact ofParse_givesTrees
      | lalr =>
          rw [halgorithm] at h
          cases ha : g.automaton with
          | error fault =>
              simp only [ha, bind, Except.bind] at h
              cases h
          | ok a =>
              simp only [ha, bind, Except.bind] at h
              cases h
              exact ofParse_givesTrees

-- If the function gives trees, and these have names that are free, then the engine is an orderly
-- one.
theorem ofParse_orderly {host : Host σ} {start : Value} (hstart : Startable starts start)
    (hparse : ∀ name text t, parse name text = .ok t → t.Named (Actions.Named host) ∧
      ∃ label children own outer, t = .tree label children own outer) :
    (ofParse starts placed parse).Orderly host start := by
  intro text w
  obtain ⟨name, hname⟩ := chooseStart_gives (σ := σ) hstart w.store
  have htext : ((w.store.text? (.text text)).getD "") = text := rfl
  rw [ofParse, Run.bind_apply, hname w rfl]
  dsimp only
  rw [Run.bind_apply, Run.store_apply]
  dsimp only
  rw [htext]
  cases hparsed : parse name text with
  | error r =>
      obtain ⟨e, s', hfailure, -, he⟩ := r.failure_gives (σ := σ) w.store
      refine .inr ⟨e, { w with store := s' }, ?_, he⟩
      dsimp only
      rw [Run.bind_apply, hfailure w rfl]
      rfl
  | ok t =>
      obtain ⟨hnamed, label, children, own, outer, rfl⟩ := hparse name text t hparsed
      cases hnamed with
      | tree hlabel hchildren =>
          obtain ⟨v, s', data, values, place, htree, ⟨hext, outline, houtline⟩, hget⟩ :=
            SyntaxTree.alloc_tree (σ := σ) placed own outer hlabel
              (fun t ht => SyntaxTree.alloc_built (hchildren t ht)) w.store
          exact .inl ⟨v, data, values, place, outline, { w with store := s' }, htree w rfl, hext,
            hget, houtline⟩

end Engine

end ParseKit

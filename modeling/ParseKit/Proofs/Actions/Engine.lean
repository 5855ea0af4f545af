import ParseKit.Actions.Engine
import ParseKit.Proofs.Run.Basic
import ParseKit.Proofs.Store.Extends

namespace ParseKit

variable {σ : Type}

namespace Engine

theorem helpersOf_extends (s : Store) (entries : List (Value × Value)) (w : World σ) :
    ∃ util s', helpersOf s entries w = .ok util { w with store := s' } ∧ w.store.Extends s' := by
  unfold helpersOf
  split
  · exact ⟨_, w.store, rfl, .refl _⟩
  · exact ⟨_, _, rfl, (Store.Extends.alloc w.store _).trans (.alloc _ _)⟩

-- Helpers that the options hold are taken as they are.
theorem helpersOf_given {s : Store} {entries : List (Value × Value)}
    {util builder errorClass : Value} (hfound : Options.get s entries "util" = util)
    (hutil : s.get? util = some (.helpers builder errorClass)) (w : World σ) :
    helpersOf s entries w = .ok util w := by
  have htruthy : s.truthy util = true := by
    cases util with
    | ref id => simp [Store.truthy, hutil]
    | _ => cases hutil
  rw [helpersOf, hfound, if_pos htruthy]
  rfl

-- Once the engine has given a tree, the actions run over it.
theorem parser_run {engine : Engine σ} {a : Actions σ} {text options tree data util : Value}
    {children : List Value} {place : Place} {w w₁ : World σ} {s₂ : Store}
    (hengine : engine text
      (Options.get w.store ((w.store.entries? options).getD []) "start_rule") w = .ok tree w₁)
    (hutil : helpersOf w₁.store ((w.store.entries? options).getD []) w₁ =
      .ok util { w₁ with store := s₂ })
    (htree : s₂.get? tree = some (.tree data children place)) :
    (engine.parser (some a)).run text options w = unwrapped (a.transform util tree)
      { w₁ with
        store := s₂
        log := .running a.name ((s₂.inspect data).toOption.getD "") :: w₁.log } := by
  have hdata : s₂.requirePart tree "data" = .ok data := by
    simp [Store.requirePart, Store.part?, htree]
  have hrun : (runActions a ((w.store.entries? options).getD []) tree : Run σ Value) w₁ =
      unwrapped (a.transform util tree)
        { w₁ with
          store := s₂
          log := .running a.name ((s₂.inspect data).toOption.getD "") :: w₁.log } := by
    rw [runActions, Run.bind_apply, Run.store_apply]
    dsimp only
    rw [Run.bind_apply, hutil]
    dsimp only
    rw [Run.bind_apply, Run.inspect_ok hdata]
    rfl
  simp only [parser, Run.bind_apply, Run.store_apply, hengine, hrun]

-- Without the data of a tree there is nothing to run actions over.
theorem parser_run_headless {engine : Engine σ} {a : Actions σ} {text options v util : Value}
    {e : Failure} {w w₁ : World σ} {s₂ : Store}
    (hengine : engine text
      (Options.get w.store ((w.store.entries? options).getD []) "start_rule") w = .ok v w₁)
    (hutil : helpersOf w₁.store ((w.store.entries? options).getD []) w₁ =
      .ok util { w₁ with store := s₂ })
    (hv : s₂.requirePart v "data" = .error e) :
    (engine.parser (some a)).run text options w = .error (.raised e) { w₁ with store := s₂ } := by
  have hrun : (runActions a ((w.store.entries? options).getD []) v : Run σ Value) w₁ =
      .error (.raised e) { w₁ with store := s₂ } := by
    rw [runActions, Run.bind_apply, Run.store_apply]
    dsimp only
    rw [Run.bind_apply, hutil]
    dsimp only
    rw [Run.bind_apply, Run.inspect_apply, hv]
    rfl
  simp only [parser, Run.bind_apply, Run.store_apply, hengine, hrun]

-- Actions do not run without a tree.
theorem parser_error {engine : Engine σ} {a : Option (Actions σ)} {text options : Value}
    {fault : Fault} {w w₁ : World σ}
    (hengine : engine text
      (Options.get w.store ((w.store.entries? options).getD []) "start_rule") w =
        .error fault w₁) : (engine.parser a).run text options w = .error fault w₁ := by
  simp only [parser, Run.bind_apply, Run.store_apply, hengine]

theorem unwrapped_ok {x : Run σ Value} {v : Value} {w w' : World σ} (h : x w = .ok v w') :
    unwrapped x w = .ok v w' := by
  rw [unwrapped, Run.bind_apply, Run.attempt_apply, h]
  rfl

theorem ok_of_unwrapped {x : Run σ Value} {v : Value} {w w' : World σ}
    (h : unwrapped x w = .ok v w') : x w = .ok v w' := by
  rw [unwrapped, Run.bind_apply, Run.attempt_apply] at h
  cases hx : x w with
  | ok u w₁ =>
      rw [hx] at h
      exact h
  | error fault w₁ =>
      rw [hx] at h
      cases fault with
      | outOfFuel => cases h
      | raised e =>
          dsimp only at h
          split at h
          · cases h
          · cases h

-- A result of the parser is what the actions made of the tree of the engine.
theorem ok_of_parser_run {engine : Engine σ} {a : Actions σ} {text options v : Value}
    {w w₂ : World σ} (h : (engine.parser (some a)).run text options w = .ok v w₂) :
    ∃ tree w₁ util begun note,
      engine text (Options.get w.store ((w.store.entries? options).getD []) "start_rule") w =
        .ok tree w₁ ∧
      helpersOf w₁.store ((w.store.entries? options).getD []) w₁ = .ok util begun ∧
      a.transform util tree { begun with log := note :: begun.log } = .ok v w₂ := by
  obtain ⟨s, w₀, hstore, h⟩ := Run.ok_of_bind h
  cases hstore
  obtain ⟨tree, w₁, hengine, h⟩ := Run.ok_of_bind h
  obtain ⟨s', w₁', hstore, h⟩ := Run.ok_of_bind h
  cases hstore
  obtain ⟨util, begun, hutil, h⟩ := Run.ok_of_bind h
  obtain ⟨data, w₃, hdata, h⟩ := Run.ok_of_bind h
  have hsame : w₃ = begun := (Run.ok_of_inspect hdata).2
  obtain ⟨s', _, hstore, h⟩ := Run.ok_of_bind h
  cases hstore
  obtain ⟨_, _, hnote, h⟩ := Run.ok_of_bind h
  cases hnote
  rw [hsame] at h
  exact ⟨tree, w₁, util, _, _, hengine, hutil, ok_of_unwrapped h⟩

end Engine

end ParseKit

import ParseKit.Proofs.Actions.Accepted
import ParseKit.Proofs.Actions.Inherited

namespace ParseKit

variable {σ : Type}

open Run (Gives)

-- A grammar engine gives parse trees, and keeps what is there already.
def Engine.GivesTrees (engine : Engine σ) : Prop :=
  ∀ text start w v w', engine text start w = .ok v w' →
    w.store.Extends w'.store ∧ ∃ outline, w'.store.Outlined (fun _ => True) [v] outline

theorem Forest.eq_cons_of_roots {α : Type} {f : Forest α} {v : α} (h : f.roots = [v]) :
    ∃ below, f = .cons v below .nil := by
  cases f with
  | nil => cases h
  | cons root below beside =>
      cases beside with
      | nil =>
          cases h
          exact ⟨below, rfl⟩
      | cons => cases h

-- A node that becomes of a parse tree has a dump, whatever the names in the tree are.
theorem Actions.dump_of_transform (host : Host σ) {util builder errorClass tree v : Value}
    {outline : Forest Heading} {w w' : World σ}
    (hutil : w.store.get? util = some (.helpers builder errorClass))
    (hbuilder : w.store.get? builder = some (.builder .standard))
    (htree : w.store.Outlined (fun _ => True) [tree] outline)
    (hrun : transform (generic host) util tree w = .ok v w')
    (hnode : (w'.store.node? v).isSome = true) :
    ∃ body, Node.dump v w' = .ok (body ++ "]" ++ "\n") w' := by
  rcases transform_ends host hutil hbuilder htree with hfails | ⟨result, s', hgives, hresults⟩
  · obtain ⟨e, w'', herror⟩ := hfails w rfl
    rw [hrun] at herror
    cases herror
  have hresult := hgives w rfl
  rw [hrun] at hresult
  cases hresult
  cases hresults with
  | strange _ member strange =>
      obtain rfl := List.mem_singleton.mp member
      rw [strange.node?_eq_none] at hnode
      cases hnode
  | nodes images _ =>
      obtain ⟨p, hp⟩ := Option.isSome_iff_exists.mp hnode
      have hroots := images.roots
      rw [subtrees_cons_node (Store.node?_eq_some_iff.mp hp)] at hroots
      obtain ⟨inner, rfl⟩ := Forest.eq_cons_of_roots hroots.symm
      exact Node.dump_printable (w := { w with store := s' }) images.inStore images.distinct
        images.printable

-- The results of a parse with a grammar engine.
theorem parse_shown {engine : Engine σ} {host : Host σ} {text options : Value} {source : String}
    {given : List (Value × Value)} {r : ParseResult} {w w' : World σ}
    (htext : w.store.text? text = some source) (hoptions : Options.Valid w.store options given)
    (hbuilder : Options.get w.store given "make_ast" = .null)
    (hkeys : ∀ e ∈ given, w.store.Stands e.1) (htrees : engine.GivesTrees)
    (h : parse (.parser (engine.parser (some (Actions.generic host)))) text options w = .ok r w') :
    (r.error = none ∧ ((w'.store.node? r.ast).isSome = true →
      ∃ body, Node.dump r.ast w' = .ok (body ++ "]" ++ "\n") w')) ∨
    ∃ d message, r.error = some d ∧ d.render w'.store true = .ok message := by
  obtain ⟨prepared, s₁, util, builder, hprepare, hext, hutil, hstandard, hfound⟩ :=
    Options.prepare_standard (σ := σ) hoptions hbuilder hkeys
  have hclass : Outcome.Advertises w.store (.errorClass .unexpectedInput) [.unexpectedInput] :=
    .one _
  rw [parse_asked htext hprepare hext hclass] at h
  split at h
  · next v w₂ hasked =>
    cases h
    refine .inl ⟨rfl, fun hnode => ?_⟩
    obtain ⟨tree, w₁, given', begun, note, hengine, hgiven, hrun⟩ := Engine.ok_of_parser_run hasked
    obtain ⟨h₁, outline, houtline⟩ := htrees _ _ _ _ _ hengine
    cases (Engine.helpersOf_given (hfound.util _ h₁) (h₁ _ _ hutil) w₁).symm.trans hgiven
    exact Actions.dump_of_transform (w := { w₁ with log := note :: w₁.log }) host (h₁ _ _ hutil)
      (h₁ _ _ hstandard) houtline hrun hnode
  · exact .inr (Outcome.renders_ofFailure h)
  · cases h

-- For every text a grammar engine gives a tree, from such a start, or reports an error. The rules
-- in the tree have names that are free.
def Engine.Orderly (host : Host σ) (engine : Engine σ) (start : Value) : Prop :=
  ∀ (text : String) (w : World σ),
    (∃ tree data children place outline w', engine (.text text) start w = .ok tree w' ∧
      w.store.Extends w'.store ∧ w'.store.get? tree = some (.tree data children place) ∧
      w'.store.Outlined (Actions.Named host) [tree] outline) ∨
    ∃ e w', engine (.text text) start w = .error (.raised e) w' ∧ e.Reportable w'.store

theorem parse_orderly {engine : Engine σ} {host : Host σ} {options start : Value}
    {given : List (Value × Value)} {w : World σ} (text : String)
    (hoptions : Options.Valid w.store options given)
    (hbuilder : Options.get w.store given "make_ast" = .null)
    (hstart : Options.get w.store given "start_rule" = start)
    (hkeys : ∀ e ∈ given, w.store.Stands e.1) (horderly : engine.Orderly host start) :
    ∃ r w', parse (.parser (engine.parser (some (Actions.generic host)))) (.text text) options w =
        .ok r w' ∧
      ((r.error = none ∧ (w'.store.node? r.ast).isSome = true ∧
        ∃ body, Node.dump r.ast w' = .ok (body ++ "]" ++ "\n") w') ∨
      ∃ d message, r.error = some d ∧ d.render w'.store true = .ok message) := by
  obtain ⟨prepared, s₁, util, builder, hprepare, hext, hutil, hstandard, hfound⟩ :=
    Options.prepare_standard (σ := σ) hoptions hbuilder hkeys
  have htext : w.store.text? (.text text) = some text := rfl
  have hclass : Outcome.Advertises w.store (.errorClass .unexpectedInput) [.unexpectedInput] :=
    .one _
  obtain ⟨hok, herror⟩ := parse_prepared (p := engine.parser (some (Actions.generic host))) htext
    hprepare hext hclass
  let asked : World σ :=
    { w with store := s₁, log := Outcome.announcement s₁ (.text text) prepared :: w.log }
  have hrule : Options.get s₁ ((s₁.entries? prepared).getD []) "start_rule" = start :=
    (hfound.others s₁ (.refl s₁) "start_rule" (by decide)).trans hstart
  rcases horderly text asked with
    ⟨tree, data, children, place, outline, w₁, hengine, h₁, htree, houtline⟩ | ⟨e, w₁, hengine, he⟩
  · rw [← hrule] at hengine
    have hhelpers := Engine.helpersOf_given (hfound.util _ h₁) (h₁ _ _ hutil) w₁
    have hrun := Engine.parser_run (a := Actions.generic host) hengine hhelpers htree
    let begun : World σ :=
      { w₁ with
        log := .running (Actions.generic host).name ((w₁.store.inspect data).toOption.getD "") ::
          w₁.log }
    obtain ⟨root, -, -, w₂, -, hroot, hwell, -⟩ :=
      Actions.transform_tree (w := begun) host (h₁ _ _ hutil) (h₁ _ _ hstandard) htree houtline
    obtain ⟨p, -, -, -, -, -, -, hnode, -⟩ := hwell
    have hroot? : (w₂.store.node? root).isSome = true := by
      rw [Store.node?_eq_some_iff.mpr hnode, Option.isSome_some]
    have hdump := Actions.dump_of_transform (w := begun) host (h₁ _ _ hutil) (h₁ _ _ hstandard)
      (houtline.weaken fun _ _ => trivial) hroot hroot?
    exact ⟨⟨root, none⟩, w₂, hok root w₂ (hrun.trans (Engine.unwrapped_ok hroot)),
      .inl ⟨rfl, hroot?, hdump⟩⟩
  · rw [← hrule] at hengine
    have hrun := Engine.parser_error (a := some (Actions.generic host)) hengine
    obtain ⟨d, note, hreported⟩ := Outcome.reported text he
    rw [herror e w₁ hrun, hreported]
    exact ⟨_, _, rfl, .inr (Outcome.renders_ofFailure hreported)⟩

end ParseKit

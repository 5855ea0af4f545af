import Mathlib.Logic.Relation
import ParseKit.Proofs.Node.Birth

namespace ParseKit

namespace Store

-- All nodes stay as they are, and there are no others.
structure KeepsNodes (s s' : Store) : Prop where
  known : ∀ x, s.get? x ≠ none → s'.get? x ≠ none
  proper : ∀ v p d items, Proper s v p d items → Proper s' v p d items
  nodes : ∀ v p, s'.get? v = some (.node p) → s.get? v = some (.node p)

namespace KeepsNodes

variable {s s' : Store}

theorem alloc (s : Store) {o : Object} (ho : o.isNode = false) : KeepsNodes s (s.alloc o).2 where
  known x hx := by
    obtain ⟨old, hold⟩ := Option.ne_none_iff_exists'.mp hx
    simp [get?_alloc_elsewhere o hold]
  proper _ _ _ _ hv := hv.of_extends (.alloc s o)
  nodes _ _ := nodes_alloc ho

-- An object that is no part of a node may get any content that is no node either.
theorem put {x : Value} {old o : Object} (hold : s.get? x = some old)
    (hplain : old.isNode = false ∧ old.isToken = false) (ho : o.isNode = false ∧ o.isToken = false)
    (hown : ∀ v p, s.get? v = some (.node p) → x ∉ [p.attributes, p.children, p.position]) :
    KeepsNodes s (s.put x o) where
  known y hy := by
    rw [get?_put o hold]
    split
    · simp
    · exact hy
  proper v p d items hv := by
    refine hv.keep (fun y oy hy hget => ?_) (fun t ht => ?_) fun u q hu => ?_
    · rcases List.mem_cons.mp hy with rfl | hy
      · rw [get?_put_elsewhere s o, hget]
        rintro rfl
        cases hold.symm.trans hv.node
        cases hplain.1
      · rw [get?_put_elsewhere s o, hget]
        rintro rfl
        exact hown v p hv.node hy
    · rw [isText_put o hold hplain.2 ho.2, ht]
    · exact (nodes_put o hold (ho.1.trans hplain.1.symm) u).mpr ⟨q, hu⟩
  nodes v p hv := by
    rw [get?_put o hold] at hv
    split at hv
    · cases hv
      cases ho.1
    · exact hv

theorem sound (h : KeepsNodes s s') (hsound : Sound s) : Sound s' where
  proper v p hv := by
    obtain ⟨d, items, hp⟩ := hsound.proper v p (h.nodes v p hv)
    exact ⟨d, items, h.proper v p d items hp⟩
  attributesApart u v p q hu hv := hsound.attributesApart u v p q (h.nodes u p hu) (h.nodes v q hv)
  childrenApart u v p q hu hv := hsound.childrenApart u v p q (h.nodes u p hu) (h.nodes v q hv)

theorem later (h : KeepsNodes s s') (hsound : Sound s) : Later s s' where
  known := h.known
  kept v p hp := by
    obtain ⟨d, items, hv⟩ := hsound.proper v p hp
    exact ⟨p, (h.proper v p d items hv).node, rfl, rfl⟩
  taken _ v p _ hp _ := ⟨p, h.nodes v p hp, rfl, rfl⟩

end KeepsNodes

theorem sound_of_no_nodes {s : Store} (h : ∀ v p, s.get? v ≠ some (.node p)) : Sound s where
  proper v p hv := absurd hv (h v p)
  attributesApart u _ p _ hu := absurd hu (h u p)
  childrenApart u _ p _ hu := absurd hu (h u p)

theorem Sound.untouched_of_extends {s s' : Store} (hsound : Sound s) (hext : s.Extends s')
    (v : Value) : Untouched v s s' := by
  intro p hp
  obtain ⟨d, items, hv⟩ := hsound.proper v p hp
  exact hv.untouched (fun x o _ ho => hext x o ho) p hp

end Store

namespace Node

variable {σ : Type}

open Store (Changed Born)
open Relation (ReflTransGen)

inductive Operation where
  | create (type attributes children : Value)
  -- The standard builder at a place.
  | build (start : Point) (args : List Value)
  | setType (node type : Value)
  | setPosition (node line column offset : Value)
  | setAttribute (node key value : Value)
  | setAttributes (node attributes : Value)
  | addChildren (node : Value) (args : List Value)
  | removeChildren (node : Value) (children : List Value)

namespace Operation

def perform : Operation → Run σ Value
  | create type attributes children => Node.create type attributes children
  | build start args => buildStandard start args
  | setType node type => Node.setType node type
  | setPosition node line column offset => Node.setPosition node line column offset
  | setAttribute node key value => Node.setAttribute node key value
  | setAttributes node attributes => Node.setAttributes node attributes
  | addChildren node args => Node.addChildren node args
  | removeChildren node children => Node.removeChildren node children

-- The node that an operation is called on, for those that do not make one.
def receiver : Operation → Option Value
  | create .. | build .. => none
  | setType node _ | setPosition node .. | setAttribute node .. | setAttributes node _
  | addChildren node _ | removeChildren node _ => some node

-- What the arguments of an operation contribute to the children of a node.
def nodes (s : Store) : Operation → List Value
  | create _ _ children => contribution s children
  | build _ (_ :: rest) => (splitAttributes s rest).2.flatMap (contribution s)
  | addChildren _ args => args.flatMap (contribution s)
  | _ => []

variable {s : Store} {op : Operation}

theorem edits (hsound : s.Sound) {v : Value} (h : op.receiver = some v) :
    ∃ added, Adds s (op.nodes s) added ∧ Edits v added (op.perform : Run σ Value) s := by
  cases op with
  | create => cases h
  | build => cases h
  | setType node type => cases h; exact ⟨[], .inl rfl, setType_edits hsound v type⟩
  | setPosition node line column offset =>
      cases h; exact ⟨[], .inl rfl, setPosition_edits hsound v line column offset⟩
  | setAttribute node key value =>
      cases h; exact ⟨[], .inl rfl, setAttribute_edits hsound v key value⟩
  | setAttributes node attributes =>
      cases h; exact ⟨[], .inl rfl, setAttributes_edits hsound v attributes⟩
  | addChildren node args => cases h; exact addChildren_edits hsound v args
  | removeChildren node children =>
      cases h; exact ⟨[], .inl rfl, removeChildren_edits hsound v children⟩

theorem bears (hsound : s.Sound) (h : op.receiver = none) :
    Bears (op.nodes s) (op.perform : Run σ Value) s := by
  cases op with
  | create type attributes children => exact create_bears hsound type attributes children
  | build start args =>
      cases args with
      | nil => exact fun w _ => Or.inl ⟨_, rfl⟩
      | cons type rest => exact buildStandard_bears hsound start type rest
  | _ => cases h

-- What an operation may do: nothing at all, or make a node, or change the one it is called on.
theorem effect (op : Operation) (hsound : s.Sound) {w : World σ} (hw : w.store = s) :
    (op.receiver = none ∧ (op.perform.after w).store = s) ∨
    (op.receiver = none ∧ ∃ v added, Born v added s (op.perform.after w).store ∧
      ((∀ u ∈ op.nodes s, s.Known u) → Adds s (op.nodes s) added)) ∨
    ∃ v added, op.receiver = some v ∧ Changed v added s (op.perform.after w).store ∧
      Adds s (op.nodes s) added := by
  cases hreceiver : op.receiver with
  | none =>
      rcases bears (σ := σ) hsound hreceiver w hw with ⟨fault, h⟩ | ⟨v, added, hborn, hadds, -⟩
      · exact Or.inl ⟨rfl, by rw [Run.after_error h, hw]⟩
      · exact Or.inr (Or.inl ⟨rfl, v, added, hborn, hadds⟩)
  | some v =>
      obtain ⟨added, hadds, hedits⟩ := edits (σ := σ) hsound hreceiver
      exact Or.inr (Or.inr ⟨v, added, rfl, hedits w hw, hadds⟩)

-- Operations leave all nodes alone that they are not called on.
theorem untouched {w : World σ} (hsound : w.store.Sound) {u : Value}
    (hu : op.receiver ≠ some u) : Store.Untouched u w.store (op.perform.after w).store := by
  rcases op.effect hsound (w := w) rfl with ⟨-, h⟩ | ⟨-, v, added, hborn, -⟩ |
    ⟨v, added, hreceiver, hchanged, -⟩
  · rw [h]
    exact hsound.untouched_of_extends (.refl _) u
  · exact hsound.untouched_of_extends hborn.grown u
  · exact hchanged.untouched hsound fun h => hu (h ▸ hreceiver)

end Operation

-- A step of a run. A client may make objects other than nodes, and change those of them that are no
-- part of a node. What else it does to itself is of no concern.
inductive Step (allowed : Operation → Store → Prop) (w : World σ) : World σ → Prop where
  | perform (op : Operation) (permitted : allowed op w.store) : Step allowed w (op.perform.after w)
  | make {w' : World σ} {o : Object} (plain : o.isNode = false)
      (made : w'.store = (w.store.alloc o).2) : Step allowed w w'
  | change {w' : World σ} {x : Value} {old o : Object} (there : w.store.get? x = some old)
      (before : old.isNode = false ∧ old.isToken = false)
      (plain : o.isNode = false ∧ o.isToken = false)
      (own : ∀ v p, w.store.get? v = some (.node p) →
        x ∉ [p.attributes, p.children, p.position])
      (changed : w'.store = w.store.put x o) : Step allowed w w'

variable {allowed : Operation → Store → Prop} {w w' : World σ}

theorem Step.sound_later (h : Step allowed w w') (hsound : w.store.Sound) :
    w'.store.Sound ∧ w.store.Later w'.store := by
  cases h with
  | perform op =>
      rcases op.effect hsound (w := w) rfl with ⟨-, h⟩ | ⟨-, v, added, hborn, -⟩ |
        ⟨v, added, -, hchanged, -⟩
      · rw [h]
        exact ⟨hsound, .refl _⟩
      · exact ⟨hborn.sound hsound, hborn.later⟩
      · exact ⟨hchanged.sound hsound, hchanged.later hsound⟩
  | make plain made =>
      rw [made]
      have hkeep := Store.KeepsNodes.alloc w.store plain
      exact ⟨hkeep.sound hsound, hkeep.later hsound⟩
  | change there before plain own changed =>
      rw [changed]
      have hkeep := Store.KeepsNodes.put there before plain own
      exact ⟨hkeep.sound hsound, hkeep.later hsound⟩

theorem run_sound_later (h : ReflTransGen (Step allowed) w w') (hsound : w.store.Sound) :
    w'.store.Sound ∧ w.store.Later w'.store := by
  induction h with
  | refl => exact ⟨hsound, .refl _⟩
  | tail _ hstep ih =>
      obtain ⟨hmid, hbefore⟩ := ih
      obtain ⟨hend, hafter⟩ := hstep.sound_later hmid
      exact ⟨hend, hbefore.trans hafter⟩

-- Operations one after the other, be it that some of them fail.
def performAll (ops : List Operation) (w : World σ) : World σ :=
  ops.foldl (fun w op => op.perform.after w) w

theorem performAll_cons (op : Operation) (ops : List Operation) (w : World σ) :
    performAll (op :: ops) w = performAll ops (op.perform.after w) := rfl

theorem performAll_reached (h : ∀ op s, allowed op s) (ops : List Operation) (w : World σ) :
    ReflTransGen (Step allowed) w (performAll ops w) := by
  induction ops generalizing w with
  | nil => exact .refl
  | cons op ops ih =>
      rw [performAll_cons]
      exact .head (.perform op (h op _)) (ih _)

end Node

end ParseKit

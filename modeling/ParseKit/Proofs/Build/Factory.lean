import ParseKit.Actions.Transform
import ParseKit.Proofs.Node.Construction
import ParseKit.Proofs.SyntaxTree.Outline

namespace ParseKit

variable {σ : Type}

open Run (Continues Gives)

namespace Store

theorem orElse_recorded {s : Store} {v : Value} {i : Int} (h : v.recorded? = some i) :
    s.orElse v (.int 0) = .int i := by
  cases v with
  | null => cases h; rfl
  | int j => cases h; exact s.orElse_int i
  | _ => cases h

theorem startPoint_place {s : Store} {v : Value} {place : Place} {rule : String}
    {heading : Heading} (hget : s.get? v = some (.place place))
    (hheading : place.heading? rule = some heading) :
    s.startPoint v = ⟨.int heading.line, .int heading.column, .int heading.offset⟩ := by
  simp only [Place.heading?, Option.bind_eq_bind, Option.bind_eq_some_iff, Option.pure_def,
    Option.some.injEq] at hheading
  obtain ⟨line, hline, column, hcolumn, offset, hoffset, rfl⟩ := hheading
  simp [startPoint, (Placed.alone hget).placeOf_eq, orElse_recorded hline, orElse_recorded hcolumn,
    orElse_recorded hoffset]

end Store

theorem startOf_gives {location : Run σ Value} {s s' : Store}
    {span first last line column offset : Value} (hlocation : Gives location s span s')
    (hspan : s'.get? span = some (.span first last))
    (hfirst : s'.get? first = some (.position line column offset)) :
    Gives (startOf location) s ⟨line, column, offset⟩ s' := by
  have hstart : s'.requirePart span "start" = .ok first := by
    simp [Store.requirePart, Store.part?, hspan]
  have hline : s'.requirePart first "line" = .ok line := by
    simp [Store.requirePart, Store.part?, hfirst]
  have hcolumn : s'.requirePart first "column" = .ok column := by
    simp [Store.requirePart, Store.part?, hfirst]
  have hoffset : s'.requirePart first "offset" = .ok offset := by
    simp [Store.requirePart, Store.part?, hfirst]
  exact hlocation.bind ((Gives.inspect hstart).bind ((Gives.inspect hline).bind
    ((Gives.inspect hcolumn).bind ((Gives.inspect hoffset).bind (.pure _ _)))))

-- Whatever builds by itself is taken as it is.
theorem asBuilder_gives {s : Store} {builder : Value} (h : s.isBuilder builder = true) :
    Gives (asBuilder builder : Run σ Value) s builder s := by
  have hnull : builder ≠ .null := by
    rintro rfl
    simp [Store.isBuilder, Store.get?] at h
  unfold asBuilder
  rw [if_neg hnull]
  refine (Gives.store s).bind ?_
  rw [if_pos h]
  exact .pure _ _

theorem asBuilder_extends {s : Store} {option : Value}
    (h : option = .null ∨ s.isBuilder option = true ∨ s.callable option = true) :
    ∃ builder s', Gives (asBuilder option : Run σ Value) s builder s' ∧ s.Extends s' := by
  by_cases hbuilder : s.isBuilder option = true
  · exact ⟨option, s, asBuilder_gives hbuilder, .refl s⟩
  unfold asBuilder
  by_cases hnull : option = .null
  · rw [if_pos hnull]
    exact ⟨_, _, .alloc _ s, .alloc s _⟩
  · have hcallable : s.callable option = true := by
      rcases h with h | h | h
      · exact absurd h hnull
      · exact absurd h hbuilder
      · exact h
    let made : Object := .builder (.callback option)
    rw [if_neg hnull]
    refine ⟨(s.alloc made).1, (s.alloc made).2, (Gives.store s).bind ?_, .alloc s made⟩
    rw [if_neg hbuilder, if_pos hcallable]
    exact .alloc made s

theorem makeFactory_gives {s : Store} {builder : Value} (location : Location)
    (h : s.isBuilder builder = true) :
    Gives (makeFactory location builder : Run σ Value) s
      (s.alloc (.function (.factory location builder))).1
      (s.alloc (.function (.factory location builder))).2 :=
  (asBuilder_gives h).bind (Gives.alloc _ s)

-- A factory asks where the match is, and has its builder build there.
theorem call_factory_continues {host : Host σ} {s s' : Store} {f builder : Value}
    {location : Location} {start : Point} (args : List Value)
    (hf : s.get? f = some (.function (.factory location builder)))
    (hstart : Gives (startOf (locate host location)) s start s')
    (hbuilder : s'.get? builder = some (.builder .standard)) :
    Continues (call host f args) s (buildStandard start args) s' := by
  have hbuild : ∀ fuel, Continues (buildWithin host (fuel + 1) builder start args) s'
      (buildStandard start args) s' := by
    intro fuel
    unfold buildWithin
    refine ((Gives.object? builder s').continues _).trans ?_
    rw [hbuilder]
    exact .refl _ _
  refine ((Gives.store s).continues _).trans ?_
  unfold callBound
  cases f with
  | ref id =>
      unfold callWithin
      refine ((Gives.object? (.ref id) s).continues _).trans ?_
      rw [hf]
      exact (hstart.continues _).trans (hbuild _)
  | _ => cases hf

-- With a standard builder, an action for a node goes on with it at the start of an item.
theorem node_continues (host : Host σ) {s : Store} {util builder errorClass : Value}
    (hutil : s.get? util = some (.helpers builder errorClass))
    (hbuilder : s.get? builder = some (.builder .standard)) (item : Value) (args : List Value) :
    ∃ s₁ s', s.Extends s₁ ∧ s₁.Extends s' ∧
      Continues (Actions.node host util item args) s (buildStandard (s₁.startPoint item) args)
        s' := by
  let function : Object := .function (.factory (.ofItem item) builder)
  let s₁ := (s.alloc function).2
  have h₁ : s.Extends s₁ := .alloc s function
  have hparts : Gives (Helpers.parts util "make_ast" : Run σ (Value × Value)) s
      (builder, errorClass) s := by
    refine (Gives.object? util s).bind ?_
    rw [hutil]
    exact .pure _ _
  have hfactory : Gives (Helpers.factory util (.ofItem item) : Run σ Value) s
      (s.alloc function).1 s₁ :=
    hparts.bind (makeFactory_gives _ (by simp [Store.isBuilder, hbuilder]))
  obtain ⟨span, s₂, hspan, h₂, first, last, hget, hfirst, -⟩ := spanOf_gives (σ := σ) s₁ item
  exact ⟨s₁, s₂, h₁, h₂, (hfactory.continues _).trans (call_factory_continues args
    (Store.get?_alloc_here s function) (startOf_gives hspan hget hfirst)
    ((h₁.trans h₂) _ _ hbuilder))⟩

-- A node from the arguments that an action for any grammar has for the node of a rule.
theorem node_gives (host : Host σ) {s : Store}
    {util builder errorClass v type attributes list : Value} {place : Place} {t : String}
    {entries : List (Value × Value)} {nodes : List Value}
    (hutil : s.get? util = some (.helpers builder errorClass))
    (hbuilder : s.get? builder = some (.builder .standard))
    (hplace : s.get? v = some (.place place)) (htype : s.text? type = some t)
    (hentries : s.entries? attributes = some entries)
    (hkeys : ∀ e ∈ entries, ∃ t, s.text? e.1 = some t) (hlist : s.items? list = some nodes)
    (hnodes : ∀ u ∈ nodes, s.WellFormed u) :
    ∃ made p s', Gives (Actions.node host util v [type, attributes, list]) s made s' ∧
      Node.MadeOf s s' made p (s.insertAll [] entries) nodes ∧ p.type = type ∧
      ∀ rule heading, place.heading? rule = some heading → s'.get? p.position =
        some (.position (.int heading.line) (.int heading.column) (.int heading.offset)) := by
  obtain ⟨s₁, s₂, h₁, h₂, hnode⟩ :=
    node_continues host hutil hbuilder v [type, attributes, list]
  have hext := h₁.trans h₂
  obtain ⟨made, p, s₃, hbuild, hmade, hp, hposition⟩ := Node.buildStandard_gives (σ := σ)
    (s₁.startPoint v) (hext.text? htype) (hext.entries? hentries)
    (fun e he => (hkeys e he).imp fun t ht => hext.text? ht) (hext.items? hlist)
    (fun u hu => hext.wellFormed (hnodes u hu))
  rw [hext.insertAll_eq (by simp) hkeys] at hmade
  exact ⟨made, p, s₃, hnode.gives hbuild, hmade.weaken hext, hp, fun rule heading hheading =>
    hposition _ _ _ (Store.startPoint_place (h₁ _ _ hplace) hheading)⟩

end ParseKit

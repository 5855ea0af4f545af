import ParseKit.Build.Call
import ParseKit.Proofs.Node.Matched

namespace ParseKit

variable {σ : Type} {like : Likeness σ} {m : Matching}

open Matching (Agree Lists Locations Points Values)

-- The objects of a client do the same with values that match, whatever references stand for them.
structure Host.Uniform (like : Likeness σ) (host : Host σ) : Prop where
  call : ∀ {m : Matching} (o : Foreign) {args args' : List Value}, m.Lists args args' →
    m.Agree like (host.call o args) (host.call o args') Values
  build : ∀ {m : Matching} (o : Foreign) {start start' : Point} {args args' : List Value},
    m.Points start start' → m.Lists args args' →
      m.Agree like (host.build o start args) (host.build o start' args') Values
  locate : ∀ {m : Matching} (id : Nat), m.Agree like (host.locate id) (host.locate id) Values

namespace Matching

theorem Points.mono {m' : Matching} (h : Grows m m') {p p' : Point} (hp : m.Points p p') :
    m'.Points p p' :=
  ⟨hp.1.mono h, hp.2.mono h, hp.3.mono h⟩

end Matching

theorem allocPoint_agree {p p' : Point} (h : m.Points p p') :
    m.Agree like (allocPoint p : Run σ Value) (allocPoint p') Values :=
  .alloc (.position h.line h.column h.offset)

theorem spanOf_agree {v v' : Value} (hv : m.Values v v') :
    m.Agree like (spanOf v : Run σ Value) (spanOf v') Values := by
  unfold spanOf
  refine Agree.store.bind fun _ s s' h₁ hs => ?_
  have hstop := hs.endPoint (hv.mono h₁)
  refine (allocPoint_agree (hs.startPoint (hv.mono h₁))).bind fun _ _ _ h₂ hfirst => ?_
  refine (allocPoint_agree (hstop.mono h₂)).bind fun _ _ _ h₃ hlast => ?_
  exact .alloc (.span (hfirst.mono h₃) hlast)

theorem requirePart_agree {v v' : Value} (hv : m.Values v v') (name : String) :
    m.Agree like (Run.inspect (·.requirePart v name) : Run σ Value)
      (Run.inspect (·.requirePart v' name) : Run σ Value) Values :=
  .inspect fun _ _ hs => hs.requirePart hv name

theorem startOf_agree {location location' : Run σ Value}
    (h : m.Agree like location location' Values) :
    m.Agree like (startOf location) (startOf location') Points := by
  unfold startOf
  refine h.bind fun _ _ _ _ hspan => ?_
  refine (requirePart_agree hspan "start").bind fun _ _ _ _ hstart => ?_
  refine (requirePart_agree hstart "line").bind fun _ _ _ h₁ hline => ?_
  refine (requirePart_agree (hstart.mono h₁) "column").bind fun _ _ _ h₂ hcolumn => ?_
  refine (requirePart_agree (hstart.mono (h₁.trans h₂)) "offset").bind fun _ _ _ h₃ hoffset => ?_
  exact .pure ⟨hline.mono (h₂.trans h₃), hcolumn.mono h₃, hoffset⟩

theorem produce_agree {location location' : Run σ Value}
    {build build' : Point → List Value → Run σ Value} {args args' : List Value}
    (hlocation : m.Agree like (startOf location) (startOf location') Points)
    (hbuild : ∀ m' start start', m.Grows m' → m'.Points start start' →
      m'.Agree like (build start args) (build' start' args') Values) :
    m.Agree like (produce location build args) (produce location' build' args') Values :=
  hlocation.bind fun m' start start' h hstart => hbuild m' start start' h hstart

theorem notCallable_agree {α β : Type} {Q : Matching → α → β → Prop} {v v' : Value}
    (hv : m.Values v v') :
    m.Agree like (notCallable v : Run σ α) (notCallable v' : Run σ β) Q := by
  unfold notCallable
  refine Agree.store.bind fun _ s s' h hs => ?_
  rw [hs.kindName_eq (hv.mono h)]
  exact .raise _ _

theorem splitAttributes_agree {s s' : Store} (hs : m.Stores s s') {vs vs' : List Value}
    (h : m.Lists vs vs') : m.Values (splitAttributes s vs).1 (splitAttributes s' vs').1 ∧
      m.Lists (splitAttributes s vs).2 (splitAttributes s' vs').2 := by
  cases h with
  | nil => exact ⟨.null, .nil⟩
  | @cons v v' _ _ hv hrest =>
      have hentries := hs.entries? hv
      unfold splitAttributes
      dsimp only
      generalize s.entries? v = x at hentries
      generalize s'.entries? v' = x' at hentries
      cases hentries with
      | none => exact ⟨.null, .cons hv hrest⟩
      | some => exact ⟨hv, hrest⟩

theorem buildStandard_agree {start start' : Point} {args args' : List Value}
    (hstart : m.Points start start') (hargs : m.Lists args args') :
    m.Agree like (buildStandard start args : Run σ Value) (buildStandard start' args') Values := by
  unfold buildStandard
  cases hargs with
  | nil => exact .raise _ _
  | @cons type type' rest rest' htype hrest =>
      refine Agree.store.bind fun _ s s' h₁ hs => ?_
      obtain ⟨hattributes, hchildren⟩ := splitAttributes_agree hs (Lists.mono h₁ hrest)
      generalize splitAttributes s rest = split at hattributes hchildren
      generalize splitAttributes s' rest' = split' at hattributes hchildren
      obtain ⟨attributes, children⟩ := split
      obtain ⟨attributes', children'⟩ := split'
      dsimp only at hattributes hchildren ⊢
      refine (Node.create_agree (htype.mono h₁) hattributes).bind fun m₂ node node' h₂ hnode => ?_
      have hempty : children'.isEmpty = children.isEmpty := by cases hchildren <;> rfl
      have hplaced : ∀ {m' : Matching}, m₂.Grows m' → m'.Agree like
          (Node.setPosition node start.line start.column start.offset : Run σ Value)
          (Node.setPosition node' start'.line start'.column start'.offset) Values := by
        intro m' h
        have hstart' := ((hstart.mono h₁).mono h₂).mono h
        exact Node.setPosition_agree (hnode.mono h) hstart'.line hstart'.column hstart'.offset
      rw [hempty]
      split
      · exact (Node.addChildren_agree hnode (Lists.mono h₂ hchildren)).bind
          fun _ _ _ h₃ _ => hplaced h₃
      · exact hplaced (.refl _)

theorem locate_agree {host : Host σ} (hhost : host.Uniform like) {l l' : Location}
    (h : m.Locations l l') : m.Agree like (locate host l) (locate host l') Values := by
  cases h with
  | ofItem hv => exact spanOf_agree hv
  | accessor id => exact hhost.locate id

-- Within these steps, and at least as many for the second run, the same is built.
def BuildsAlike (like : Likeness σ) (host : Host σ) (fuel fuel' : Nat) : Prop :=
  ∀ {m : Matching} {builder builder' : Value} {start start' : Point} {args args' : List Value},
    m.Values builder builder' → m.Points start start' → m.Lists args args' →
      m.Agree like (buildWithin host fuel builder start args)
        (buildWithin host fuel' builder' start' args') Values

-- A callback is called with four arguments, with which no unroller can be called.
def CallsAlike (like : Likeness σ) (host : Host σ) (fuel fuel' : Nat) : Prop :=
  ∀ {m : Matching} {f f' : Value} {args args' : List Value}, m.Values f f' →
    m.Lists args args' → args.length = 4 →
      m.Agree like (callWithin host fuel f args) (callWithin host fuel' f' args') Values

theorem unrollArguments_four {args : List Value} (h : args.length = 4) : unrollArguments args =
    refuse ("make_unroll.<locals>.unroll() takes from 2 to 3 positional arguments but " ++
      toString 4 ++ " were given") := by
  match args, h with
  | [_, _, _, _], _ => rfl

section

variable {host : Host σ} (hhost : host.Uniform like) {fuel fuel' : Nat}
include hhost

theorem callsAlike_step (h : BuildsAlike like host fuel fuel') :
    CallsAlike like host (fuel + 1) (fuel' + 1) := by
  intro m f f' args args' hf hargs hcount
  have hnot : ∀ {m' : Matching}, m.Grows m' →
      m'.Agree like (notCallable f : Run σ Value) (notCallable f') Values :=
    fun h => notCallable_agree (hf.mono h)
  cases hf with
  | atom noReference =>
      cases f with
      | ref id => exact absurd rfl (noReference id)
      | errorClass c =>
          exact (Agree.ofExcept (Matching.construct c hargs)).bind fun _ _ _ _ he =>
            .alloc (.failure he)
      | _ => exact hnot (.refl m)
  | ref matched =>
      unfold callWithin
      refine (Agree.object? (.ref matched)).bind fun _ o o' h₁ ho => ?_
      have hargs₁ := Lists.mono h₁ hargs
      cases ho with
      | none => exact hnot h₁
      | some ho =>
          cases ho with
          | foreign o =>
              dsimp only
              split
              · exact hhost.call o hargs₁
              · exact hnot h₁
          | function hf =>
              cases hf with
              | factory location builder =>
                  exact produce_agree (startOf_agree (locate_agree hhost location))
                    fun _ _ _ h₂ hstart => h (builder.mono h₂) hstart (Lists.mono h₂ hargs₁)
              | unroller =>
                  dsimp only
                  rw [unrollArguments_four hcount,
                    unrollArguments_four (hargs.length_eq.symm.trans hcount)]
                  exact .fail (.message _ _)
          | _ => exact hnot h₁

theorem buildsAlike_step (h : CallsAlike like host fuel fuel') :
    BuildsAlike like host (fuel + 1) (fuel' + 1) := by
  intro m builder builder' start start' args args' hbuilder hstart hargs
  have hcall : ∀ {m' : Matching} {f f' : Value}, m.Grows m' → m'.Values f f' → m'.Agree like
      (do
        let packed ← Run.alloc (.tuple args)
        callWithin host fuel f [start.line, start.column, start.offset, packed])
      (do
        let packed ← Run.alloc (.tuple args')
        callWithin host fuel' f' [start'.line, start'.column, start'.offset, packed]) Values := by
    intro m' f f' h₁ hf
    refine (Agree.alloc (.tuple (Lists.mono h₁ hargs))).bind fun _ packed packed' h₂ hpacked => ?_
    have hstart' := hstart.mono (h₁.trans h₂)
    exact h (hf.mono h₂) (.cons hstart'.line (.cons hstart'.column (.cons hstart'.offset
      (.cons hpacked .nil)))) rfl
  unfold buildWithin
  refine (Agree.object? hbuilder).bind fun _ o o' h₁ ho => ?_
  have hnot : Agree like _ (notCallable builder : Run σ Value) (notCallable builder') Values :=
    notCallable_agree (hbuilder.mono h₁)
  cases ho with
  | none => exact hnot
  | some ho =>
      cases ho with
      | builder hb =>
          cases hb with
          | standard => exact buildStandard_agree (hstart.mono h₁) (Lists.mono h₁ hargs)
          | callback hf => exact hcall h₁ hf
          | unfinished className => exact .raise _ _
      | foreign o => exact hhost.build o (hstart.mono h₁) (Lists.mono h₁ hargs)
      | record fields =>
          dsimp only
          refine Agree.store.bind fun _ s s' h₂ hs => ?_
          exact hcall (h₁.trans h₂) (hs.part (hbuilder.mono (h₁.trans h₂)) "build_node")
      | _ => exact hnot

-- By induction on the steps that there are for the first run. Without any, it is exhausted.
theorem buildsAlike_and_callsAlike (hfuel : fuel ≤ fuel') :
    BuildsAlike like host fuel fuel' ∧ CallsAlike like host fuel fuel' := by
  induction fuel generalizing fuel' with
  | zero =>
      constructor
      · intro _ _ _ _ _ _ _ _ _ _ w w' _
        unfold buildWithin
        exact .exhausted _ (.steps w)
      · intro _ _ _ _ _ _ _ _ w w' _
        unfold callWithin
        exact .exhausted _ (.steps w)
  | succ fuel ih =>
      cases fuel' with
      | zero => cases hfuel
      | succ fuel' =>
          obtain ⟨hbuild, hcall⟩ := ih (Nat.le_of_succ_le_succ hfuel)
          exact ⟨buildsAlike_step hhost hcall, callsAlike_step hhost hbuild⟩

end

end ParseKit

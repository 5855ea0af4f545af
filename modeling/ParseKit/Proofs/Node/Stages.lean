import Mathlib.Logic.Relation
import ParseKit.Proofs.Node.Calls

namespace ParseKit.Node

variable {σ : Type}

-- A node that has been opened, and the loop over its children.
structure Frame where
  node : Value
  depth : Nat
  loop : Loop

-- Where a walk is: ahead of a call, or else in the loop of the innermost open node, which is the
-- first one.
structure Stage (σ : Type) where
  due : Option (Call Value)
  opened : List Frame
  made : List (Call Value)
  world : World σ

namespace Stage

-- The next thing that a walk does. A call of a phase that was not asked for is passed over.
inductive Next (mode : WalkMode) (visit : Value → Nat → Phase → Run σ Unit) :
    Stage σ → Stage σ → Prop where
  | enter {v : Value} {depth : Nat} {opened : List Frame} {made : List (Call Value)}
      {w w' : World σ} {loop : Loop} (call : Leads visit (selected mode [⟨v, depth, .before⟩]) w w')
      (children : Loop.overChildren w'.store v = .ok loop) :
      Next mode visit ⟨some ⟨v, depth, .before⟩, opened, made, w⟩
        ⟨none, ⟨v, depth, loop⟩ :: opened, made ++ selected mode [⟨v, depth, .before⟩], w'⟩
  | child {v x : Value} {depth : Nat} {opened : List Frame} {made : List (Call Value)}
      {w : World σ} {loop loop' : Loop} (more : loop.next? w.store = .ok (some (x, loop'))) :
      Next mode visit ⟨none, ⟨v, depth, loop⟩ :: opened, made, w⟩
        ⟨some ⟨x, depth + 1, .before⟩, ⟨v, depth, loop'⟩ :: opened, made, w⟩
  | finish {v : Value} {depth : Nat} {opened : List Frame} {made : List (Call Value)}
      {w : World σ} {loop : Loop} (done : loop.next? w.store = .ok none) :
      Next mode visit ⟨none, ⟨v, depth, loop⟩ :: opened, made, w⟩
        ⟨some ⟨v, depth, .after⟩, opened, made, w⟩
  | leave {v : Value} {depth : Nat} {opened : List Frame} {made : List (Call Value)}
      {w w' : World σ} (call : Leads visit (selected mode [⟨v, depth, .after⟩]) w w') :
      Next mode visit ⟨some ⟨v, depth, .after⟩, opened, made, w⟩
        ⟨none, opened, made ++ selected mode [⟨v, depth, .after⟩], w'⟩

def start (root : Value) (w : World σ) : Stage σ := ⟨some ⟨root, 0, .before⟩, [], [], w⟩

end Stage

-- The stages of the walk over a node.
def Reaches (mode : WalkMode) (visit : Value → Nat → Phase → Run σ Unit) (root : Value)
    (w : World σ) : Stage σ → Prop :=
  Relation.ReflTransGen (Stage.Next mode visit) (.start root w)

variable {mode : WalkMode} {visit : Value → Nat → Phase → Run σ Unit} {a b c : Stage σ}

open Relation (ReflTransGen)

theorem Stage.Next.unique (h : Next mode visit a b) (h' : Next mode visit a c) : b = c := by
  cases h with
  | enter hcall hchildren =>
      cases h' with
      | enter hcall' hchildren' =>
          cases hcall.unique hcall'
          cases hchildren.symm.trans hchildren'
          rfl
  | child hmore =>
      cases h' with
      | child hmore' =>
          cases hmore.symm.trans hmore'
          rfl
      | finish hdone => cases hmore.symm.trans hdone
  | finish hdone =>
      cases h' with
      | child hmore => cases hdone.symm.trans hmore
      | finish => rfl
  | leave hcall =>
      cases h' with
      | leave hcall' =>
          cases hcall.unique hcall'
          rfl

theorem Reaches.next {root : Value} {w : World σ} (h : Reaches mode visit root w a)
    (hnext : Stage.Next mode visit a b) : Reaches mode visit root w b :=
  h.tail hnext

theorem selected_append (mode : WalkMode) (xs ys : List (Call Value)) :
    selected mode (xs ++ ys) = selected mode xs ++ selected mode ys :=
  List.filter_append ..

theorem selected_cons (mode : WalkMode) (d : Call Value) (calls : List (Call Value)) :
    selected mode (d :: calls) = selected mode [d] ++ selected mode calls :=
  selected_append mode [d] calls

-- A call that is due is made if its phase was asked for, and passed over otherwise.
theorem leads_due {d : Call Value} {w w' : World σ} (h : Leads visit (selected mode [d]) w w') :
    (mode.asks d.phase = true ∧ selected mode [d] = [d] ∧ makeCall visit d w = .ok () w') ∨
      (selected mode [d] = [] ∧ w' = w) := by
  by_cases hvisits : mode.asks d.phase = true
  · have hone : selected mode [d] = [d] := by simp [selected, hvisits]
    rw [hone] at h
    exact Or.inl ⟨hvisits, hone, leads_singleton.mp h⟩
  · have hnone : selected mode [d] = [] := by simp [selected, hvisits]
    rw [hnone] at h
    exact Or.inr ⟨hnone, h.unique (.nil w)⟩

theorem leads_selected {xs : List (Call Value)} {d : Call Value} {w w₁ w₂ : World σ}
    (hvisits : mode.asks d.phase = true) (hxs : Leads visit (selected mode xs) w w₁)
    (hrun : makeCall visit d w₁ = .ok () w₂) :
    Leads visit (selected mode (xs ++ [d])) w w₂ := by
  have hone : selected mode [d] = [d] := by simp [selected, hvisits]
  rw [selected_append, hone]
  exact leads_append.mpr ⟨w₁, hxs, leads_singleton.mpr hrun⟩

-- What every call keeps holds at every stage.
theorem Reaches.keeps {root : Value} {w : World σ} {P : List (Call Value) → World σ → Prop}
    (h : Reaches mode visit root w a) (hstart : P [] w)
    (hcall : ∀ made c w w', P made w → makeCall visit c w = .ok () w' → P (made ++ [c]) w') :
    P a.made a.world := by
  have hdue : ∀ {made d w w'}, P made w → Leads visit (selected mode [d]) w w' →
      P (made ++ selected mode [d]) w' := by
    intro made d w w' hP hleads
    rcases leads_due hleads with ⟨-, hone, hrun⟩ | ⟨hnone, rfl⟩
    · rw [hone]
      exact hcall made d w w' hP hrun
    · rwa [hnone, List.append_nil]
  induction h with
  | refl => exact hstart
  | tail _ hnext ih =>
      cases hnext with
      | enter hleads => exact hdue ih hleads
      | child => exact ih
      | finish => exact ih
      | leave hleads => exact hdue ih hleads

theorem Stage.made_prefix (h : ReflTransGen (Next mode visit) a b) : a.made <+: b.made := by
  induction h with
  | refl => exact List.prefix_refl _
  | tail _ hnext ih =>
      refine ih.trans ?_
      cases hnext with
      | enter => exact List.prefix_append _ _
      | child => exact List.prefix_refl _
      | finish => exact List.prefix_refl _
      | leave => exact List.prefix_append _ _

-- By induction on the steps that are allowed. A walk that ends has been through its stages.
theorem walk_stages (mode : WalkMode) (visit : Value → Nat → Phase → Run σ Unit) (fuel : Nat) :
    (∀ made v depth opened w made' w', walkNode mode (listing visit) fuel made v depth w =
        .ok made' w' →
      ReflTransGen (Stage.Next mode visit) ⟨some ⟨v, depth, .before⟩, opened, made, w⟩
        ⟨none, opened, made', w'⟩) ∧
    ∀ made v depth loop opened w made' w',
      walkChildren mode (listing visit) fuel made depth loop w = .ok made' w' →
      ReflTransGen (Stage.Next mode visit) ⟨none, ⟨v, depth, loop⟩ :: opened, made, w⟩
        ⟨some ⟨v, depth, .after⟩, opened, made', w'⟩ := by
  induction fuel with
  | zero => exact ⟨by simp [walkNode], by simp [walkChildren]⟩
  | succ fuel ih =>
      obtain ⟨ihNode, ihChildren⟩ := ih
      constructor
      · intro made v depth opened w made' w' h
        rw [walkNode_succ] at h
        obtain ⟨_, w₁, hbefore, hrest⟩ := Run.ok_of_bind h
        obtain ⟨rfl, hopen⟩ := visitAll_listing_ok.mp hbefore
        obtain ⟨loop, _, hloop, hbody⟩ := Run.ok_of_bind hrest
        obtain ⟨hchildren, rfl⟩ := Run.ok_of_inspect hloop
        obtain ⟨_, w₂, hbelow, hafter⟩ := Run.ok_of_bind hbody
        obtain ⟨rfl, hclose⟩ := visitAll_listing_ok.mp hafter
        exact ((ihChildren _ v _ _ opened _ _ _ hbelow).head (.enter hopen hchildren)).tail
          (.leave hclose)
      · intro made v depth loop opened w made' w' h
        rw [walkChildren] at h
        obtain ⟨next, _, hnext, hrest⟩ := Run.ok_of_bind h
        obtain ⟨hitem, rfl⟩ := Run.ok_of_inspect hnext
        cases next with
        | none =>
            cases hrest
            exact .single (.finish hitem)
        | some next =>
            obtain ⟨x, loop'⟩ := next
            obtain ⟨_, w₁, hchild, hothers⟩ := Run.ok_of_bind hrest
            exact ((ihNode _ _ _ _ _ _ _ hchild).trans
              (ihChildren _ v _ _ opened _ _ _ hothers)).head (.child hitem)

-- A walk that ends has come to no other calls than those that it has made, in their order.
theorem Reaches.made_of_ok {root : Value} {w w' : World σ} {fuel : Nat} {made : List (Call Value)}
    {c : Call Value} (h : Reaches mode visit root w a) (hdue : a.due = some c)
    (hrun : walkNode mode (listing visit) fuel [] root 0 w = .ok made w') :
    a.made ++ selected mode [c] <+: made := by
  have hend := (walk_stages mode visit fuel).1 _ _ _ [] _ _ _ hrun
  have hunique : Relator.RightUnique (Stage.Next mode visit) := fun _ _ _ => Stage.Next.unique
  rcases ReflTransGen.total_of_right_unique hunique h hend with hrest | hrest
  · rcases hrest.cases_head with heq | ⟨b, hnext, hrest⟩
    · rw [heq] at hdue
      cases hdue
    · have hmade := Stage.made_prefix hrest
      cases hnext with
      | enter =>
          cases hdue
          exact hmade
      | child => cases hdue
      | finish => cases hdue
      | leave =>
          cases hdue
          exact hmade
  · rcases hrest.cases_head with heq | ⟨b, hnext, -⟩
    · rw [← heq] at hdue
      cases hdue
    · cases hnext

end ParseKit.Node

import ParseKit.Proofs.Node.Traversal

namespace ParseKit.Node

variable {σ α β : Type}

-- What a visitor that only acts does in a call.
def makeCall (visit : Value → Nat → Phase → Run σ Unit) (c : Call Value) : Run σ Unit :=
  visit c.node c.depth c.phase

-- The same visitor with a list of the calls that it has got.
def listing (visit : Value → Nat → Phase → Run σ Unit) : Visitor σ (List (Call Value)) :=
  fun made v depth phase => do
    visit v depth phase
    return made ++ [⟨v, depth, phase⟩]

-- Calls that all succeed, one after the other.
def Leads (visit : Value → Nat → Phase → Run σ Unit) (calls : List (Call Value))
    (w w' : World σ) : Prop :=
  forM calls (makeCall visit) w = .ok () w'

section Leads

variable {visit : Value → Nat → Phase → Run σ Unit} {xs ys : List (Call Value)}
  {w w₁ w₂ : World σ}

theorem Leads.nil (w : World σ) : Leads visit [] w w := rfl

theorem leads_singleton {c : Call Value} :
    Leads visit [c] w w₁ ↔ makeCall visit c w = .ok () w₁ := by
  have hone : forM [c] (makeCall visit) = makeCall visit c := by
    rw [List.forM_cons]
    exact bind_pure_unit
  rw [Leads, hone]

theorem leads_append :
    Leads visit (xs ++ ys) w w₂ ↔ ∃ w₁, Leads visit xs w w₁ ∧ Leads visit ys w₁ w₂ := by
  unfold Leads
  rw [List.forM_append, Run.bind_apply]
  cases forM xs (makeCall visit) w with
  | ok a w' => simp
  | error fault w' => simp

theorem Leads.unique (h : Leads visit xs w w₁) (h' : Leads visit xs w w₂) : w₁ = w₂ := by
  have hsame := h.symm.trans h'
  cases hsame
  rfl

end Leads

theorem visitAll_listing (visit : Value → Nat → Phase → Run σ Unit)
    (made calls : List (Call Value)) :
    visitAll (listing visit) made calls = (do
      forM calls (makeCall visit)
      return made ++ calls : Run σ (List (Call Value))) := by
  induction calls generalizing made with
  | nil => simp [visitAll]
  | cons c calls ih =>
      have hrest := fun made => ih made
      simp only [visitAll, List.foldlM_cons, listing, bind_assoc, pure_bind, List.forM_cons] at *
      refine bind_congr fun _ => ?_
      rw [hrest]
      simp

theorem visitAll_listing_ok {visit : Value → Nat → Phase → Run σ Unit}
    {made made' calls : List (Call Value)} {w w' : World σ} :
    visitAll (listing visit) made calls w = .ok made' w' ↔
      made' = made ++ calls ∧ Leads visit calls w w' := by
  rw [visitAll_listing, Run.bind_apply, Leads]
  cases forM calls (makeCall visit) w with
  | ok a w₁ =>
      simp only [Run.pure_apply, EStateM.Result.ok.injEq]
      constructor
      · rintro ⟨rfl, rfl⟩
        exact ⟨rfl, trivial, rfl⟩
      · rintro ⟨rfl, -, rfl⟩
        exact ⟨rfl, rfl⟩
  | error fault w₁ => simp

section Map

variable (f : α → β) (visit : Visitor σ α) (visit' : Visitor σ β)

theorem visitAll_map
    (h : ∀ acc v depth phase, visit' (f acc) v depth phase = f <$> visit acc v depth phase)
    (acc : α) (calls : List (Call Value)) :
    visitAll visit' (f acc) calls = f <$> visitAll visit acc calls := by
  induction calls generalizing acc with
  | nil => simp [visitAll]
  | cons c calls ih =>
      simp only [visitAll, List.foldlM_cons, h, bind_map_left, map_bind] at *
      exact bind_congr fun acc' => ih acc'

-- A walk does the same whatever its visitor makes of the results so far.
theorem walk_map
    (h : ∀ acc v depth phase, visit' (f acc) v depth phase = f <$> visit acc v depth phase)
    (mode : WalkMode) (fuel : Nat) :
    (∀ acc v depth, walkNode mode visit' fuel (f acc) v depth =
      f <$> walkNode mode visit fuel acc v depth) ∧
    ∀ acc depth loop, walkChildren mode visit' fuel (f acc) depth loop =
      f <$> walkChildren mode visit fuel acc depth loop := by
  induction fuel with
  | zero => exact ⟨fun _ _ _ => rfl, fun _ _ _ => rfl⟩
  | succ fuel ih =>
      obtain ⟨ihNode, ihChildren⟩ := ih
      constructor
      · intro acc v depth
        simp only [walkNode_succ, visitAll_map f visit visit' h, ihChildren, bind_map_left, map_bind]
      · intro acc depth loop
        rw [walkChildren, walkChildren, map_bind]
        refine bind_congr fun next => ?_
        cases next with
        | none => simp
        | some next => simp only [ihNode, ihChildren, bind_map_left, map_bind]

end Map

-- A walk whose visitor only acts does what the walk that lists the calls does.
theorem walk_eq_listing {visit : Value → Nat → Phase → Run σ Unit} {w : World σ}
    {root holder phase : Value} {items : List Value} {mode : WalkMode} (fuel : Nat)
    (hc : w.store.childrenOf? root = some (holder, items))
    (hmode : w.store.text? phase = some mode.name) :
    walk fuel root visit phase w = (do
      let _ ← walkNode mode (listing visit) fuel [] root 0
      return root : Run σ Value) w := by
  obtain ⟨p, hnode, -, -⟩ := Store.childrenOf?_eq_some hc
  have hparts : (parts root "walk" : Run σ NodeParts) w = .ok p w := by
    simp [parts, Run.bind_apply, Store.node?_eq_some_iff.mpr hnode]
  have hwalk : (walkMode phase : Run σ WalkMode) w = .ok mode w := by
    simp [walkMode, Run.bind_apply, hmode, WalkMode.ofName?_name]
  have hforget := (walk_map (fun _ => ()) (listing visit) (fun _ => visit)
    (fun made v depth phase => by simp [listing]) mode fuel).1 [] root 0
  rw [walk, Run.bind_apply, hparts]
  dsimp only
  rw [Run.bind_apply, hwalk]
  dsimp only
  rw [hforget]
  simp

end ParseKit.Node

import ParseKit.Proofs.Node.Operation

namespace ParseKit.Node

variable {σ : Type}

open Relation (ReflTransGen)

-- From a store without nodes on, all nodes are proper ones with containers of their own. What a
-- node has as containers once it keeps, and nothing that is already there becomes a container.
-- Every operation therefore leaves all nodes alone but the one that it is called on.
theorem run_separates {w₀ w₁ w₂ : World σ} (hempty : ∀ v p, w₀.store.get? v ≠ some (.node p))
    (hbefore : ReflTransGen (Step fun _ _ => True) w₀ w₁)
    (hafter : ReflTransGen (Step fun _ _ => True) w₁ w₂) :
    w₂.store.Sound ∧ w₁.store.Later w₂.store ∧
      ∀ (op : Operation) u, op.receiver ≠ some u →
        Store.Untouched u w₂.store (op.perform.after w₂).store := by
  obtain ⟨hsound, -⟩ := run_sound_later hbefore (Store.sound_of_no_nodes hempty)
  obtain ⟨hsound', hlater⟩ := run_sound_later hafter hsound
  exact ⟨hsound', hlater, fun op u hu => op.untouched hsound' hu⟩

private def noNodes : World Unit where
  store := {}
  log := []
  client := ()

-- A sum with an attribute and a child.
private def sumWithLeaf : World Unit :=
  performAll [.create (.text "leaf") .null .null, .create (.text "sum") .null (.ref 3),
    .setAttribute (.ref 7) (.text "op") (.text "+")] noNodes

-- A copy of the sum that is made from the dictionary and the list of the sum, and that is given its
-- own list and the one of the sum again.
private def sumWithCopy : World Unit :=
  performAll [.create (.text "copy") (.ref 4) (.ref 5), .addChildren (.ref 11) [.ref 9, .ref 5]]
    sumWithLeaf

-- The copy has the same children three times over in a list of its own. When they are taken out of
-- the list of the sum, it keeps them.
theorem run_separates_sumWithCopy :
    sumWithCopy.store.get? (.ref 9) = some (.list [.ref 3, .ref 3, .ref 3]) ∧
    sumWithCopy.store.get? (.ref 5) = some (.list [.ref 3]) ∧
    sumWithLeaf.store.Later sumWithCopy.store ∧
    Store.Untouched (.ref 11) sumWithCopy.store
      ((Operation.removeChildren (.ref 7) [.ref 3]).perform.after sumWithCopy).store := by
  have hempty : ∀ v p, noNodes.store.get? v ≠ some (.node p) := by
    intro v p
    cases v <;> simp [noNodes, Store.get?]
  obtain ⟨-, hlater, huntouched⟩ := run_separates hempty
    (performAll_reached (fun _ _ => trivial) _ noNodes : ReflTransGen _ _ sumWithLeaf)
    (performAll_reached (fun _ _ => trivial) _ sumWithLeaf : ReflTransGen _ _ sumWithCopy)
  exact ⟨rfl, rfl, hlater, huntouched _ _ (by simp [Operation.receiver])⟩

end ParseKit.Node

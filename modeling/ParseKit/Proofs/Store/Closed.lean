import ParseKit.Proofs.Store.Extends
import ParseKit.Proofs.Store.Matched

namespace ParseKit.Store

variable {s s' s'' : Store} {v : Value}

open Matching (upTo)

-- Every reference in the store goes to an object of the store: the store matches itself with each
-- object taken for itself.
def Closed (s : Store) : Prop := (upTo s.size).Stores s s

theorem closed_of_objects
    (h : ∀ i o, s.get? (.ref i) = some o → (upTo s.size).Objects o o) : s.Closed where
  size_le := Nat.le_refl _
  oneToOne := Matching.oneToOne_upTo _
  objects := by
    rintro i _ ⟨rfl, hi⟩
    have hget : s.get? (.ref i) = some s.objects[i] := Array.getElem?_eq_getElem hi
    exact ⟨_, _, hget, hget, h i _ hget⟩

theorem grows_upTo {n n' : Nat} (h : n ≤ n') : (upTo n).Grows (upTo n') :=
  fun _ _ hi => ⟨hi.1, Nat.lt_of_lt_of_le hi.2 h⟩

theorem values_upTo {n : Nat} (h : ∀ i, v = .ref i → i < n) : (upTo n).Values v v := by
  cases v with
  | ref i => exact .ref ⟨rfl, h i rfl⟩
  | _ => exact .atom nofun

theorem values_of_get? {o : Object} (h : s.get? v = some o) : (upTo s.size).Values v v :=
  values_upTo fun i hi => by
    subst hi
    exact (Array.getElem?_eq_some_iff.mp h).1

theorem Extends.size_le (h : s.Extends s') : s.size ≤ s'.size := by
  refine Nat.le_of_not_lt fun hlt => ?_
  have hget := h (.ref s'.size) _ (Array.getElem?_eq_getElem hlt)
  exact absurd (Array.getElem?_eq_some_iff.mp hget).1 (Nat.lt_irrefl _)

namespace Closed

theorem stores (h : s.Closed) (h' : s.Extends s') (h'' : s.Extends s'')
    (hsize : s'.size ≤ s''.size) : (upTo s.size).Stores s' s'' where
  size_le := hsize
  oneToOne := h.oneToOne
  objects i j hij := by
    obtain ⟨o, o', ho, ho', hobjects⟩ := h.objects i j hij
    exact ⟨o, o', h' _ _ ho, h'' _ _ ho', hobjects⟩

theorem alloc {o : Object} (h : s.Closed) (ho : (upTo s.size).Objects o o) :
    (s.alloc o).2.Closed := by
  have hadd : (upTo s.size).add s.size s.size = upTo (s.alloc o).2.size := by
    funext i j
    simp only [Matching.add, upTo, size_alloc, eq_iff_iff]
    omega
  have hstores := Matching.Stores.alloc h ho
  rwa [hadd] at hstores

end Closed

end ParseKit.Store

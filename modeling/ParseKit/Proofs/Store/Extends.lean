import ParseKit.Proofs.Store.Basic

namespace ParseKit.Store

def Extends (s s' : Store) : Prop := ∀ v o, s.get? v = some o → s'.get? v = some o

theorem get?_alloc_fresh (s : Store) (o : Object) : s.get? (s.alloc o).1 = none := by
  simp [alloc, get?, size]

namespace Extends

variable {s s' s'' : Store}

theorem refl (s : Store) : Extends s s := fun _ _ h => h

theorem trans (h : Extends s s') (h' : Extends s' s'') : Extends s s'' :=
  fun v o hv => h' v o (h v o hv)

theorem alloc (s : Store) (o : Object) : Extends s (s.alloc o).2 :=
  fun _ _ h => get?_alloc_elsewhere o h

theorem put (h : Extends s s') {v : Value} (hnew : s.get? v = none) (o : Object) :
    Extends s (s'.put v o) := by
  intro u old hu
  have hne : u ≠ v := by
    rintro rfl
    rw [hnew] at hu
    cases hu
  rw [get?_put_elsewhere s' o hne]
  exact h u old hu

theorem get?_eq_none (h : Extends s s') {v : Value} (hv : s'.get? v = none) :
    s.get? v = none := by
  cases hold : s.get? v with
  | none => rfl
  | some o =>
      rw [h v o hold] at hv
      cases hv

theorem text? (h : Extends s s') {v : Value} {t : String} (hv : s.text? v = some t) :
    s'.text? v = some t := by
  unfold Store.text? at hv ⊢
  split at hv
  · exact hv
  · split at hv
    · next heq =>
      cases hv
      simp only [h _ _ heq]
    · cases hv

theorem entries? (h : Extends s s') {v : Value}
    {entries : List (Value × Value)} (hv : s.entries? v = some entries) :
    s'.entries? v = some entries := by
  unfold Store.entries? at hv ⊢
  split at hv <;> try cases hv
  · next heq => simp only [h _ _ heq]
  · next heq => simp only [h _ _ heq]

theorem items? (h : Extends s s') {v : Value} {items : List Value}
    (hv : s.items? v = some items) : s'.items? v = some items := by
  unfold Store.items? at hv ⊢
  split at hv <;> try cases hv
  · next heq => simp only [h _ _ heq]
  · next heq => simp only [h _ _ heq]

theorem length (h : s.Extends s') {v : Value} {n : Nat} (hv : s.length v = .ok n) :
    s'.length v = .ok n := by
  cases v with
  | ref id =>
      cases hget : s.get? (.ref id) with
      | none => simp [Store.length, elements?, hget] at hv
      | some o =>
          simp only [Store.length, elements?, kindName, className, hget, h _ _ hget] at hv ⊢
          exact hv
  | _ => exact hv

theorem requirePart (h : s.Extends s') {v part : Value} {name : String}
    (hv : s.requirePart v name = .ok part) : s'.requirePart v name = .ok part := by
  cases hget : s.get? v with
  | none => simp [Store.requirePart, part?, hget] at hv
  | some o =>
      simp only [Store.requirePart, part?, missingPart, kindName, className, hget,
        h _ _ hget] at hv ⊢
      exact hv

end Extends

end ParseKit.Store

import ParseKit.Proofs.Store.Extends
import ParseKit.Value.Equality

namespace ParseKit.Store

variable {s s' : Store} {entries more : List (Value × Value)} {key value : Value}

-- Every entry has its key and its value from the new entry or from one that was there before.
theorem mem_insert {e : Value × Value} (he : e ∈ s.insert entries key value) :
    (e.1 = key ∨ ∃ old ∈ entries, e.1 = old.1) ∧ (e.2 = value ∨ e ∈ entries) := by
  induction entries with
  | nil =>
      obtain rfl := List.mem_singleton.mp he
      exact ⟨.inl rfl, .inl rfl⟩
  | cons first rest ih =>
      unfold insert at he
      split at he
      · rcases List.mem_cons.mp he with rfl | he
        · exact ⟨.inr ⟨first, by simp, rfl⟩, .inl rfl⟩
        · exact ⟨.inr ⟨e, by simp [he], rfl⟩, .inr (by simp [he])⟩
      · rcases List.mem_cons.mp he with rfl | he
        · exact ⟨.inr ⟨e, by simp, rfl⟩, .inr (by simp)⟩
        · obtain ⟨hkey, hvalue⟩ := ih he
          refine ⟨?_, hvalue.imp_right fun h => by simp [h]⟩
          rcases hkey with hkey | ⟨old, hold, hkey⟩
          · exact .inl hkey
          · exact .inr ⟨old, by simp [hold], hkey⟩

-- A text equals what has the same characters, unless both are tokens of different types.
theorem same_of_text {a b : Value} {t : String} (ha : s.text? a = some t) :
    s.same a b = (a == b || s.sameText a b) := by
  have htext : s.isText a = true := by simp [isText, ha]
  rw [same, sameAt, htext, Bool.true_or, if_pos rfl]
  cases a == b <;> rfl

namespace Extends

theorem tokenType?_eq (h : s.Extends s') {v : Value} {t : String} (hv : s.text? v = some t) :
    s'.tokenType? v = s.tokenType? v := by
  unfold Store.text? at hv
  split at hv
  · rfl
  · split at hv
    · next heq => simp only [tokenType?, heq, h _ _ heq]
    · cases hv

theorem same_eq (h : s.Extends s') {a b : Value} {t u : String} (ha : s.text? a = some t)
    (hb : s.text? b = some u) : s'.same a b = s.same a b := by
  rw [same_of_text (h.text? ha), same_of_text ha]
  simp only [sameText, ha, hb, h.text? ha, h.text? hb, h.tokenType?_eq ha, h.tokenType?_eq hb]

theorem insert_eq (h : s.Extends s') {t : String} (hkey : s.text? key = some t)
    (hkeys : ∀ e ∈ entries, ∃ t, s.text? e.1 = some t) (value : Value) :
    s'.insert entries key value = s.insert entries key value := by
  induction entries with
  | nil => rfl
  | cons e rest ih =>
      obtain ⟨u, hu⟩ := hkeys e (by simp)
      rw [insert, insert, h.same_eq hu hkey, ih fun e he => hkeys e (by simp [he])]

theorem insertAll_eq (h : s.Extends s') (hkeys : ∀ e ∈ entries, ∃ t, s.text? e.1 = some t)
    (hmore : ∀ e ∈ more, ∃ t, s.text? e.1 = some t) :
    s'.insertAll entries more = s.insertAll entries more := by
  induction more generalizing entries with
  | nil => rfl
  | cons first rest ih =>
      obtain ⟨t, ht⟩ := hmore first (by simp)
      have hfirst := h.insert_eq ht hkeys first.2
      have hall : ∀ e ∈ s.insert entries first.1 first.2, ∃ t, s.text? e.1 = some t := by
        intro e he
        rcases (mem_insert he).1 with hkey | ⟨old, hold, hkey⟩
        · exact ⟨t, hkey ▸ ht⟩
        · exact hkey ▸ hkeys old hold
      have hrest := ih hall fun e he => hmore e (by simp [he])
      simpa only [insertAll, List.foldl_cons, hfirst] using hrest

end Extends

end ParseKit.Store

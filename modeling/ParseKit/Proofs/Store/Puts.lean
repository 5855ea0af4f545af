import ParseKit.Proofs.Store.Merge

namespace ParseKit.Store

variable {s s' : Store} {entries : List (Value × Value)} {key value : Value}

-- Entries with a value for a key: in place of the one that was there, or behind all others.
inductive Puts (s : Store) (key value : Value) :
    List (Value × Value) → List (Value × Value) → Prop where
  | replaced {before after : List (Value × Value)} {old name : Value}
      (others : ∀ e ∈ before, s.same e.1 key = false) (same : s.same name key = true) :
      Puts s key value (before ++ (name, old) :: after) (before ++ (name, value) :: after)
  | added {entries : List (Value × Value)} (others : ∀ e ∈ entries, s.same e.1 key = false) :
      Puts s key value entries (entries ++ [(key, value)])

theorem puts_insert (s : Store) (entries : List (Value × Value)) (key value : Value) :
    s.Puts key value entries (s.insert entries key value) := by
  induction entries with
  | nil => exact .added (by simp)
  | cons e rest ih =>
      cases hsame : s.same e.1 key with
      | true =>
          rw [insert, if_pos hsame]
          exact @Puts.replaced s key value [] rest e.2 e.1 (by simp) hsame
      | false =>
          rw [insert, hsame, if_neg Bool.false_ne_true]
          generalize s.insert rest key value = made at ih
          cases ih with
          | replaced others same =>
              exact @Puts.replaced s key value (e :: _) _ _ _
                (List.forall_mem_cons.mpr ⟨hsame, others⟩) same
          | added others => exact .added (List.forall_mem_cons.mpr ⟨hsame, others⟩)

-- The value is found again, in every store in which the keys compare to this one as before.
theorem Puts.lookup?_eq {old entries : List (Value × Value)} (h : s.Puts key value old entries)
    (hsame : ∀ e ∈ old, s'.same e.1 key = s.same e.1 key) :
    s'.lookup? entries key = some value := by
  have hfind : ∀ {es : List (Value × Value)}, (∀ e ∈ es, e ∈ old ∧ s.same e.1 key = false) →
      es.find? (fun e => s'.same e.1 key) = none := by
    intro es hes
    refine List.find?_eq_none.mpr fun e he => ?_
    rw [hsame e (hes e he).1, (hes e he).2]
    exact Bool.false_ne_true
  cases h with
  | replaced others same =>
      have hname := (hsame _ (List.mem_append_right _ (List.mem_cons_self ..))).trans same
      rw [Store.lookup?, List.find?_append,
        hfind fun e he => ⟨List.mem_append_left _ he, others e he⟩, Option.none_or,
        List.find?_cons, hname]
      rfl
  | added others =>
      rw [Store.lookup?, List.find?_append, hfind fun e he => ⟨he, others e he⟩, Option.none_or,
        List.find?_cons, s'.same_refl key]
      rfl

section Alloc

variable {o : Object} (ho : o.isToken = false)
include ho

theorem text?_alloc (v : Value) : (s.alloc o).2.text? v = s.text? v := by
  by_cases hv : v = (s.alloc o).1
  · rw [hv, text?_of_get? (get?_alloc_here s o) ho]
    have hfresh := get?_alloc_fresh s o
    simp only [alloc] at hfresh ⊢
    simp only [text?, hfresh]
  · cases v with
    | ref id => simp only [text?, get?_alloc, if_neg hv]
    | _ => rfl

theorem tokenType?_alloc (v : Value) : (s.alloc o).2.tokenType? v = s.tokenType? v := by
  by_cases hv : v = (s.alloc o).1
  · rw [tokenType?, tokenType?, hv, get?_alloc_here, get?_alloc_fresh]
    cases o <;> first | rfl | cases ho
  · rw [tokenType?, tokenType?, get?_alloc, if_neg hv]

theorem insert_alloc (entries : List (Value × Value)) {t : String} (hkey : s.text? key = some t)
    (value : Value) : (s.alloc o).2.insert entries key value = s.insert entries key value := by
  have hsame : ∀ v, (s.alloc o).2.same v key = s.same v key := by
    intro v
    rw [same_of_text_right ((text?_alloc ho key).trans hkey), same_of_text_right hkey]
    simp only [sameText, text?_alloc ho, tokenType?_alloc ho]
  induction entries with
  | nil => rfl
  | cons e rest ih => rw [insert, insert, hsame, ih]

end Alloc

end ParseKit.Store

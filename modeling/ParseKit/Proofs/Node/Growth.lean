import ParseKit.Proofs.Forest.Grown
import ParseKit.Proofs.Node.Calls
import ParseKit.Proofs.Node.Effects
import ParseKit.Proofs.Node.Lineage

namespace ParseKit

namespace Store

variable {s s' : Store} {root a u v x : Value}

-- What can be reached from a root.
def Under (s : Store) (root v : Value) : Prop := ∃ depth, s.Descends root depth v

theorem Under.below {depth : Nat} (h : s.Under root a) (hdown : s.Descends a depth v) :
    s.Under root v := by
  obtain ⟨d, habove⟩ := h
  exact ⟨d + depth, habove.trans hdown⟩

-- The nodes under a root keep their lists of children, and what they have in them. More children
-- may come behind these.
def Lengthens (root : Value) (s s' : Store) : Prop :=
  ∀ v holder items, s.Under root v → s.childrenOf? v = some (holder, items) →
    ∃ more, s'.childrenOf? v = some (holder, items ++ more)

namespace Lengthens

theorem descends {depth : Nat} (h : Lengthens root s s') (ha : s.Under root a)
    (hdown : s.Descends a depth u) : s'.Descends a depth u := by
  induction hdown with
  | refl v => exact .refl v
  | @step v holder child u items depth hc hmem _ ih =>
      obtain ⟨more, hc'⟩ := h v holder items ha hc
      have hchild : s.Under root child := ha.below (.step hc hmem (.refl child))
      exact .step hc' (List.mem_append_left more hmem) (ih hchild)

theorem from_root {depth : Nat} (h : Lengthens root s s') (hdown : s.Descends root depth v) :
    s'.Descends root depth v :=
  h.descends ⟨0, .refl root⟩ hdown

theorem under (h : Lengthens root s s') (hv : s.Under root v) : s'.Under root v := by
  obtain ⟨depth, hdown⟩ := hv
  exact ⟨depth, h.from_root hdown⟩

theorem children_prefix (h : Lengthens root s s') (hv : s.Under root v) :
    s.children v <+: s'.children v := by
  cases hc : s.childrenOf? v with
  | none => simp [children, hc]
  | some c =>
      obtain ⟨more, hc'⟩ := h v c.1 c.2 hv hc
      rw [children_eq hc, children_eq hc']
      exact List.prefix_append _ _

theorem trans {s'' : Store} (h : Lengthens root s s') (h' : Lengthens root s' s'') :
    Lengthens root s s'' := by
  intro v holder items hv hc
  obtain ⟨more, hc₁⟩ := h v holder items hv hc
  obtain ⟨more', hc₂⟩ := h' v holder _ (h.under hv) hc₁
  exact ⟨more ++ more', by rw [hc₂, List.append_assoc]⟩

end Lengthens

end Store

namespace Forest

variable {s s' : Store} {f fresh : Forest Value} {root v : Value}

theorem under_of_mem_roots {below : Forest Value} (s : Store)
    (hv : v ∈ (cons root below nil).roots) : s.Under root v := by
  rw [List.mem_singleton.mp hv]
  exact ⟨0, .refl root⟩

theorem under_of_mem_labels (h : f.In s) (hroots : ∀ u ∈ f.roots, s.Under root u)
    (hv : v ∈ f.labels) : s.Under root v := by
  obtain ⟨u, hu, _, hdown⟩ := descends_of_mem_labels h hv
  exact (hroots u hu).below hdown

-- What is below a new child of a node was not there before.
theorem not_under_of_new {a x u : Value} {depth : Nat} (hlonger : Store.Lengthens root s s')
    (hin : f.In s') (hdistinct : f.labels.Nodup) (hroots : f.roots = [root]) (ha : a ∈ f.labels)
    (hx : x ∈ s'.children a) (hnew : x ∉ s.children a) (hdown : s'.Descends x depth u) :
    ¬s.Under root u := by
  intro hunder
  have hup : ∀ y, s.Under root y → y ∈ f.roots ∨
      ∃ q ∈ f.labels, s.Under root q ∧ (s.Under root q ∧ y ∈ s.children q) := by
    rintro y ⟨depth, hy⟩
    cases depth with
    | zero =>
        cases hy
        exact Or.inl (by simp [hroots])
    | succ depth =>
        obtain ⟨q, hq, hyq⟩ := hy.exists_last
        have hqs : s.Under root q := ⟨depth, hq⟩
        obtain ⟨_, hq'⟩ := hlonger.under hqs
        exact Or.inr ⟨q, mem_labels_of_descends hin (by simp [hroots]) hq', hqs, hqs, hyq⟩
  have hR : ∀ q y, s.Under root q ∧ y ∈ s.children q → y ∈ s'.children q :=
    fun q y h => (hlonger.children_prefix h.1).subset h.2
  exact hnew (parent_of_below hin hdistinct hup hR ha hx hdown hunder).2

theorem In.drop (h : f.In s) (n : Nat) : (f.drop n).In s := by
  induction f generalizing n with
  | nil => cases n <;> trivial
  | cons top below beside _ ihs =>
      cases n with
      | zero => exact h
      | succ n => exact ihs h.2.2 n

theorem In.plant (h : f.In s)
    (hothers : ∀ u ∈ f.labels, u ≠ v → s'.childrenOf? u = s.childrenOf? u)
    (hhere : ∀ holder items, s.childrenOf? v = some (holder, items) →
      s'.childrenOf? v = some (holder, items ++ fresh.roots))
    (hfresh : v ∈ f.labels → fresh.In s') : (f.plant v fresh).In s' := by
  induction f with
  | nil => trivial
  | cons top below beside ihb ihs =>
      obtain ⟨⟨holder, hc⟩, hbelow, hbeside⟩ := h
      have hunder := ihb hbelow (fun u hu => hothers u (by simp [mem_labels_cons, hu]))
        (fun hv => hfresh (by simp [mem_labels_cons, hv]))
      have hbehind := ihs hbeside (fun u hu => hothers u (by simp [mem_labels_cons, hu]))
        (fun hv => hfresh (by simp [mem_labels_cons, hv]))
      rw [Forest.plant]
      by_cases htop : top = v
      · subst htop
        rw [if_pos rfl]
        refine ⟨⟨holder, ?_⟩, hunder.append (hfresh (by simp [mem_labels_cons])), hbehind⟩
        rw [hhere holder _ hc, roots_append, roots_plant]
      · rw [if_neg htop]
        refine ⟨⟨holder, ?_⟩, hunder, hbehind⟩
        rw [hothers top (by simp [mem_labels_cons]) htop, hc, roots_plant]

end Forest

namespace Node

variable {σ : Type} {root : Value} {w w' w₁ w₂ : World σ}

-- The nodes under a root have the lists of children that they had, and the same nodes in them.
def Still (root : Value) (w w' : World σ) : Prop :=
  ∀ v, w.store.Under root v → w'.store.childrenOf? v = w.store.childrenOf? v

-- Nothing happens to the children of the nodes under a root but that new trees are added to a node
-- that has its list of children for itself, once or several times.
inductive Grows (root : Value) : World σ → World σ → Prop where
  | still {w w' : World σ} (same : Still root w w') : Grows root w w'
  | add {w w' : World σ} {v holder r : Value} {items args : List Value} {fresh : Forest Value}
      (children : w.store.childrenOf? v = some (holder, items))
      (own : ∀ u items', w.store.childrenOf? u = some (holder, items') → u = v)
      (nodes : args.flatMap (contribution w.store) = fresh.roots)
      (forest : fresh.In w.store) (distinct : fresh.labels.Nodup)
      (new : ∀ u ∈ fresh.labels, ¬w.store.Under root u)
      (run : addChildren v args w = .ok r w') : Grows root w w'
  | trans {w w₁ w₂ : World σ} (first : Grows root w w₁) (rest : Grows root w₁ w₂) : Grows root w w₂

theorem Still.lengthens (h : Still root w w') : Store.Lengthens root w.store w'.store :=
  fun v _ _ hv hc => ⟨[], by rw [h v hv, hc, List.append_nil]⟩

theorem Still.trans (h : Still root w w₁) (h' : Still root w₁ w₂) : Still root w w₂ :=
  fun v hv => (h' v (h.lengthens.under hv)).trans (h v hv)

theorem Still.forest {f : Forest Value} (h : Still root w w') (hin : f.In w.store)
    (hroots : ∀ u ∈ f.roots, w.store.Under root u) : f.In w'.store :=
  hin.congr fun v hv _ hc => (h v (Forest.under_of_mem_labels hin hroots hv)).trans hc

-- An addition is seen at the node, and nowhere else.
theorem childrenOf?_addChildren {v holder r : Value} {items args : List Value}
    (hc : w.store.childrenOf? v = some (holder, items))
    (hown : ∀ u items', w.store.childrenOf? u = some (holder, items') → u = v)
    (hrun : addChildren v args w = .ok r w') (u : Value) :
    w'.store.childrenOf? u =
      if u = v then some (holder, items ++ args.flatMap (contribution w.store))
      else w.store.childrenOf? u := by
  obtain ⟨-, rfl⟩ := addChildren_ok hc hrun
  obtain ⟨-, -, -, hlist⟩ := Store.childrenOf?_eq_some hc
  by_cases hu : u = v
  · subst hu
    rw [if_pos rfl, Store.childrenOf?_put_here hc]
  · rw [if_neg hu, Store.childrenOf?_put_list hlist]
    cases hcu : w.store.childrenOf? u with
    | none => rfl
    | some c =>
        have hother : c.1 ≠ holder := fun he => hu (hown u c.2 (by rw [← he, hcu]))
        simp [hother]

namespace Grows

theorem refl (root : Value) (w : World σ) : Grows root w w := .still fun _ _ => rfl

theorem lengthens (h : Grows root w w') : Store.Lengthens root w.store w'.store := by
  induction h with
  | still same => exact same.lengthens
  | @add w w' v holder r items args fresh hc hown _ _ _ _ hrun =>
      intro u holder' items' _ hcu
      rw [childrenOf?_addChildren hc hown hrun]
      by_cases hu : u = v
      · subst hu
        cases hc.symm.trans hcu
        exact ⟨_, if_pos rfl⟩
      · exact ⟨[], by rw [if_neg hu, hcu, List.append_nil]⟩
  | trans _ _ ih ih' => exact ih.trans ih'

-- A forest under the root is still there, with more trees in it.
theorem forest {f : Forest Value} (h : Grows root w w') (hin : f.In w.store)
    (hdistinct : f.labels.Nodup) (hroots : ∀ u ∈ f.roots, w.store.Under root u) :
    ∃ g : Forest Value, g.In w'.store ∧ g.labels.Nodup ∧ g.roots = f.roots ∧
      f.Grown (w.store.Under root) g := by
  induction h generalizing f with
  | still same => exact ⟨f, same.forest hin hroots, hdistinct, rfl, .refl _ f⟩
  | @add w w' v holder r items args fresh hc hown hnodes hforest hfresh hnew hrun =>
      have hunder : ∀ u ∈ f.labels, w.store.Under root u :=
        fun u hu => Forest.under_of_mem_labels hin hroots hu
      have hchange := childrenOf?_addChildren hc hown hrun
      refine ⟨f.plant v fresh, ?_, ?_, Forest.roots_plant v f fresh, Forest.grown_plant v hnew f⟩
      · refine hin.plant (fun u _ hu => by rw [hchange, if_neg hu]) (fun holder' items' hc' => ?_)
          fun hv => hforest.congr fun u hu c hcu => ?_
        · cases hc.symm.trans hc'
          rw [hchange, if_pos rfl, hnodes]
        · have hne : u ≠ v := fun he => hnew u hu (he ▸ hunder v hv)
          rw [hchange, if_neg hne, hcu]
      · exact Forest.nodup_plant hdistinct hfresh fun u hu hmem => hnew u hmem (hunder u hu)
  | trans first _ ih ih' =>
      obtain ⟨g, hg, hgnodup, hgroots, hgrown⟩ := ih hin hdistinct hroots
      have hroots' : ∀ u ∈ g.roots, _ :=
        fun u hu => first.lengthens.under (hroots u (hgroots ▸ hu))
      obtain ⟨k, hk, hknodup, hkroots, hgrown'⟩ := ih' hg hgnodup hroots'
      exact ⟨k, hk, hknodup, hkroots.trans hgroots,
        hgrown.trans (hgrown'.weaken fun u hu => first.lengthens.under hu)⟩

end Grows

-- Calls that all succeed, and in none of which anything but growth happens.
inductive Advances (root : Value) (visit : Value → Nat → Phase → Run σ Unit) :
    List (Call Value) → World σ → World σ → Prop where
  | nil (w : World σ) : Advances root visit [] w w
  | cons {c : Call Value} {calls : List (Call Value)} {w w₁ w₂ : World σ}
      (call : makeCall visit c w = .ok () w₁) (growth : Grows root w w₁)
      (rest : Advances root visit calls w₁ w₂) : Advances root visit (c :: calls) w w₂

namespace Advances

variable {visit : Value → Nat → Phase → Run σ Unit} {xs ys zs : List (Call Value)} {a b : World σ}

theorem leads (h : Advances root visit xs w w') : Leads visit xs w w' := by
  induction h with
  | nil w => exact .nil w
  | cons hcall _ _ ih => exact leads_append.mpr ⟨_, leads_singleton.mpr hcall, ih⟩

theorem grows (h : Advances root visit xs w w') : Grows root w w' := by
  induction h with
  | nil w => exact .refl root w
  | cons _ hgrowth _ ih => exact hgrowth.trans ih

theorem append (h : Advances root visit xs w w₁) (h' : Advances root visit ys w₁ w₂) :
    Advances root visit (xs ++ ys) w w₂ := by
  induction h with
  | nil => exact h'
  | cons hcall hgrowth _ ih => exact .cons hcall hgrowth (ih h')

theorem split (h : Advances root visit (xs ++ ys) w w₂) :
    ∃ w₁, Advances root visit xs w w₁ ∧ Advances root visit ys w₁ w₂ := by
  induction xs generalizing w with
  | nil => exact ⟨w, .nil w, h⟩
  | cons c xs ih =>
      cases h with
      | cons hcall hgrowth hrest =>
          obtain ⟨w₁, hxs, hys⟩ := ih hrest
          exact ⟨w₁, .cons hcall hgrowth hxs, hys⟩

-- Between any two of the calls there is nothing but growth.
theorem between (h : Advances root visit (xs ++ ys ++ zs) w w') (ha : Leads visit xs w a)
    (hb : Leads visit (xs ++ ys) w b) : Grows root a b := by
  obtain ⟨_, hfirst, -⟩ := h.split
  obtain ⟨_, hxs, hys⟩ := hfirst.split
  cases hfirst.leads.unique hb
  cases hxs.leads.unique ha
  exact hys.grows

end Advances

end Node

end ParseKit

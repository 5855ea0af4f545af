import ParseKit.Proofs.Forest.Basic
import ParseKit.Proofs.Store.Extends

namespace ParseKit

namespace Store

-- The list that a node has its children in, and the children.
def childrenOf? (s : Store) (v : Value) : Option (Value × List Value) := do
  let p ← s.node? v
  let items ← s.list? p.children
  return (p.children, items)

-- A node that is reached from another one by going down a number of times.
inductive Descends (s : Store) : Value → Nat → Value → Prop where
  | refl (v : Value) : Descends s v 0 v
  | step {v holder child u : Value} {items : List Value} {depth : Nat}
      (children : s.childrenOf? v = some (holder, items)) (mem : child ∈ items)
      (rest : Descends s child depth u) : Descends s v (depth + 1) u

-- No node gets other children, or another list for them.
def KeepsChildren (s s' : Store) : Prop :=
  ∀ v children, s.childrenOf? v = some children → s'.childrenOf? v = some children

theorem KeepsChildren.refl (s : Store) : KeepsChildren s s := fun _ _ h => h

theorem KeepsChildren.trans {s₁ s₂ s₃ : Store} (h : KeepsChildren s₁ s₂)
    (h' : KeepsChildren s₂ s₃) : KeepsChildren s₁ s₃ :=
  fun v children hc => h' v children (h v children hc)

theorem elements_list {s : Store} {v : Value} {items : List Value}
    (h : s.get? v = some (.list items)) : s.elements v = .ok items := by
  cases v with
  | ref id => simp [elements, elements?, h]
  | _ => cases h

theorem childrenOf?_eq_some {s : Store} {v holder : Value} {items : List Value}
    (h : s.childrenOf? v = some (holder, items)) :
    ∃ p, s.get? v = some (.node p) ∧ p.children = holder ∧
      s.get? holder = some (.list items) := by
  simp only [childrenOf?, Option.bind_eq_bind, Option.bind_eq_some_iff, Option.pure_def,
    Option.some.injEq, Prod.mk.injEq] at h
  obtain ⟨p, hnode, items', hlist, rfl, rfl⟩ := h
  exact ⟨p, node?_eq_some_iff.mp hnode, rfl, list?_eq_some_iff.mp hlist⟩

theorem childrenOf?_of_get? {s : Store} {v : Value} {p : NodeParts} {items : List Value}
    (hnode : s.get? v = some (.node p)) (hlist : s.get? p.children = some (.list items)) :
    s.childrenOf? v = some (p.children, items) := by
  simp [childrenOf?, node?_eq_some_iff.mpr hnode, list?_eq_some_iff.mpr hlist]

theorem Extends.keepsChildren {s s' : Store} (h : s.Extends s') : KeepsChildren s s' := by
  rintro v ⟨holder, items⟩ hv
  obtain ⟨p, hnode, rfl, hlist⟩ := childrenOf?_eq_some hv
  exact childrenOf?_of_get? (h _ _ hnode) (h _ _ hlist)

theorem keepsChildren_put {s : Store} {v : Value} {p p' : NodeParts}
    (hnode : s.get? v = some (.node p)) (hsame : p'.children = p.children) :
    KeepsChildren s (s.put v (.node p')) := by
  rintro u ⟨holder, items⟩ hu
  obtain ⟨q, hq, rfl, hlist⟩ := childrenOf?_eq_some hu
  have hother : q.children ≠ v := ne_of_get? hlist hnode (by simp)
  by_cases huv : u = v
  · subst u
    have hqp : q = p := by simpa [hnode] using hq.symm
    subst hqp
    have hlist' : (s.put v (.node p')).get? p'.children = some (.list items) := by
      rw [hsame, get?_put_elsewhere s _ hother, hlist]
    rw [← hsame]
    exact childrenOf?_of_get? (get?_put_here _ hnode) hlist'
  · exact childrenOf?_of_get? (by rw [get?_put_elsewhere s _ huv, hq])
      (by rw [get?_put_elsewhere s _ hother, hlist])

section Lists

variable {s : Store} {holder : Value} {old : List Value}

theorem node?_put_list (hlist : s.get? holder = some (.list old)) (new : List Value) (v : Value) :
    (s.put holder (.list new)).node? v = s.node? v := by
  unfold node?
  by_cases hv : v = holder
  · subst hv
    rw [get?_put_here _ hlist, hlist]
  · rw [get?_put_elsewhere s _ hv]

theorem list?_put_list (hlist : s.get? holder = some (.list old)) (new : List Value) (v : Value) :
    (s.put holder (.list new)).list? v = if v = holder then some new else s.list? v := by
  by_cases hv : v = holder
  · subst hv
    rw [if_pos rfl]
    exact list?_eq_some_iff.mpr (get?_put_here _ hlist)
  · rw [if_neg hv]
    unfold list?
    rw [get?_put_elsewhere s _ hv]

-- The nodes that have their children in the list get the new ones, and no other node does.
theorem childrenOf?_put_list (hlist : s.get? holder = some (.list old)) (new : List Value)
    (v : Value) :
    (s.put holder (.list new)).childrenOf? v =
      (s.childrenOf? v).map fun c => if c.1 = holder then (holder, new) else c := by
  simp only [childrenOf?, node?_put_list hlist, list?_put_list hlist]
  cases hnode : s.node? v with
  | none => rfl
  | some p =>
      by_cases hp : p.children = holder
      · simp [hp, list?_eq_some_iff.mpr hlist]
      · cases hl : s.list? p.children <;> simp [hl, hp]

theorem childrenOf?_put_here {v : Value} (hc : s.childrenOf? v = some (holder, old))
    (new : List Value) :
    (s.put holder (.list new)).childrenOf? v = some (holder, new) := by
  obtain ⟨-, -, -, hlist⟩ := childrenOf?_eq_some hc
  simp [childrenOf?_put_list hlist, hc]

end Lists

end Store

namespace Forest

-- The store holds the nodes of a forest: each has the roots of the forest below it as children.
def In (s : Store) : Forest Value → Prop
  | nil => True
  | cons v below beside =>
    (∃ holder, s.childrenOf? v = some (holder, below.roots)) ∧ below.In s ∧ beside.In s

theorem In.append {s : Store} {f g : Forest Value} (hf : f.In s) (hg : g.In s) :
    (f.append g).In s := by
  induction f with
  | nil => exact hg
  | cons v below beside _ ihs => exact ⟨hf.1, hf.2.1, ihs hf.2.2⟩

-- A forest stays where its nodes keep their children.
theorem In.congr {s s' : Store} {f : Forest Value} (h : f.In s)
    (hsame : ∀ v ∈ f.labels, ∀ c, s.childrenOf? v = some c → s'.childrenOf? v = some c) :
    f.In s' := by
  induction f with
  | nil => trivial
  | cons v below beside ihb ihs =>
      obtain ⟨⟨holder, hc⟩, hbelow, hbeside⟩ := h
      exact ⟨⟨holder, hsame v (by simp [mem_labels_cons]) _ hc⟩,
        ihb hbelow fun u hu => hsame u (by simp [mem_labels_cons, hu]),
        ihs hbeside fun u hu => hsame u (by simp [mem_labels_cons, hu])⟩

theorem In.keep {s s' : Store} {f : Forest Value} (h : f.In s)
    (hkeep : Store.KeepsChildren s s') : f.In s' :=
  h.congr fun v _ => hkeep v

theorem size_le {s : Store} {f : Forest Value} (h : f.In s) (hdistinct : f.labels.Nodup) :
    f.size ≤ s.size := by
  rw [← length_labels]
  refine Store.length_le_size hdistinct fun v hv => ?_
  clear hdistinct
  induction f with
  | nil => cases hv
  | cons root below beside ihb ihs =>
      obtain ⟨⟨holder, hc⟩, hbelow, hbeside⟩ := h
      rw [mem_labels_cons] at hv
      rcases hv with rfl | hv | hv
      · obtain ⟨p, hnode, -⟩ := Store.childrenOf?_eq_some hc
        rw [hnode]
        simp
      · exact ihb hbelow hv
      · exact ihs hbeside hv

-- The calls of a walk are made for what can be reached from the roots, and their depth is the
-- number of steps from there.
theorem mem_calls_iff {s : Store} {f : Forest Value} (h : f.In s) (depth : Nat) (v : Value)
    (e : Nat) (phase : Phase) :
    ⟨v, e, phase⟩ ∈ f.calls depth ↔ ∃ u ∈ f.roots, ∃ k, e = depth + k ∧ s.Descends u k v := by
  induction f generalizing depth with
  | nil => simp [calls, roots]
  | cons root below beside ihb ihs =>
      obtain ⟨⟨holder, hc⟩, hbelow, hbeside⟩ := h
      have hb := ihb hbelow (depth + 1)
      have hs := ihs hbeside depth
      simp only [calls, roots, List.cons_append, List.mem_cons, List.mem_append, hb, hs,
        Call.mk.injEq]
      constructor
      · rintro (⟨rfl, rfl, -⟩ | ⟨u, hu, k, rfl, hd⟩ | ⟨rfl, rfl, -⟩ | ⟨u, hu, hd⟩)
        · exact ⟨v, Or.inl rfl, 0, rfl, .refl v⟩
        · exact ⟨root, Or.inl rfl, k + 1, by omega, .step hc hu hd⟩
        · exact ⟨v, Or.inl rfl, 0, rfl, .refl v⟩
        · exact ⟨u, Or.inr hu, hd⟩
      · rintro ⟨u, rfl | hu, k, rfl, hd⟩
        · cases hd with
          | refl =>
              cases phase with
              | before => exact Or.inl ⟨rfl, rfl, rfl⟩
              | after => exact Or.inr (Or.inr (Or.inl ⟨rfl, rfl, rfl⟩))
          | @step _ _ child _ items k hc' hmem hd =>
              obtain ⟨-, rfl⟩ := Prod.mk.inj (Option.some.inj (hc.symm.trans hc'))
              exact Or.inr (Or.inl ⟨child, hmem, k, by omega, hd⟩)
        · exact Or.inr (Or.inr (Or.inr ⟨u, hu, k, rfl, hd⟩))

-- Everything below a node is visited between the two calls for the node itself.
theorem exists_infix {s : Store} {f : Forest Value} (h : f.In s) {depth e : Nat} {v : Value}
    {phase : Phase} (hv : ⟨v, e, phase⟩ ∈ f.calls depth) :
    ∃ (below : Forest Value) (holder : Value),
      s.childrenOf? v = some (holder, below.roots) ∧ below.In s ∧
      (⟨v, e, .before⟩ :: below.calls (e + 1) ++ [⟨v, e, .after⟩]) <:+: f.calls depth := by
  induction f generalizing depth with
  | nil => simp [calls] at hv
  | cons root below beside ihb ihs =>
      obtain ⟨⟨holder, hc⟩, hbelow, hbeside⟩ := h
      have hself : ⟨root, depth, .before⟩ :: below.calls (depth + 1) ++ [⟨root, depth, .after⟩] <:+:
          (cons root below beside).calls depth :=
        ⟨[], beside.calls depth, by simp [calls]⟩
      simp only [calls, List.cons_append, List.mem_cons, List.mem_append, Call.mk.injEq] at hv
      rcases hv with ⟨rfl, rfl, -⟩ | hv | ⟨rfl, rfl, -⟩ | hv
      · exact ⟨below, holder, hc, hbelow, hself⟩
      · obtain ⟨inner, holder', hc', hin, hinfix⟩ := ihb hbelow hv
        refine ⟨inner, holder', hc', hin, hinfix.trans ?_⟩
        exact ⟨[⟨root, depth, .before⟩], ⟨root, depth, .after⟩ :: beside.calls depth,
          by simp [calls]⟩
      · exact ⟨below, holder, hc, hbelow, hself⟩
      · obtain ⟨inner, holder', hc', hin, hinfix⟩ := ihs hbeside hv
        refine ⟨inner, holder', hc', hin, hinfix.trans ?_⟩
        exact ⟨⟨root, depth, .before⟩ :: below.calls (depth + 1) ++ [⟨root, depth, .after⟩], [],
          by simp [calls]⟩

-- The calls for a proper descendant stand between those for the node.
theorem sublist_of_descends {s : Store} {f : Forest Value} (h : f.In s) {depth e k : Nat}
    {v u : Value} {phase : Phase} (hv : ⟨v, e, phase⟩ ∈ f.calls depth)
    (hu : s.Descends v (k + 1) u) (p : Phase) :
    [⟨v, e, .before⟩, ⟨u, e + (k + 1), p⟩, ⟨v, e, .after⟩].Sublist (f.calls depth) := by
  obtain ⟨below, holder, hc, hin, hinfix⟩ := exists_infix h hv
  cases hu with
  | @step _ _ child _ items _ hc' hmem hd =>
      obtain ⟨-, rfl⟩ := Prod.mk.inj (Option.some.inj (hc.symm.trans hc'))
      have hcall : ⟨u, e + (k + 1), p⟩ ∈ below.calls (e + 1) :=
        (mem_calls_iff hin (e + 1) u (e + (k + 1)) p).mpr ⟨child, hmem, k, by omega, hd⟩
      refine List.Sublist.trans ?_ hinfix.sublist
      exact ((List.singleton_sublist.mpr hcall).append (List.Sublist.refl _)).cons_cons _

end Forest

end ParseKit

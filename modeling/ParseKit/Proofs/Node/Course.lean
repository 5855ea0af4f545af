import ParseKit.Proofs.Forest.Closing
import ParseKit.Proofs.Node.Growth
import ParseKit.Proofs.Node.Stages

namespace ParseKit.Node

variable {σ : Type}

-- A visitor in whose calls nothing happens to the children of the nodes under the root but growth,
-- and not even that after so many calls.
def Growing (mode : WalkMode) (visit : Value → Nat → Phase → Run σ Unit) (root : Value)
    (w₀ : World σ) (bound : Nat) : Prop :=
  ∀ stage c w, Reaches mode visit root w₀ stage → stage.due = some c →
    mode.asks c.phase = true → makeCall visit c stage.world = .ok () w →
    Grows root stage.world w ∧ (bound ≤ stage.made.length → Still root stage.world w)

-- Calls that all succeed, and how many are still allowed to add something before and after them.
structure Course (root : Value) (visit : Value → Nat → Phase → Run σ Unit) (bound n m : Nat)
    (made calls : List (Call Value)) (w w' : World σ) : Prop where
  advances : Advances root visit calls w w'
  before : bound - made.length = n
  after : bound - (made ++ calls).length = m
  still : m = n → Still root w w'

-- An open node that has been reached, its list of children, and all that is below it.
structure Open (root : Value) (w : World σ) (p : Value) (depth : Nat) (holder : Value)
    (f : Forest Value) : Prop where
  list : w.store.childrenOf? p = some (holder, f.roots)
  below : f.In w.store
  distinct : (Forest.cons p f .nil).labels.Nodup
  reached : w.store.Descends root depth p

-- When one of the nodes of a forest is closed, its children are those that have been visited.
def Settled (mode : WalkMode) (visit : Value → Nat → Phase → Run σ Unit) (root : Value)
    (f : Forest Value) (depth : Nat) (w : World σ) : Prop :=
  ∀ calls v e inner, f.Closes depth calls v e inner →
    ∃ w', Leads visit (selected mode calls) w w' ∧ w'.store.Descends root e v ∧
      w'.store.children v = inner.roots

variable {mode : WalkMode} {visit : Value → Nat → Phase → Run σ Unit} {root : Value}
  {w₀ w w' w₁ w₂ : World σ} {bound n m k : Nat}
  {made xs ys : List (Call Value)} {opened : List Frame} {depth : Nat} {p x holder : Value}
  {f g below beside : Forest Value}

namespace Course

theorem nil (h : bound - made.length = n) : Course root visit bound n n made [] w w where
  advances := .nil w
  before := h
  after := by rwa [List.append_nil]
  still _ _ _ := rfl

theorem le (h : Course root visit bound n m made xs w w') : m ≤ n := by
  have hlength : (made ++ xs).length = made.length + xs.length := List.length_append
  have hbefore := h.before
  have hafter := h.after
  omega

theorem append (h : Course root visit bound n m made xs w w₁)
    (h' : Course root visit bound m k (made ++ xs) ys w₁ w₂) :
    Course root visit bound n k made (xs ++ ys) w w₂ where
  advances := h.advances.append h'.advances
  before := h.before
  after := by
    rw [← List.append_assoc]
    exact h'.after
  still he := by
    have hle := h.le
    have hle' := h'.le
    exact (h.still (by omega)).trans (h'.still (by omega))

-- A call that is due, or is passed over.
theorem of_due {c : Call Value} (hgrow : Growing mode visit root w₀ bound)
    (hreach : Reaches mode visit root w₀ ⟨some c, opened, made, w⟩)
    (hleft : bound - made.length = n) (hcall : Leads visit (selected mode [c]) w w') :
    ∃ m, Course root visit bound n m made (selected mode [c]) w w' := by
  rcases leads_due hcall with ⟨hvisits, hone, hrun⟩ | ⟨hnone, rfl⟩
  · rw [hone]
    obtain ⟨hgrows, hstill⟩ := hgrow _ c w' hreach rfl hvisits hrun
    refine ⟨_, .cons hrun hgrows (.nil w'), hleft, rfl, fun he => hstill ?_⟩
    have hlength : (made ++ [c]).length = made.length + 1 := by simp
    dsimp only
    omega
  · rw [hnone]
    exact ⟨n, .nil hleft⟩

end Course

namespace Open

theorem still (h : Open root w p depth holder f) (hstill : Still root w w') :
    Open root w' p depth holder f where
  list := by rw [hstill p ⟨depth, h.reached⟩, h.list]
  below := hstill.forest h.below fun u hu =>
    ⟨depth + 1, h.reached.child (Store.children_eq h.list ▸ hu)⟩
  distinct := h.distinct
  reached := hstill.lengthens.from_root h.reached

theorem grows (h : Open root w p depth holder f) (hgrows : Grows root w w') :
    ∃ g, Open root w' p depth holder g ∧ f.Grown (w.store.Under root) g := by
  have htree : (Forest.cons p f .nil).In w.store := ⟨⟨holder, h.list⟩, h.below, trivial⟩
  have hroots : ∀ u ∈ (Forest.cons p f .nil).roots, w.store.Under root u := by
    intro u hu
    simp only [Forest.roots, List.mem_singleton] at hu
    exact ⟨depth, hu ▸ h.reached⟩
  obtain ⟨_, hin, hdistinct, hsame, hgrown⟩ := hgrows.forest htree h.distinct hroots
  cases hgrown with
  | @cons _ _ g _ beside hunder _ =>
      cases beside with
      | cons => simp [Forest.roots] at hsame
      | nil =>
          obtain ⟨⟨holder', hc'⟩, hbelow, -⟩ := hin
          obtain ⟨more, hc⟩ := hgrows.lengthens p holder _ ⟨depth, h.reached⟩ h.list
          obtain ⟨rfl, -⟩ := Prod.mk.inj (Option.some.inj (hc'.symm.trans hc))
          exact ⟨g, ⟨hc', hbelow, hdistinct, hgrows.lengthens.from_root h.reached⟩, hunder⟩

theorem course (h : Open root w p depth holder f)
    (hcourse : Course root visit bound n m made xs w w') :
    ∃ g, Open root w' p depth holder g ∧ f.Grown (w.store.Under root) g ∧ (m = n → g = f) := by
  by_cases hm : m = n
  · exact ⟨f, h.still (hcourse.still hm), .refl _ f, fun _ => rfl⟩
  · obtain ⟨g, hopen, hgrown⟩ := h.grows hcourse.advances.grows
    exact ⟨g, hopen, hgrown, fun he => absurd he hm⟩

-- The next one of the trees below a node.
theorem child {place : Nat} (h : Open root w p depth holder f)
    (hnext : f.drop place = .cons x below beside) :
    ∃ holder', Open root w x (depth + 1) holder' below := by
  obtain ⟨⟨holder', hc⟩, hbelow, -⟩ := hnext ▸ h.below.drop place
  have hroot : x ∈ f.roots := by
    have hmem : x ∈ (f.drop place).roots := by simp [hnext, Forest.roots]
    rw [Forest.roots_drop] at hmem
    exact List.mem_of_mem_drop hmem
  have hlabels : (Forest.cons x below .nil).labels.Sublist (Forest.cons p f .nil).labels := by
    have hfirst : (Forest.cons x below .nil).labels.Sublist (f.drop place).labels := by
      rw [hnext, Forest.labels, Forest.labels]
      exact (List.Sublist.refl _).append (List.nil_sublist _)
    have hall : (Forest.cons p f .nil).labels = p :: f.labels := by simp [Forest.labels]
    rw [hall]
    exact (hfirst.trans (Forest.labels_drop_sublist place f)).cons p
  exact ⟨holder', hc, hbelow, h.distinct.sublist hlabels,
    h.reached.child (Store.children_eq h.list ▸ hroot)⟩

end Open

namespace Settled

theorem nil : Settled mode visit root .nil depth w := by
  intro calls v e inner h
  cases h

theorem tree (hbefore : Leads visit (selected mode [⟨x, depth, .before⟩]) w w₁)
    (hinner : Settled mode visit root below (depth + 1) w₁)
    (hbelow : Leads visit (selected mode (below.calls (depth + 1))) w₁ w₂)
    (hreached : w₂.store.Descends root depth x) (hchildren : w₂.store.children x = below.roots) :
    Settled mode visit root (.cons x below .nil) depth w := by
  intro calls v e inner h
  cases h with
  | here =>
      refine ⟨w₂, ?_, hreached, hchildren⟩
      rw [selected_cons]
      exact leads_append.mpr ⟨w₁, hbefore, hbelow⟩
  | under h =>
      obtain ⟨w', hcalls, hdown, hroots⟩ := hinner _ _ _ _ h
      refine ⟨w', ?_, hdown, hroots⟩
      rw [selected_cons]
      exact leads_append.mpr ⟨w₁, hbefore, hcalls⟩
  | behind h => cases h

theorem append (hfirst : Settled mode visit root (.cons x below .nil) depth w)
    (hcalls : Leads visit (selected mode ((Forest.cons x below .nil).calls depth)) w w₁)
    (hrest : Settled mode visit root beside depth w₁) :
    Settled mode visit root (.cons x below beside) depth w := by
  intro calls v e inner h
  cases h with
  | here => exact hfirst _ _ _ _ (.here x below .nil depth)
  | under h => exact hfirst _ _ _ _ (.under h)
  | @behind _ _ _ _ _ _ calls _ h =>
      obtain ⟨w', hlater, hdown, hroots⟩ := hrest _ _ _ _ h
      refine ⟨w', ?_, hdown, hroots⟩
      have hsplit : ⟨x, depth, .before⟩ :: below.calls (depth + 1) ++ ⟨x, depth, .after⟩ :: calls =
          (Forest.cons x below .nil).calls depth ++ calls := by
        simp [Forest.calls]
      rw [hsplit, selected_append]
      exact leads_append.mpr ⟨w₁, hcalls, hlater⟩

end Settled

-- The walk over a node is one of the calls for it and for a forest below it, if there are so many
-- steps for it.
structure Visits (mode : WalkMode) (visit : Value → Nat → Phase → Run σ Unit) (root : Value)
    (w₀ : World σ) (bound n : Nat) (x : Value) (depth : Nat) (opened : List Frame)
    (made : List (Call Value)) (w : World σ) (inner : Forest Value) (enough : Nat) : Prop where
  run : ∀ fuel ≥ enough, walkNode mode (listing visit) fuel made x depth w =
    visitAll (listing visit) made (selected mode ((Forest.cons x inner .nil).calls depth)) w
  done : ∀ w', Leads visit (selected mode ((Forest.cons x inner .nil).calls depth)) w w' → ∃ m,
    Course root visit bound n m made
      (selected mode ((Forest.cons x inner .nil).calls depth)) w w' ∧
    Reaches mode visit root w₀ ⟨none, opened,
      made ++ selected mode ((Forest.cons x inner .nil).calls depth), w'⟩ ∧
    Settled mode visit root (.cons x inner .nil) depth w

-- The loop over the children of an open node goes through the trees that are still to come in it
-- and through those that come behind them meanwhile.
def Covers (mode : WalkMode) (visit : Value → Nat → Phase → Run σ Unit) (root : Value)
    (w₀ : World σ) (bound n : Nat) (p : Value) (depth : Nat) (loop : Loop) (opened : List Frame)
    (made : List (Call Value)) (w : World σ) (done : List Value) (f : Forest Value) : Prop :=
  ∃ visited enough,
    f.Grown (w.store.Under root) visited ∧
    (∀ fuel ≥ enough, walkChildren mode (listing visit) fuel made depth loop w =
      visitAll (listing visit) made (selected mode (visited.calls (depth + 1))) w) ∧
    ∀ w', Leads visit (selected mode (visited.calls (depth + 1))) w w' → ∃ m,
      Course root visit bound n m made (selected mode (visited.calls (depth + 1))) w w' ∧
      Reaches mode visit root w₀ ⟨some ⟨p, depth, .after⟩, opened,
        made ++ selected mode (visited.calls (depth + 1)), w'⟩ ∧
      Settled mode visit root visited (depth + 1) w ∧
      w'.store.children p = done ++ visited.roots

namespace Visits

-- The call that opens the node fails.
theorem stuck (hstuck : ¬∃ w₁, Leads visit (selected mode [⟨x, depth, .before⟩]) w w₁)
    (below : Forest Value) : Visits mode visit root w₀ bound n x depth opened made w below 1 where
  run fuel hfuel := by
    obtain ⟨fuel, rfl⟩ := Nat.exists_eq_add_of_le' hfuel
    rw [selected_calls_tree, walkNode_succ, visitAll_append]
    refine Run.bind_congr rfl fun made₁ w₁ hfirst => ?_
    exact absurd ⟨w₁, (visitAll_listing_ok.mp hfirst).2⟩ hstuck
  done w' hcalls := by
    rw [selected_calls_tree] at hcalls
    obtain ⟨w₁, hfirst, -⟩ := leads_append.mp hcalls
    exact absurd ⟨w₁, hfirst⟩ hstuck

-- The node is opened, and the loop over its children comes next.
theorem through {loop : Loop} {m₁ : Nat} (hgrow : Growing mode visit root w₀ bound)
    (hbefore : Leads visit (selected mode [⟨x, depth, .before⟩]) w w₁)
    (hcourse₁ : Course root visit bound n m₁ made (selected mode [⟨x, depth, .before⟩]) w w₁)
    (hreached : w₁.store.Descends root depth x)
    (hover : Loop.overChildren w₁.store x = .ok loop)
    (hcovers : Covers mode visit root w₀ bound m₁ x depth loop opened
      (made ++ selected mode [⟨x, depth, .before⟩]) w₁ [] g) :
    ∃ inner enough, g.Grown (w₁.store.Under root) inner ∧
      Visits mode visit root w₀ bound n x depth opened made w inner enough := by
  obtain ⟨inner, enough, hinner, hrun, hdone⟩ := hcovers
  refine ⟨inner, enough + 1, hinner, ⟨fun fuel hfuel => ?_, fun w' hcalls => ?_⟩⟩
  · obtain ⟨fuel, rfl⟩ := Nat.exists_eq_add_of_le' (Nat.le_of_add_left_le hfuel)
    rw [selected_calls_tree, walkNode_succ, visitAll_append]
    refine Run.bind_congr rfl fun made₁ w₁' hfirst => ?_
    obtain ⟨rfl, hcall⟩ := visitAll_listing_ok.mp hfirst
    cases hcall.unique hbefore
    rw [Run.bind_apply, Run.inspect_ok hover, visitAll_append]
    exact Run.bind_congr (hrun fuel (Nat.le_of_succ_le_succ hfuel)) fun _ _ _ => rfl
  · rw [selected_calls_tree] at hcalls ⊢
    obtain ⟨_, hfirst, hrest⟩ := leads_append.mp hcalls
    cases hfirst.unique hbefore
    obtain ⟨w₂, hbelow, hafter⟩ := leads_append.mp hrest
    obtain ⟨m₂, hcourse₂, hreach₂, hsettled, hchildren⟩ := hdone w₂ hbelow
    obtain ⟨m₃, hcourse₃⟩ := Course.of_due hgrow hreach₂ hcourse₂.after hafter
    refine ⟨m₃, hcourse₁.append (hcourse₂.append hcourse₃), ?_, .tree hbefore hsettled hbelow
      (hcourse₂.advances.grows.lengthens.from_root hreached) hchildren⟩
    have hreach₃ := hreach₂.next (.leave hafter)
    simpa only [List.append_assoc] using hreach₃

end Visits

namespace Covers

-- The loop has come to the end of the list.
theorem finish {loop : Loop} (hopen : Open root w p depth loop.holder g)
    (hover : g.roots.length ≤ loop.place)
    (hreach : Reaches mode visit root w₀ ⟨none, ⟨p, depth, loop⟩ :: opened, made, w⟩)
    (hleft : bound - made.length = n) :
    Covers mode visit root w₀ bound n p depth loop opened made w (g.roots.take loop.place)
      .nil := by
  obtain ⟨-, -, -, hlist⟩ := Store.childrenOf?_eq_some hopen.list
  have hend := Loop.next?_end hlist hover
  refine ⟨.nil, 1, .refl _ .nil, fun fuel hfuel => ?_, fun w' hcalls => ?_⟩
  · obtain ⟨fuel, rfl⟩ := Nat.exists_eq_add_of_le' hfuel
    exact walkChildren_none hend fuel made depth
  · cases hcalls.unique (.nil w)
    refine ⟨n, .nil hleft, ?_, .nil, ?_⟩
    · have hreach' := hreach.next (.finish hend)
      simpa [Forest.calls, selected] using hreach'
    · rw [Store.children_eq hopen.list, List.take_of_length_le hover, Forest.roots,
        List.append_nil]

-- The walk over the next child fails.
theorem stuck {loop loop' : Loop} {inner : Forest Value} {enough : Nat} {done : List Value}
    (hnext : loop.next? w.store = .ok (some (x, loop')))
    (hinner : below.Grown (w.store.Under root) inner)
    (hvisits : Visits mode visit root w₀ bound n x (depth + 1) (⟨p, depth, loop'⟩ :: opened) made w
      inner enough)
    (hstuck : ¬∃ w₁,
      Leads visit (selected mode ((Forest.cons x inner .nil).calls (depth + 1))) w w₁) :
    Covers mode visit root w₀ bound n p depth loop opened made w done (.cons x below beside) := by
  refine ⟨.cons x inner beside, enough + 1, .cons hinner (.refl _ beside), fun fuel hfuel => ?_,
    fun w' hcalls => ?_⟩
  · obtain ⟨fuel, rfl⟩ := Nat.exists_eq_add_of_le' (Nat.le_of_add_left_le hfuel)
    rw [walkChildren_some hnext, selected_calls, ← selected_calls_tree, visitAll_append]
    refine Run.bind_congr (hvisits.run fuel (Nat.le_of_succ_le_succ hfuel))
      fun made₁ w₁ hfirst => ?_
    exact absurd ⟨w₁, (visitAll_listing_ok.mp hfirst).2⟩ hstuck
  · rw [selected_calls, ← selected_calls_tree] at hcalls
    obtain ⟨w₁, hfirst, -⟩ := leads_append.mp hcalls
    exact absurd ⟨w₁, hfirst⟩ hstuck

-- The next child is visited, and the loop goes on behind it, over what is there then.
theorem child {loop loop' : Loop} {inner : Forest Value} {enough : Nat} {done : List Value}
    (hnext : loop.next? w.store = .ok (some (x, loop')))
    (hinner : below.Grown (w.store.Under root) inner)
    (hvisits : Visits mode visit root w₀ bound n x (depth + 1) (⟨p, depth, loop'⟩ :: opened) made w
      inner enough)
    (hthrough : Leads visit (selected mode ((Forest.cons x inner .nil).calls (depth + 1))) w w₁)
    (hcourse : Course root visit bound n m made
      (selected mode ((Forest.cons x inner .nil).calls (depth + 1))) w w₁)
    (hgrown : beside.Grown (w.store.Under root) f)
    (hrest : Covers mode visit root w₀ bound m p depth loop' opened
      (made ++ selected mode ((Forest.cons x inner .nil).calls (depth + 1))) w₁ (done ++ [x]) f) :
    Covers mode visit root w₀ bound n p depth loop opened made w done (.cons x below beside) := by
  obtain ⟨others, enough', hothers, hrun', hdone'⟩ := hrest
  have hbehind := hgrown.trans
    (hothers.weaken fun v hv => hcourse.advances.grows.lengthens.under hv)
  refine ⟨.cons x inner others, max enough enough' + 1, .cons hinner hbehind, fun fuel hfuel => ?_,
    fun w' hcalls => ?_⟩
  · obtain ⟨fuel, rfl⟩ := Nat.exists_eq_add_of_le' (Nat.le_of_add_left_le hfuel)
    rw [walkChildren_some hnext, selected_calls, ← selected_calls_tree, visitAll_append]
    refine Run.bind_congr (hvisits.run fuel (by omega)) fun made₁ w₁' hfirst => ?_
    obtain ⟨rfl, hcalls⟩ := visitAll_listing_ok.mp hfirst
    cases hcalls.unique hthrough
    exact hrun' fuel (by omega)
  · rw [selected_calls, ← selected_calls_tree] at hcalls ⊢
    obtain ⟨_, hfirst, hlater⟩ := leads_append.mp hcalls
    cases hfirst.unique hthrough
    obtain ⟨m', hcourse', hreach', hsettled', hchildren⟩ := hdone' w' hlater
    obtain ⟨-, -, -, hsettled⟩ := hvisits.done w₁ hthrough
    refine ⟨m', hcourse.append hcourse', ?_, hsettled.append hthrough hsettled', ?_⟩
    · simpa only [List.append_assoc] using hreach'
    · rw [hchildren, Forest.roots, List.append_assoc]
      rfl

end Covers

-- A node is visited with everything below it, given what the loop over its children does. If
-- something is added in the call that opens it, then less is left of the growth in that loop.
theorem walkNode_growing (hgrow : Growing mode visit root w₀ bound)
    (hopen : Open root w x depth holder below)
    (hreach : Reaches mode visit root w₀ ⟨some ⟨x, depth, .before⟩, opened, made, w⟩)
    (hleft : bound - made.length = n)
    (hloop : ∀ {m made w loop g}, Open root w x depth loop.holder g → loop.place = 0 →
      Reaches mode visit root w₀ ⟨none, ⟨x, depth, loop⟩ :: opened, made, w⟩ →
      bound - made.length = m → m < n ∨ m = n ∧ g = below →
      Covers mode visit root w₀ bound m x depth loop opened made w [] g) :
    ∃ inner enough, below.Grown (w.store.Under root) inner ∧
      Visits mode visit root w₀ bound n x depth opened made w inner enough := by
  by_cases hbefore : ∃ w₁, Leads visit (selected mode [⟨x, depth, .before⟩]) w w₁
  · obtain ⟨w₁, hbefore⟩ := hbefore
    obtain ⟨m₁, hcourse₁⟩ := Course.of_due hgrow hreach hleft hbefore
    obtain ⟨g, hopen₁, hgrown, hsame⟩ := hopen.course hcourse₁
    have hover := overChildren_eq hopen₁.list
    have hless : m₁ < n ∨ m₁ = n ∧ g = below := by
      by_cases hm : m₁ = n
      · exact Or.inr ⟨hm, hsame hm⟩
      · exact Or.inl (Nat.lt_of_le_of_ne hcourse₁.le hm)
    have hcovers := hloop hopen₁ rfl (hreach.next (.enter hbefore hover)) hcourse₁.after hless
    obtain ⟨inner, enough, hinner, hvisits⟩ :=
      Visits.through hgrow hbefore hcourse₁ hopen₁.reached hover hcovers
    exact ⟨inner, enough, hgrown.trans (hinner.weaken fun v hv =>
      hcourse₁.advances.grows.lengthens.under hv), hvisits⟩
  · exact ⟨below, 1, .refl _ below, .stuck hbefore below⟩

-- By induction on what is left of the growth, and then on the trees that are still to come. Once
-- something has been added the loop goes on over other trees, but with less growth to come.
theorem walkChildren_growing (hgrow : Growing mode visit root w₀ bound) {loop : Loop}
    (hopen : Open root w p depth loop.holder g) (hdrop : g.drop loop.place = f)
    (hreach : Reaches mode visit root w₀ ⟨none, ⟨p, depth, loop⟩ :: opened, made, w⟩)
    (hleft : bound - made.length = n) :
    Covers mode visit root w₀ bound n p depth loop opened made w (g.roots.take loop.place) f := by
  induction n using Nat.strongRecOn generalizing f g p depth loop opened made w with
  | ind n ihn =>
  induction f generalizing g p depth loop opened made w with
  | nil =>
      refine .finish hopen ?_ hreach hleft
      rw [← List.drop_eq_nil_iff, ← Forest.roots_drop, hdrop]
      rfl
  | cons x below beside ihb ihs =>
      obtain ⟨-, -, -, hlist⟩ := Store.childrenOf?_eq_some hopen.list
      have hitem : g.roots[loop.place]? = some x := by
        rw [← List.head?_drop, ← Forest.roots_drop, hdrop]
        rfl
      have hnext := Loop.next?_item hlist hitem
      obtain ⟨holder', hchild⟩ := hopen.child hdrop
      obtain ⟨inner, enough, hinner, hvisits⟩ :=
        walkNode_growing hgrow hchild (hreach.next (.child hnext)) hleft
          fun {m₁ made₁ w₁ loop₁ g₁} hopen₁ hplace hreach₁ hleft₁ hless => by
            have hfirst : g₁.drop loop₁.place = g₁ := by rw [hplace, Forest.drop_zero]
            have hnone : g₁.roots.take loop₁.place = [] := by rw [hplace, List.take_zero]
            rw [← hnone]
            rcases hless with hlt | ⟨rfl, rfl⟩
            · exact ihn m₁ hlt hopen₁ hfirst hreach₁ hleft₁
            · exact ihb hopen₁ hfirst hreach₁ hleft₁
      by_cases hthrough : ∃ w₁,
          Leads visit (selected mode ((Forest.cons x inner .nil).calls (depth + 1))) w w₁
      · obtain ⟨w₁, hthrough⟩ := hthrough
        obtain ⟨m, hcourse, hreach₁, -⟩ := hvisits.done w₁ hthrough
        obtain ⟨g₁, hopen₁, hgrown, hsame⟩ := hopen.course hcourse
        have hbehind := hgrown.drop (loop.place + 1)
        rw [Forest.drop_succ hdrop] at hbehind
        have hbefore : g₁.roots.take (loop.place + 1) = g.roots.take loop.place ++ [x] := by
          have hplace : loop.place < g.roots.length := (List.getElem?_eq_some_iff.mp hitem).1
          obtain ⟨more, hmore⟩ := hgrown.roots_prefix
          rw [← hmore, List.take_append_of_le_length hplace, List.take_add_one, hitem]
          rfl
        refine .child hnext hinner hvisits hthrough hcourse hbehind ?_
        rw [← hbefore]
        by_cases hm : m = n
        · obtain rfl := hsame hm
          subst hm
          rw [Forest.drop_succ hdrop]
          exact ihs hopen₁ (Forest.drop_succ hdrop) hreach₁ hcourse.after
        · exact ihn m (Nat.lt_of_le_of_ne hcourse.le hm) hopen₁ rfl hreach₁ hcourse.after
      · exact .stuck hnext hinner hvisits hthrough

end ParseKit.Node

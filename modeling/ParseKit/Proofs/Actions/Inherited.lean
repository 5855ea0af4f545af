import ParseKit.Proofs.Actions.Generic

namespace ParseKit

variable {σ : Type}

open Run (Continues Ends Fails Gives)

theorem notCallable_fails {α : Type} (v : Value) (s : Store) :
    Fails (notCallable v : Run σ α) s :=
  (Gives.store s).bind_fails (.fail _ s)

namespace Actions

-- What is no node cannot stand below one.
theorem genericNode_fails (host : Host σ) {s : Store} {util builder errorClass data tree u : Value}
    {children subs : List Value} {place : Place} {rule : String}
    (hutil : s.get? util = some (.helpers builder errorClass))
    (hbuilder : s.get? builder = some (.builder .standard))
    (htree : s.get? tree = some (.tree data subs place)) (hdata : s.text? data = some rule)
    (hu : u ∈ children) (hstrange : s.Strange u) :
    Fails (genericNode host util data children tree) s := by
  obtain ⟨item, attributes, nodes, entries, s₁, hext, hrun, -, hentries, hfields, hlist⟩ :=
    genericNode_continues host util htree hdata
  obtain ⟨s₂, s₃, h₂, h₃, hnode⟩ := node_continues host (hext _ _ hutil) (hext _ _ hbuilder) item
    [.text rule, attributes, nodes]
  have hgrown := h₂.trans h₃
  have hmem : u ∈ subtrees s children := by
    obtain ⟨o, ho, -, htoken⟩ := hstrange
    have hnull : u ≠ .null := by
      rintro rfl
      cases ho
    have hnone : token? s u = none := by
      unfold token?
      rw [ho]
      cases o <;> first | rfl | cases htoken
    exact List.mem_filter.mpr ⟨hu, by simp [hnone, hnull]⟩
  have hbuild := Node.buildStandard_fails (σ := σ) (s₂.startPoint item)
    (hgrown.text? (v := .text rule) rfl) (hgrown.entries? hentries)
    (fun e he => (gathered_ordinary hfields e he).1.imp fun t ht => hgrown.text? ht)
    (hgrown.items? hlist) hmem (hgrown.strange (hext.strange hstrange))
  exact hrun.fails (hnode.fails hbuild)

-- What is called by one of the names fails, gives an object of some other kind, or gives back what
-- it is called with. Only one of them gives null.
theorem inherited_ends (host : Host σ) {s : Store} {util builder errorClass : Value} {rule : String}
    {method : Method σ} (hutil : s.get? util = some (.helpers builder errorClass))
    (hbuilder : s.get? builder = some (.builder .standard))
    (hmethod : (generic host).method? util rule = some method) :
    ∃ run, method = .plain run ∧ ∀ u, Ends (run u) s fun v s' =>
      s.Extends s' ∧ (s'.Strange v ∨ v = u ∨ rule = "__init__" ∧ v = .null) := by
  have hfails : ∀ {run : Value → Run σ Value}, (∀ u, Fails (run u) s) →
      ∃ run', Method.plain run = .plain run' ∧ ∀ u, Ends (run' u) s fun v s' =>
        s.Extends s' ∧ (s'.Strange v ∨ v = u ∨ rule = "__init__" ∧ v = .null) :=
    fun h => ⟨_, rfl, fun u => .inl (h u)⟩
  have hobject : ∀ className, ∃ run : Value → Run σ Value, givesObject className = .plain run ∧
      ∀ u, Ends (run u) s fun v s' =>
        s.Extends s' ∧ (s'.Strange v ∨ v = u ∨ rule = "__init__" ∧ v = .null) := fun _ =>
    ⟨_, rfl, fun _ => .inr ⟨_, _, .alloc _ s, .alloc s _,
      .inl ⟨_, Store.get?_alloc_here s _, rfl, rfl⟩⟩⟩
  change inherited? host "GenericActions" "GenericActions" util rule = some method at hmethod
  unfold inherited? at hmethod
  split at hmethod <;> cases hmethod
  case h_1 =>
    refine hfails fun u => ?_
    obtain ⟨s₁, s₂, -, -, hnode⟩ := node_continues host hutil hbuilder u []
    exact hnode.fails (.fail _ _)
  case h_2 | h_7 => exact hfails fun _ => .fail _ s
  case h_3 | h_14 | h_15 | h_16 => exact hfails fun _ => notCallable_fails _ s
  case h_4 | h_5 | h_6 =>
    exact ⟨_, rfl, fun u => .inr ⟨u, s, .pure u s, .refl s, .inr (.inl rfl)⟩⟩
  case h_8 | h_9 => exact hfails fun _ => (Gives.store s).bind_fails (.fail _ s)
  case h_10 | h_11 | h_12 => exact hobject _
  case h_13 =>
    exact ⟨_, rfl, fun _ => .inr ⟨.null, s, .pure _ s, .refl s, .inr (.inr ⟨rfl, rfl⟩)⟩⟩

theorem guarded_ends {x : Run σ Value} {s : Store} {P : Value → Store → Prop} (h : Ends x s P) :
    Ends (guarded x) s P := by
  rcases h with hfails | ⟨v, s', hgives, hv⟩
  · refine .inl fun w hw => ?_
    obtain ⟨e, w', hx⟩ := hfails w hw
    rw [guarded, Run.bind_apply, Run.attempt_apply, hx]
    by_cases hwraps : wraps e = true
    · simp only [hwraps, if_true]
      exact ⟨_, _, rfl⟩
    · simp only [hwraps]
      exact ⟨e, w', rfl⟩
  · refine .inr ⟨v, s', fun w hw => ?_, hv⟩
    rw [guarded, Run.bind_apply, Run.attempt_apply, hgives w hw]
    rfl

-- With a method of its own, a rule goes on with it.
theorem applyRule_method {actions : Actions σ} {s : Store} {util data : Value} {rule : String}
    {method : Method σ} (hdata : s.text? data = some rule)
    (hmethod : actions.method? util rule = some method) (children : List Value) (tree : Value) :
    Continues (applyRule actions util data children tree) s
      (guarded (method.onTree children tree)) s := by
  have hsome : Gives (methodFor actions util data) s (some method) s := by
    refine (Gives.store s).bind ?_
    rw [hdata, ← hmethod]
    exact .pure _ _
  exact hsome.continues _

-- What the results for items of a parse tree can be, whatever the names in the tree are: among them
-- is something strange, or they are nodes that can all be shown. Then every rule has been free, or
-- one of them was called like what gives null for all trees.
inductive Results (host : Host σ) (util : Value) (s : Store) (outline : Forest Heading)
    (results : List Value) (s' : Store) : Prop where
  | strange {v : Value} (grown : s.Extends s') (member : v ∈ results) (strange : s'.Strange v)
  | nodes {shape : Forest Heading} {nodes : Forest Value}
      (images : Images s s' results shape nodes)
      (free : (∃ heading ∈ outline.labels, heading.rule = "__init__") ∨
        ∀ heading ∈ outline.labels, (generic host).method? util heading.rule = none)

namespace Results

variable {host : Host σ} {util : Value} {s s₁ s' : Store} {first rest : List Value}
  {outline beside : Forest Heading}

theorem grown (h : Results host util s outline first s') : s.Extends s' := by
  cases h with
  | strange grown => exact grown
  | nodes images => exact images.grown

theorem append (hfirst : Results host util s outline first s₁)
    (hrest : Results host util s₁ beside rest s') :
    Results host util s (outline.append beside) (first ++ rest) s' := by
  have hmem : ∀ {heading}, heading ∈ (outline.append beside).labels ↔
      heading ∈ outline.labels ∨ heading ∈ beside.labels := by
    intro heading
    rw [Forest.labels_append, List.mem_append]
  cases hfirst with
  | strange grown member strange =>
      exact .strange (grown.trans hrest.grown) (List.mem_append_left _ member)
        (hrest.grown.strange strange)
  | nodes images free =>
      cases hrest with
      | strange grown member strange =>
          exact .strange (images.grown.trans grown) (List.mem_append_right _ member) strange
      | nodes images' free' =>
          refine .nodes (images.append images') ?_
          rcases free with ⟨heading, hheading, hrule⟩ | hfree
          · exact .inl ⟨heading, hmem.mpr (.inl hheading), hrule⟩
          rcases free' with ⟨heading, hheading, hrule⟩ | hfree'
          · exact .inl ⟨heading, hmem.mpr (.inr hheading), hrule⟩
          · exact .inr fun heading hheading =>
              (hmem.mp hheading).elim (hfree heading) (hfree' heading)

-- What is no subtree stands for nothing.
theorem nothing {v : Value} (h : s.Extends s') (hv : subtrees s' [v] = []) :
    Results host util s .nil [v] s' :=
  .nodes (.nothing h hv) (.inr (by simp [Forest.labels]))

end Results

section

variable (host : Host σ) {s : Store} {util builder errorClass : Value}

-- A tree, given what became of its children.
theorem transformTree_ends {v data : Value} {children : List Value} {place : Place} {rule : String}
    {heading : Heading} {below : Forest Heading} {depth : Nat}
    (hutil : s.get? util = some (.helpers builder errorClass))
    (hbuilder : s.get? builder = some (.builder .standard))
    (hobject : s.get? v = some (.tree data children place)) (hdata : s.text? data = some rule)
    (hheading : place.heading? rule = some heading)
    (hinner : Ends (children.mapM (transformWithin (generic host) util depth)) s
      (Results host util s below)) :
    Ends (transformWithin (generic host) util (depth + 1) v) s fun result s' =>
      Results host util s (.cons heading below .nil) [result] s' := by
  have hrule := rule_of_heading? hheading
  have hstart : Continues (transformWithin (generic host) util (depth + 1) v) s (do
      let done ← children.mapM (transformWithin (generic host) util depth)
      applyRule (generic host) util data done v) s := by
    refine ((Gives.object? v s).continues _).trans ?_
    rw [hobject]
    exact .refl _ _
  refine .continues hstart (hinner.bind fun inner s₁ hresults => ?_)
  have hext := hresults.grown
  cases hmethod : (generic host).method? util rule with
  | none =>
      refine .continues (applyRule_free (hext.text? hdata) hmethod inner v) ?_
      cases hresults with
      | strange grown member strange =>
          exact .inl (genericNode_fails host (hext _ _ hutil) (hext _ _ hbuilder)
            (hext _ _ hobject) (hext.text? hdata) member strange)
      | nodes images free =>
          have hwell : ∀ u ∈ subtrees s₁ inner, s₁.WellFormed u := by
            rw [images.roots]
            exact fun u hu => images.wellFormed u (Forest.mem_labels_of_mem_roots hu)
          obtain ⟨made, p, s₂, hnode, hmade, hshown, hprintable⟩ := genericNode_shown host
            (hext _ _ hutil) (hext _ _ hbuilder) (hext _ _ hobject) (hext.text? hdata) hheading
            hwell
          rw [images.roots] at hmade
          refine .inr ⟨made, s₂, hnode, .nodes (images.alone hmade hshown hprintable) ?_⟩
          simp only [Forest.labels, List.append_nil, List.mem_cons, forall_eq_or_imp, hrule]
          rcases free with ⟨h, hbelow, hname⟩ | hfree
          · exact .inl ⟨h, .inr hbelow, hname⟩
          · exact .inr ⟨hmethod, hfree⟩
  | some method =>
      refine .continues (applyRule_method (hext.text? hdata) hmethod inner v) (guarded_ends ?_)
      have hlist := Store.Extends.alloc s₁ (.list inner)
      have hgrown := hext.trans hlist
      obtain ⟨run, rfl, hrun⟩ :=
        inherited_ends host (hgrown _ _ hutil) (hgrown _ _ hbuilder) hmethod
      refine .continues ((Gives.alloc (.list inner) s₁).continues _) ((hrun _).weaken ?_)
      rintro result s' ⟨h', hresult⟩
      have hmem : result ∈ [result] := List.mem_singleton.mpr rfl
      rcases hresult with hstrange | rfl | ⟨hname, rfl⟩
      · exact .strange (hgrown.trans h') hmem hstrange
      · exact .strange (hgrown.trans h') hmem
          ⟨_, h' _ _ (Store.get?_alloc_here s₁ (.list inner)), rfl, rfl⟩
      · exact .nodes (.nothing (hgrown.trans h') rfl)
          (.inl ⟨heading, by simp [Forest.labels], hrule.trans hname⟩)

theorem transformToken_ends {v : Value} {type text : String} {place : Place} (depth : Nat)
    (hutil : s.get? util = some (.helpers builder errorClass))
    (hbuilder : s.get? builder = some (.builder .standard))
    (hobject : s.get? v = some (.token type text place)) :
    Ends (transformWithin (generic host) util (depth + 1) v) s fun result s' =>
      Results host util s .nil [result] s' := by
  have hstart : Continues (transformWithin (generic host) util (depth + 1) v) s
      (applyTerminal (generic host) util type v) s := by
    refine ((Gives.object? v s).continues _).trans ?_
    rw [hobject]
    exact .refl _ _
  have htoken : ∀ {s'}, s.Extends s' → subtrees s' [v] = [] := fun h =>
    subtrees_cons_token (h _ _ hobject) []
  refine .continues hstart ?_
  unfold applyTerminal
  cases hmethod : (generic host).method? util type with
  | none => exact .inr ⟨v, s, .pure v s, .nothing (.refl s) (htoken (.refl s))⟩
  | some method =>
      obtain ⟨run, rfl, hrun⟩ := inherited_ends host hutil hbuilder hmethod
      refine guarded_ends ((hrun v).weaken ?_)
      rintro result s' ⟨hgrown, hresult⟩
      rcases hresult with hstrange | rfl | ⟨-, rfl⟩
      · exact .strange hgrown (List.mem_singleton.mpr rfl) hstrange
      · exact .nothing hgrown (htoken hgrown)
      · exact .nothing hgrown rfl

-- By induction on how the items are outlined, as for names that are all free. Here the store may
-- have grown by other things than nodes, and the transformation may fail at every tree and token.
theorem transformAll_ends {s₀ : Store} {items : List Value} {outline : Forest Heading}
    (hutil : s₀.get? util = some (.helpers builder errorClass))
    (hbuilder : s₀.get? builder = some (.builder .standard))
    (h : s₀.Outlined (fun _ => True) items outline) {depth : Nat} (hext : s₀.Extends s)
    (hdepth : outline.height < depth) :
    Ends (items.mapM (transformWithin (generic host) util depth)) s
      (Results host util s outline) := by
  obtain ⟨depth, rfl⟩ : ∃ d, depth = d + 1 := ⟨depth - 1, by omega⟩
  induction h generalizing s depth with
  | nil => exact .inr ⟨[], s, .pure _ _, .nodes (.nil s) (.inr (by simp [Forest.labels]))⟩
  | absent _ ih =>
      have hnull : Gives (transformWithin (generic host) util (depth + 1) .null) s .null s :=
        (Gives.object? .null s).bind (.pure _ _)
      have hfirst : Ends (transformWithin (generic host) util (depth + 1) .null) s
          fun result s' => Results host util s .nil [result] s' :=
        .inr ⟨.null, s, hnull, .nothing (.refl s) rfl⟩
      exact hfirst.mapM_cons fun result s' hresult =>
        (ih (hext.trans hresult.grown) depth hdepth).weaken fun rest s'' hrest =>
          hresult.append hrest
  | token object named _ ih =>
      exact (transformToken_ends host depth (hext _ _ hutil) (hext _ _ hbuilder)
        (hext _ _ object)).mapM_cons fun result s' hresult =>
          (ih (hext.trans hresult.grown) depth hdepth).weaken fun rest s'' hrest =>
            hresult.append hrest
  | tree object text named starts _ _ ihb ihs =>
      simp only [Forest.height] at hdepth
      obtain ⟨depth, rfl⟩ : ∃ d, depth = d + 1 := ⟨depth - 1, by omega⟩
      have hbelow := ihb hext depth (by omega)
      exact (transformTree_ends host (hext _ _ hutil) (hext _ _ hbuilder) (hext _ _ object)
        (hext.text? text) starts hbelow).mapM_cons fun result s' hresult =>
          (ihs (hext.trans hresult.grown) (depth + 1) (by omega)).weaken fun rest s'' hrest =>
            hresult.append hrest

theorem transform_ends {tree : Value} {outline : Forest Heading}
    (hutil : s.get? util = some (.helpers builder errorClass))
    (hbuilder : s.get? builder = some (.builder .standard))
    (htree : s.Outlined (fun _ => True) [tree] outline) :
    Ends (transform (generic host) util tree) s fun result s' =>
      Results host util s outline [result] s' := by
  have hheight := htree.height_le
  refine .continues ((Gives.store s).continues _) ?_
  cases htree with
  | absent rest =>
      cases rest
      exact .inr ⟨.null, s, (Gives.object? .null s).bind (.pure _ _), .nothing (.refl s) rfl⟩
  | token object _ rest =>
      cases rest
      exact transformToken_ends host s.size hutil hbuilder object
  | tree object text _ starts inner rest =>
      cases rest
      simp only [Forest.height] at hheight
      exact transformTree_ends host hutil hbuilder object text starts
        (transformAll_ends host hutil hbuilder inner (.refl s) (by omega))

end

end Actions

end ParseKit

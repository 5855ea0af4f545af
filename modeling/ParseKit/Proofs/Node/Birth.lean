import ParseKit.Proofs.Node.Effects

namespace ParseKit

-- A value that is an object only if the store has it.
def Store.Known (s : Store) (v : Value) : Prop := ∀ id, v = .ref id → s.get? v ≠ none

-- What is known neither changes nor comes into being later on.
theorem Store.Extends.get?_eq {s s' : Store} {v : Value} (h : s.Extends s') (hv : s.Known v) :
    s'.get? v = s.get? v := by
  cases v with
  | ref id =>
      cases hget : s.get? (.ref id) with
      | none => exact absurd hget (hv id rfl)
      | some o => exact h _ _ hget
  | _ => rfl

namespace Node

variable {σ α : Type}

open Store (Changed Born)
open Run (Gives Reads)

-- A run that has one result at most.
def Returns (a : α) (x : Run σ α) : Prop := ∀ w r w', x w = .ok r w' → r = a

theorem Returns.pure (a : α) : Returns a (Pure.pure a : Run σ α) := by
  rintro w r w' ⟨⟩
  rfl

theorem Returns.bind {β : Type} {b : β} {x : Run σ α} {f : α → Run σ β}
    (hf : ∀ a, Returns b (f a)) : Returns b (x >>= f) := by
  intro w r w' h
  rw [Run.bind_apply] at h
  cases hx : x w with
  | error fault w₁ =>
      rw [hx] at h
      cases h
  | ok a w₁ =>
      rw [hx] at h
      exact hf a w₁ r w' h

-- A run that ends at once, or after one node has come into being, which is also the only result
-- that it may have. The children of the node are those that were meant to be added, or none.
def Bears (nodes : List Value) (x : Run σ Value) (s : Store) : Prop :=
  ∀ w, w.store = s → (∃ fault, x w = .error fault w) ∨
    ∃ v added, Born v added s (x.after w).store ∧
      ((∀ u ∈ nodes, s.Known u) → Adds s nodes added) ∧ ∀ r w', x w = .ok r w' → r = v

-- What is done with a node that has no children yet since it came into being.
def Raises (v : Value) (nodes : List Value) (x : Run σ α) (s : Store) : Prop :=
  ∀ w, Born v [] s w.store → ∃ added, Born v added s (x.after w).store ∧
    ((∀ u ∈ nodes, s.Known u) → Adds s nodes added)

variable {s : Store} {v : Value} {nodes : List Value}

namespace Raises

variable {β : Type} {x : Run σ α} {f : α → Run σ β}

theorem of_edits (hsound : s.Sound) (hx : ∀ s', s'.Sound → Edits v [] x s') :
    Raises v nodes x s :=
  fun w hw => ⟨[], hw.changed (hx _ (hw.sound hsound) w rfl), fun _ => Or.inl rfl⟩

theorem after_edits (hsound : s.Sound) (hx : ∀ s', s'.Sound → Edits v [] x s')
    (hf : ∀ a, Raises v nodes (f a) s) : Raises v nodes (x >>= f) s := by
  intro w hw
  have hfirst := hw.changed (hx _ (hw.sound hsound) w rfl)
  rcases Run.after_bind x f w with h | ⟨a, -, h⟩
  · rw [h]
    exact ⟨[], hfirst, fun _ => Or.inl rfl⟩
  · rw [h]
    exact hf a _ hfirst

theorem then_edits (hsound : s.Sound) (hx : Raises v nodes x s)
    (hf : ∀ a s', s'.Sound → Edits v [] (f a) s') : Raises v nodes (x >>= f) s := by
  intro w hw
  obtain ⟨added, hborn, hadds⟩ := hx w hw
  rcases Run.after_bind x f w with h | ⟨a, -, h⟩
  · rw [h]
    exact ⟨added, hborn, hadds⟩
  · rw [h]
    have hrest := hborn.changed (hf a _ (hborn.sound hsound) _ rfl)
    rw [List.append_nil] at hrest
    exact ⟨added, hrest, hadds⟩

end Raises

-- The nodes that an argument contributes do not depend on what has come into being since.
theorem contribution_of_extends {s' : Store} {arg : Value} (hext : s.Extends s')
    (hknown : ∀ u ∈ contribution s arg, s.Known u) : contribution s' arg = contribution s arg := by
  cases arg with
  | ref id =>
      have harg : s.Known (.ref id) := by
        intro _ _ hget
        have hitself : contribution s (.ref id) = [.ref id] := by
          simp [contribution, Store.items?, hget]
        exact hknown (.ref id) (by simp [hitself]) id rfl hget
      simp only [contribution, Store.items?, hext.get?_eq harg]
  | _ => rfl

theorem flatMap_contribution_of_extends {s' : Store} {args : List Value} (hext : s.Extends s')
    (hknown : ∀ u ∈ args.flatMap (contribution s), s.Known u) :
    args.flatMap (contribution s') = args.flatMap (contribution s) := by
  refine List.flatMap_congr fun arg harg => contribution_of_extends hext fun u hu => ?_
  exact hknown u (List.mem_flatMap.mpr ⟨arg, harg, hu⟩)

-- A node that was there before was well formed then.
theorem wellFormed_of_extends {s' : Store} {u : Value} (hsound : s.Sound)
    (hext : s.Extends s') (hknown : s.Known u) (h : s'.WellFormed u) :
    s.WellFormed u := by
  obtain ⟨q, hq⟩ := get?_of_wellFormed h
  rw [hext.get?_eq hknown] at hq
  obtain ⟨d, items, hu⟩ := hsound.proper u q hq
  exact hu.wellFormed

theorem addChildren_raises (hsound : s.Sound) (v : Value) (args : List Value) :
    Raises v (args.flatMap (contribution s)) (addChildren v args : Run σ Value) s := by
  intro w hw
  obtain ⟨added, hadds, hedits⟩ := addChildren_edits (σ := σ) (hw.sound hsound) v args
  refine ⟨added, hw.changed (hedits w rfl), fun hknown => ?_⟩
  rw [flatMap_contribution_of_extends hw.grown hknown] at hadds
  exact hadds.imp id fun ⟨h, hall⟩ =>
    ⟨h, fun u hu => wellFormed_of_extends hsound hw.grown (hknown u hu) (hall u hu)⟩

theorem Bears.of_eq {x y : Run σ Value} (hy : Bears nodes y s)
    (h : ∀ w, w.store = s → x w = y w) : Bears nodes x s := by
  intro w hw
  have hxy := h w hw
  have hafter : x.after w = y.after w := by rw [Run.after, hxy, Run.after]
  rw [hxy, hafter]
  exact hy w hw

-- A node that has come into being without children is brought up further.
theorem Bears.bind {x : Run σ Value} {k : Value → Run σ Value} (hx : Bears [] x s)
    (hk : ∀ v, Raises v nodes (k v) s) (hreturns : ∀ v, Returns v (k v)) :
    Bears nodes (x >>= k) s := by
  intro w hw
  rcases hx w hw with ⟨fault, h⟩ | ⟨v, added, hborn, hadds, hresult⟩
  · exact Or.inl ⟨fault, by rw [Run.bind_apply, h]⟩
  have hnone : added = [] := (hadds (by simp)).elim id fun h => h.1
  subst hnone
  refine Or.inr ⟨v, ?_⟩
  cases hxw : x w with
  | error fault w₁ =>
      have hfail : (x >>= k) w = .error fault w₁ := by rw [Run.bind_apply, hxw]
      rw [Run.after_error hxw] at hborn
      rw [Run.after_error hfail]
      refine ⟨[], hborn, fun _ => Or.inl rfl, fun r w' h => ?_⟩
      rw [hfail] at h
      cases h
  | ok a w₁ =>
      cases hresult a w₁ hxw
      have hrest : (x >>= k) w = k v w₁ := by rw [Run.bind_apply, hxw]
      rw [Run.after_ok hxw] at hborn
      obtain ⟨added, hborn, hadds⟩ := hk v w₁ hborn
      refine ⟨added, ?_, hadds, fun r w' h => hreturns v w₁ r w' (hrest ▸ h)⟩
      rw [Run.after, hrest]
      exact hborn

theorem bare_born {type : Value} (htype : s.isText type = true) :
    ∃ v s', Gives (bare type : Run σ Value) s v s' ∧ Born v [] s s' := by
  obtain ⟨t, ht⟩ := Option.isSome_iff_exists.mp htype
  obtain ⟨v, p, s', hrun, hmade, hp, hnodes⟩ := bare_gives (σ := σ) ht
  obtain ⟨d, hd, hentries⟩ := hmade.entries
  obtain ⟨line, column, offset, hposition⟩ := hmade.position
  have hv : Store.Proper s' v p d [] := {
    node := hmade.node
    type := Option.isSome_iff_exists.mpr ⟨t, hp ▸ hmade.grown.text? ht⟩
    attributes := hd
    names := by simp [hentries]
    children := hmade.children
    members := by simp
    position := by simp [Store.isPosition, hposition] }
  exact ⟨v, s', hrun, hmade.grown, hmade.newNode,
    ⟨p, d, [], hv, hmade.newAttributes, hmade.newChildren, List.Sublist.refl _⟩,
    fun u q hu => (hnodes u q hu).imp_right fun hold => ⟨q, hold⟩⟩

theorem bare_bears (s : Store) (type : Value) : Bears [] (bare type : Run σ Value) s := by
  rintro w rfl
  rcases requireType_reads type w with ⟨fault, h⟩ | ⟨-, htype, -⟩
  · exact Or.inl ⟨fault, by rw [bare, Run.bind_apply, h]⟩
  · obtain ⟨v, s', hrun, hborn⟩ := bare_born (σ := σ) htype
    refine Or.inr ⟨v, [], ?_, fun _ => Or.inl rfl, fun r w' h => ?_⟩
    · rw [Run.after_ok (hrun w rfl)]
      exact hborn
    · cases (hrun w rfl).symm.trans h
      rfl

theorem create_bears (hsound : s.Sound) (type attributes children : Value) :
    Bears (contribution s children) (create type attributes children : Run σ Value) s := by
  have hpure : ∀ v s', s'.Sound → Edits v [] (pure v : Run σ Value) s' :=
    fun v s' h => .of_reads h (.pure v)
  have hchildren : ∀ v, Raises v (contribution s children)
      (addChildren v [children] >>= fun _ => pure v : Run σ Value) s := by
    intro v
    have hadd := (addChildren_raises (σ := σ) hsound v [children]).then_edits hsound
      fun _ s' h => hpure v s' h
    rwa [List.flatMap_singleton] at hadd
  refine (bare_bears s type).bind (fun v => ?_) fun v => ?_
  · dsimp only
    split
    · refine .after_edits hsound (fun s' h => setAttributes_edits h v attributes) fun _ => ?_
      split
      · exact hchildren v
      · exact .of_edits hsound (hpure v)
    · split
      · exact hchildren v
      · exact .of_edits hsound (hpure v)
  · dsimp only
    split <;> split
    · exact .bind fun _ => .bind fun _ => .pure v
    · exact .bind fun _ => .pure v
    · exact .bind fun _ => .pure v
    · exact .pure v

theorem setPosition_returns (v line column offset : Value) :
    Returns v (setPosition v line column offset : Run σ Value) :=
  .bind fun _ => .bind fun _ => .bind fun _ => .bind fun _ => .bind fun _ => .bind fun _ => .pure v

theorem buildStandard_bears (hsound : s.Sound) (start : Point) (type : Value)
    (rest : List Value) :
    Bears ((splitAttributes s rest).2.flatMap (contribution s))
      (buildStandard start (type :: rest) : Run σ Value) s := by
  rcases hsplit : splitAttributes s rest with ⟨attributes, children⟩
  have hposition : ∀ v s', s'.Sound →
      Edits v [] (setPosition v start.line start.column start.offset : Run σ Value) s' :=
    fun v s' h => setPosition_edits h v _ _ _
  have hreturns := fun v =>
    setPosition_returns (σ := σ) v start.line start.column start.offset
  have hbuild : Bears (children.flatMap (contribution s)) (do
      let node ← create type attributes .null
      if !children.isEmpty then
        let _ ← addChildren node children
      setPosition node start.line start.column start.offset : Run σ Value) s := by
    refine (create_bears hsound type attributes .null).bind (fun v => ?_) fun v => ?_
    · dsimp only
      split
      · exact (addChildren_raises hsound v children).then_edits hsound fun _ => hposition v
      · exact .of_edits hsound (hposition v)
    · dsimp only
      split
      · exact .bind fun _ => hreturns v
      · exact hreturns v
  refine hbuild.of_eq fun w hw => ?_
  rw [buildStandard, Run.bind_apply, Run.store_apply, hw]
  simp only [hsplit]

end Node

end ParseKit

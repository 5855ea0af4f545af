import ParseKit.Actions.Engine
import ParseKit.Proofs.Run.Basic
import ParseKit.Proofs.Store.Extends

namespace ParseKit

-- A part of a parse tree: a mark for what was left out, a token, or a tree of so many children.
inductive Visit where
  | absent
  | token (v : Value) (type : String)
  | tree (v data : Value) (arity : Nat)

def Visit.arity : Visit → Nat
  | absent | token .. => 0
  | tree _ _ arity => arity

namespace Store

-- Items of a parse tree with everything below them, each of them behind what is below it.
inductive BottomUp (s : Store) : List Value → List Visit → Prop where
  | nil : BottomUp s [] []
  | absent {vs : List Value} {order : List Visit} (rest : BottomUp s vs order) :
      BottomUp s (.null :: vs) (.absent :: order)
  | token {v : Value} {vs : List Value} {order : List Visit} {type text : String} {place : Place}
      (object : s.get? v = some (.token type text place)) (rest : BottomUp s vs order) :
      BottomUp s (v :: vs) (.token v type :: order)
  | tree {v data : Value} {vs children : List Value} {below beside : List Visit} {place : Place}
      (object : s.get? v = some (.tree data children place)) (inner : BottomUp s children below)
      (rest : BottomUp s vs beside) :
      BottomUp s (v :: vs) (below ++ .tree v data children.length :: beside)

-- Parse trees keep their shape: what a tree is made of, and of which type a token is.
structure KeepsTrees (s s' : Store) : Prop where
  token : ∀ v type text place, s.get? v = some (.token type text place) →
    ∃ text' place', s'.get? v = some (.token type text' place')
  tree : ∀ v data children place, s.get? v = some (.tree data children place) →
    ∃ place', s'.get? v = some (.tree data children place')

-- The trees around a part of a parse tree, each of which has more below it than the part has.
structure Above (s : Store) (path : List Value) (count : Nat) : Prop where
  distinct : path.Nodup
  around : ∀ u ∈ path, ∃ data children place order, s.get? u = some (.tree data children place) ∧
    s.BottomUp children order ∧ count ≤ order.length

variable {s s' s'' : Store}

theorem BottomUp.unique {vs : List Value} {a b : List Visit} (ha : s.BottomUp vs a)
    (hb : s.BottomUp vs b) : a = b := by
  induction ha generalizing b with
  | nil => cases hb; rfl
  | absent _ ih =>
      cases hb with
      | absent hb => rw [ih hb]
      | token object => cases object
      | tree object => cases object
  | token object _ ih =>
      cases hb with
      | absent => cases object
      | token object' hb =>
          cases object.symm.trans object'
          rw [ih hb]
      | tree object' => cases object.symm.trans object'
  | tree object _ _ ihb ihs =>
      cases hb with
      | absent => cases object
      | token object' => cases object.symm.trans object'
      | tree object' hbelow hbeside =>
          cases object.symm.trans object'
          rw [ihb hbelow, ihs hbeside]

theorem Extends.keepsTrees (h : s.Extends s') : KeepsTrees s s' where
  token _ _ text place hv := ⟨text, place, h _ _ hv⟩
  tree _ _ _ place hv := ⟨place, h _ _ hv⟩

theorem KeepsTrees.refl (s : Store) : KeepsTrees s s := (Extends.refl s).keepsTrees

theorem KeepsTrees.trans (h : KeepsTrees s s') (h' : KeepsTrees s' s'') : KeepsTrees s s'' where
  token v type text place hv := by
    obtain ⟨text', place', hv'⟩ := h.token v type text place hv
    exact h'.token v type text' place' hv'
  tree v data children place hv := by
    obtain ⟨place', hv'⟩ := h.tree v data children place hv
    exact h'.tree v data children place' hv'

theorem BottomUp.keep {vs : List Value} {order : List Visit} (horder : s.BottomUp vs order)
    (h : KeepsTrees s s') : s'.BottomUp vs order := by
  induction horder with
  | nil => exact .nil
  | absent _ ih => exact .absent ih
  | token object _ ih =>
      obtain ⟨_, _, hkept⟩ := h.token _ _ _ _ object
      exact .token hkept ih
  | tree object _ _ ihb ihs =>
      obtain ⟨_, hkept⟩ := h.tree _ _ _ _ object
      exact .tree hkept ihb ihs

namespace Above

variable {path : List Value} {count : Nat}

theorem length_le (h : s.Above path count) : path.length ≤ s.size := by
  refine length_le_size h.distinct fun u hu => ?_
  obtain ⟨data, children, place, order, hget, -⟩ := h.around u hu
  simp [hget]

theorem weaken {fewer : Nat} (h : s.Above path count) (hle : fewer ≤ count) :
    s.Above path fewer :=
  ⟨h.distinct, fun u hu => by
    obtain ⟨data, children, place, order, hget, horder, hcount⟩ := h.around u hu
    exact ⟨data, children, place, order, hget, horder, Nat.le_trans hle hcount⟩⟩

-- A tree is not met again below itself, because it would have to have less below it than it has.
theorem enter {v data : Value} {children : List Value} {place : Place} {below : List Visit}
    (h : s.Above path count) (hv : s.get? v = some (.tree data children place))
    (hbelow : s.BottomUp children below) (hcount : below.length < count) :
    s.Above (v :: path) below.length := by
  have hnew : v ∉ path := by
    intro hmem
    obtain ⟨_, _, _, order, hget, horder, hle⟩ := h.around v hmem
    cases hv.symm.trans hget
    rw [horder.unique hbelow] at hle
    omega
  refine ⟨List.nodup_cons.mpr ⟨hnew, h.distinct⟩, fun u hu => ?_⟩
  rcases List.mem_cons.mp hu with rfl | hu
  · exact ⟨data, children, place, below, hv, hbelow, Nat.le_refl _⟩
  · exact (h.weaken (Nat.le_of_lt hcount)).around u hu

end Above

end Store

namespace Actions

variable {σ α β γ : Type}

-- What the action for a part makes of what became of the children.
def act (a : Actions σ) (util : Value) (children : List Value) : Visit → Run σ Value
  | .absent => pure .null
  | .token v type =>
    match a.method? util type with
    | none => pure v
    | some method => method.onToken v
  | .tree v data _ => do
    match ← methodFor a util data with
    | none => a.fallback util data children v
    | some method => method.onTree children v

-- Puts what becomes of a part on top of the results so far, in place of those of its children.
def visit (a : Actions σ) (util : Value) (results : List Value) (part : Visit) :
    Run σ (List Value) := do
  let result ← a.act util (results.take part.arity).reverse part
  return result :: results.drop part.arity

-- No action changes the shape of a parse tree.
def KeepsTrees (a : Actions σ) (util : Value) : Prop :=
  ∀ part children w v w', a.act util children part w = .ok v w' →
    w.store.KeepsTrees w'.store

-- Something that ends like something else, but that a transformer may have put an error around the
-- one that it ends with.
inductive Mirrors : EStateM.Result Fault (World σ) α → EStateM.Result Fault (World σ) α → Prop where
  | same (r : EStateM.Result Fault (World σ) α) : Mirrors r r
  | around (e : Failure) (w : World σ) : Mirrors (.error (.raised e) w)
      (.error (.raised (visitError (w.store.alloc (.failure e)).1))
        { w with store := (w.store.alloc (.failure e)).2 })

theorem Mirrors.bind {x : Run σ β} {y : Run σ α} {view : α → β} {f : β → Run σ γ}
    {g : α → Run σ γ} {w : World σ} (hxy : Mirrors (x w) ((view <$> y) w))
    (hfg : ∀ a w', y w = .ok a w' → x w = .ok (view a) w' → Mirrors (f (view a) w') (g a w')) :
    Mirrors ((x >>= f) w) ((y >>= g) w) := by
  rw [Run.map_apply] at hxy
  simp only [Run.bind_apply]
  cases hy : y w with
  | ok a w' =>
      rw [hy] at hxy
      generalize hx : x w = r at hxy
      cases hxy with
      | same => exact hfg a w' hy hx
  | error fault w' =>
      rw [hy] at hxy
      generalize x w = r at hxy ⊢
      cases hxy with
      | same => exact .same _
      | around e w => exact .around e w

theorem visit_mirrors {a : Actions σ} {util : Value} {results : List Value} {part : Visit}
    {y : Run σ Value} {w : World σ}
    (h : Mirrors (a.act util (results.take part.arity).reverse part w) (y w)) :
    Mirrors (a.visit util results part w) (((· :: results.drop part.arity) <$> y) w) := by
  rw [visit, Run.bind_apply, Run.map_apply]
  generalize a.act util (results.take part.arity).reverse part w = x at h
  generalize y w = r at h
  cases h with
  | same => exact .same _
  | around e w => exact .around e w

theorem guarded_mirrors (x : Run σ Value) (w : World σ) : Mirrors (x w) (guarded x w) := by
  rw [guarded, Run.bind_apply, Run.attempt_apply]
  cases x w with
  | ok v w' => exact .same _
  | error fault w' =>
      cases fault with
      | outOfFuel => exact .same _
      | raised e =>
          by_cases h : wraps e = true
          · simp only [h, if_true]
            exact .around e w'
          · simp only [h]
            exact .same _

theorem applyTerminal_mirrors (a : Actions σ) (util : Value) (type : String) (v : Value)
    (children : List Value) (w : World σ) :
    Mirrors (a.act util children (.token v type) w) (applyTerminal a util type v w) := by
  rw [act, applyTerminal]
  cases a.method? util type with
  | none => exact .same _
  | some method => exact guarded_mirrors _ w

theorem applyRule_mirrors (a : Actions σ) (util data v : Value) (arity : Nat)
    (children : List Value) (w : World σ) :
    Mirrors (a.act util children (.tree v data arity) w) (applyRule a util data children v w) := by
  rw [act, applyRule, Run.bind_apply, Run.bind_apply]
  cases methodFor a util data w with
  | error fault w' => exact .same _
  | ok found w' =>
      cases found with
      | none => exact .same _
      | some method => exact guarded_mirrors _ w'

-- The results for the children of a tree are on top of the others, the last one first.
theorem visit_tree_mirrors (a : Actions σ) (util data v : Value) (done stack : List Value)
    (w : World σ) :
    Mirrors (a.visit util (done.reverse ++ stack) (.tree v data done.length) w)
      (((· :: stack) <$> applyRule a util data done v) w) := by
  have htaken : ((done.reverse ++ stack).take done.length).reverse = done := by
    rw [← List.length_reverse, List.take_left, List.reverse_reverse]
  have hleft : (done.reverse ++ stack).drop done.length = stack := by
    rw [← List.length_reverse, List.drop_left]
  have hvisit : Mirrors (a.visit util (done.reverse ++ stack) (.tree v data done.length) w)
      (((· :: (done.reverse ++ stack).drop done.length) <$> applyRule a util data done v) w) := by
    refine visit_mirrors ?_
    rw [Visit.arity, htaken]
    exact applyRule_mirrors a util data v done.length done w
  rwa [hleft] at hvisit

theorem onto_cons (f : Value → Run σ Value) (v : Value) (vs stack : List Value) :
    ((fun results => results.reverse ++ stack) <$> (v :: vs).mapM f) =
      (do
        let result ← f v
        (fun results => results.reverse ++ result :: stack) <$> vs.mapM f) := by
  simp [List.mapM_cons]

theorem visit_keeps {a : Actions σ} {util : Value} (hkeeps : a.KeepsTrees util)
    {part : Visit} {stack stack' : List Value} {w w' : World σ}
    (h : a.visit util stack part w = .ok stack' w') : w.store.KeepsTrees w'.store := by
  rw [visit] at h
  obtain ⟨result, _, hact, h⟩ := Run.ok_of_bind h
  cases h
  exact hkeeps _ _ _ _ _ hact

theorem visits_keep {a : Actions σ} {util : Value} (hkeeps : a.KeepsTrees util)
    {order : List Visit} {stack stack' : List Value} {w w' : World σ}
    (h : order.foldlM (a.visit util) stack w = .ok stack' w') : w.store.KeepsTrees w'.store := by
  induction order generalizing stack w with
  | nil => cases h; exact .refl _
  | cons part order ih =>
      rw [List.foldlM_cons] at h
      obtain ⟨stack₁, _, hvisit, h⟩ := Run.ok_of_bind h
      exact (visit_keeps hkeeps hvisit).trans (ih h)

theorem onto_cons_tree {a : Actions σ} {util v data : Value} {children vs stack : List Value}
    {place : Place} {w : World σ} (hv : w.store.get? v = some (.tree data children place))
    (depth : Nat) :
    ((fun results => results.reverse ++ stack) <$>
        (v :: vs).mapM (transformWithin a util (depth + 1))) w =
      (do
        let done ← children.mapM (transformWithin a util depth)
        let result ← applyRule a util data done v
        (fun results => results.reverse ++ result :: stack) <$>
          vs.mapM (transformWithin a util (depth + 1)) : Run σ (List Value)) w := by
  have hfirst : transformWithin a util (depth + 1) v w =
      (do
        let done ← children.mapM (transformWithin a util depth)
        applyRule a util data done v : Run σ Value) w := by
    rw [transformWithin, Run.bind_apply, Run.object?_apply, hv]
  rw [onto_cons, ← bind_assoc, Run.bind_apply, Run.bind_apply, hfirst]

-- By induction on the order. The results for the parts so far lie on the stack, and those for the
-- children of a tree come to lie on top of it, so that they are taken from there for the tree.
theorem mapM_transformWithin_mirrors {a : Actions σ} {util : Value} {s₀ : Store}
    {items : List Value} {order : List Visit} (hkeeps : a.KeepsTrees util)
    (h : s₀.BottomUp items order) {path : List Value} {depth : Nat}
    (hpath : s₀.Above path order.length) (hdepth : s₀.size < depth + path.length)
    (stack : List Value) {w : World σ} (hw : s₀.KeepsTrees w.store) :
    Mirrors (order.foldlM (a.visit util) stack w)
      (((fun results => results.reverse ++ stack) <$>
        items.mapM (transformWithin a util depth)) w) := by
  have hsize := hpath.length_le
  obtain ⟨depth, rfl⟩ : ∃ d, depth = d + 1 := ⟨depth - 1, by omega⟩
  induction h generalizing path depth stack w with
  | nil => exact .same _
  | absent _ ih =>
      rw [onto_cons, List.foldlM_cons]
      have hfirst : transformWithin a util (depth + 1) .null w = .ok .null w := rfl
      have hvisit : a.visit util stack .absent w = .ok (.null :: stack) w := rfl
      rw [Run.bind_apply, Run.bind_apply, hfirst, hvisit]
      exact ih (hpath.weaken (Nat.le_succ _)) (.null :: stack) hw hsize depth hdepth
  | @token v _ _ type _ _ object _ ih =>
      obtain ⟨_, _, hkept⟩ := hw.token _ _ _ _ object
      have hfirst : transformWithin a util (depth + 1) v w = applyTerminal a util type v w := by
        rw [transformWithin, Run.bind_apply, Run.object?_apply, hkept]
      have hvisit : Mirrors (a.visit util stack (.token v type) w)
          (((· :: stack) <$> transformWithin a util (depth + 1) v) w) := by
        refine visit_mirrors ?_
        rw [hfirst]
        exact applyTerminal_mirrors a util type v _ w
      rw [onto_cons, List.foldlM_cons]
      refine hvisit.bind fun result w' _ hdone => ?_
      have hw' : s₀.KeepsTrees w'.store := hw.trans (visit_keeps hkeeps hdone)
      exact ih (hpath.weaken (Nat.le_succ _)) (result :: stack) hw' hsize depth hdepth
  | @tree v data vs children below beside place object inner _ ihb ihs =>
      have hlength : (below ++ .tree v data children.length :: beside).length =
          below.length + (beside.length + 1) := by simp
      have henter := hpath.enter object inner (by omega)
      have hinside := henter.length_le
      rw [List.length_cons] at hinside
      obtain ⟨depth, rfl⟩ : ∃ d, depth = d + 1 := ⟨depth - 1, by omega⟩
      obtain ⟨_, hkept⟩ := hw.tree _ _ _ _ object
      have hbelow := ihb henter stack hw (by simpa using hinside) depth (by
        simp only [List.length_cons]; omega)
      rw [onto_cons_tree hkept, List.foldlM_append]
      refine hbelow.bind fun done w₁ hdone hbelow₁ => ?_
      have hw₁ := hw.trans (visits_keep hkeeps hbelow₁)
      have hvisit := visit_tree_mirrors a util data v done stack w₁
      rw [Run.length_of_mapM hdone] at hvisit
      rw [List.foldlM_cons]
      refine hvisit.bind fun result w₂ _ hdone₂ => ?_
      exact ihs (hpath.weaken (by omega)) (result :: stack)
        (hw₁.trans (visit_keeps hkeeps hdone₂)) hsize (depth + 1) hdepth

theorem transform_mirrors {a : Actions σ} {util tree : Value} {order : List Visit} {w : World σ}
    (hkeeps : a.KeepsTrees util) (h : w.store.BottomUp [tree] order) :
    Mirrors (order.foldlM (a.visit util) [] w) (((fun v => [v]) <$> transform a util tree) w) := by
  have hpath : w.store.Above [] order.length := ⟨List.nodup_nil, by simp⟩
  have hmirrors : Mirrors _ (((fun results => results.reverse ++ []) <$>
      [tree].mapM (transformWithin a util (w.store.size + 1))) w) :=
    mapM_transformWithin_mirrors hkeeps h hpath (by simp) [] (.refl _)
  have hone : (fun results : List Value => results.reverse ++ []) <$>
      [tree].mapM (transformWithin a util (w.store.size + 1)) =
      (fun v => [v]) <$> transformWithin a util (w.store.size + 1) tree := by
    rw [onto_cons]
    simp
  rw [hone] at hmirrors
  exact hmirrors

end Actions

namespace Engine

variable {σ α : Type}

open Actions (Mirrors)

theorem causeOf_visitError (s : Store) (e : Failure) :
    causeOf (s.alloc (.failure e)).2 (Actions.visitError (s.alloc (.failure e)).1) = e := by
  have hfield : (Actions.visitError (s.alloc (.failure e)).1).field? "orig_exc" =
      some (s.alloc (.failure e)).1 := rfl
  rw [causeOf, hfield, Option.getD_some, Store.get?_alloc_here]

-- The error that was put around another one is taken off again.
theorem unwrapped_of_mirrors {x : Run σ α} {y : Run σ Value} {view : Value → α} {w : World σ}
    (h : Mirrors (x w) ((view <$> y) w)) :
    (∀ a w', x w = .ok a w' → ∃ v, a = view v ∧ unwrapped y w = .ok v w') ∧
    ∀ e w', x w = .error (.raised e) w' → e.isA .visitError = false →
      ∃ s, w'.store.Extends s ∧ unwrapped y w = .error (.raised e) { w' with store := s } := by
  rw [Run.map_apply] at h
  rw [unwrapped, Run.bind_apply, Run.attempt_apply]
  generalize x w = r at h ⊢
  generalize hy : y w = t at h ⊢
  cases t with
  | ok v w₁ =>
      cases h
      refine ⟨fun a w' ha => ?_, fun e w' he => by cases he⟩
      cases ha
      exact ⟨v, rfl, rfl⟩
  | error fault w₁ =>
      refine ⟨fun a w' ha => ?_, fun e w' he hplain => ?_⟩
      · cases ha
        cases h
      · cases he
        cases h with
        | same =>
            refine ⟨w₁.store, .refl _, ?_⟩
            simp [hplain]
        | around =>
            refine ⟨_, Store.Extends.alloc w'.store (.failure e), ?_⟩
            have hclass : (Actions.visitError (w'.store.alloc (.failure e)).1).isA .visitError =
              true := rfl
            dsimp only
            rw [if_pos hclass, Run.bind_apply, Run.store_apply]
            dsimp only
            rw [causeOf_visitError]
            rfl

end Engine

end ParseKit

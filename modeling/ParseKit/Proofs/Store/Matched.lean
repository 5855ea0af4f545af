import Mathlib.Data.List.Forall2
import ParseKit.Proofs.Store.Basic

namespace ParseKit

-- Which object of one store is taken for which object of another one.
abbrev Matching := Nat → Nat → Prop

namespace Matching

variable {m m' : Matching}

-- No object is taken for two others.
structure OneToOne (m : Matching) : Prop where
  left : ∀ {i j k}, m i j → m i k → j = k
  right : ∀ {i j k}, m i k → m j k → i = j

-- A matching that takes more objects for each other.
def Grows (m m' : Matching) : Prop := ∀ i j, m i j → m' i j

theorem Grows.refl (m : Matching) : Grows m m := fun _ _ h => h

theorem Grows.trans {m'' : Matching} (h : Grows m m') (h' : Grows m' m'') : Grows m m'' :=
  fun i j hm => h' i j (h i j hm)

-- The same value, save that references go to objects that are taken for each other.
inductive Values (m : Matching) : Value → Value → Prop where
  | atom {v : Value} (noReference : ∀ id, v ≠ .ref id) : Values m v v
  | ref {i j : Nat} (matched : m i j) : Values m (.ref i) (.ref j)

abbrev Lists (m : Matching) : List Value → List Value → Prop := List.Forall₂ m.Values

def Entries (m : Matching) : List (Value × Value) → List (Value × Value) → Prop :=
  List.Forall₂ fun e e' => m.Values e.1 e'.1 ∧ m.Values e.2 e'.2

def Fields (m : Matching) : List (String × Value) → List (String × Value) → Prop :=
  List.Forall₂ fun f f' => f.1 = f'.1 ∧ m.Values f.2 f'.2

structure Places (m : Matching) (p p' : Place) : Prop where
  line : m.Values p.line p'.line
  column : m.Values p.column p'.column
  startPos : m.Values p.startPos p'.startPos
  endLine : m.Values p.endLine p'.endLine
  endColumn : m.Values p.endColumn p'.endColumn
  endPos : m.Values p.endPos p'.endPos

structure Failures (m : Matching) (e e' : Failure) : Prop where
  errorClass : e.errorClass = e'.errorClass
  args : m.Lists e.args e'.args
  fields : m.Fields e.fields e'.fields
  details : m.Fields e.details e'.details

structure Parts (m : Matching) (p p' : NodeParts) : Prop where
  type : m.Values p.type p'.type
  attributes : m.Values p.attributes p'.attributes
  children : m.Values p.children p'.children
  position : m.Values p.position p'.position

inductive Builders (m : Matching) : Builder → Builder → Prop where
  | standard : Builders m .standard .standard
  | callback {f f' : Value} (h : m.Values f f') : Builders m (.callback f) (.callback f')
  | unfinished (className : String) : Builders m (.unfinished className) (.unfinished className)

inductive Locations (m : Matching) : Location → Location → Prop where
  | ofItem {v v' : Value} (h : m.Values v v') : Locations m (.ofItem v) (.ofItem v')
  | accessor (id : Nat) : Locations m (.accessor id) (.accessor id)

inductive Functions (m : Matching) : Function → Function → Prop where
  | factory {l l' : Location} {b b' : Value} (location : m.Locations l l')
      (builder : m.Values b b') : Functions m (.factory l b) (.factory l' b')
  | unroller {l l' : Location} {c c' : Value} (location : m.Locations l l')
      (errorClass : m.Values c c') : Functions m (.unroller l c) (.unroller l' c')

inductive Objects (m : Matching) : Object → Object → Prop where
  | notANumber : Objects m .notANumber .notANumber
  | lone {v v' : Value} (atom : m.Values v v') : Objects m (.lone v) (.lone v')
  | list {vs vs' : List Value} (items : m.Lists vs vs') : Objects m (.list vs) (.list vs')
  | tuple {vs vs' : List Value} (items : m.Lists vs vs') : Objects m (.tuple vs) (.tuple vs')
  | dict {es es' : List (Value × Value)} (layout : Layout) (entries : m.Entries es es') :
      Objects m (.dict ⟨es, layout⟩) (.dict ⟨es', layout⟩)
  | mapping {es es' : List (Value × Value)} (entries : m.Entries es es') :
      Objects m (.mapping es) (.mapping es')
  | set {vs vs' : List Value} (items : m.Lists vs vs') : Objects m (.set vs) (.set vs')
  | frozenset {vs vs' : List Value} (items : m.Lists vs vs') :
      Objects m (.frozenset vs) (.frozenset vs')
  | bytes (content : List UInt8) : Objects m (.bytes content) (.bytes content)
  | pattern (source : Regex.Source) : Objects m (.pattern source) (.pattern source)
  | foreign (object : Foreign) : Objects m (.foreign object) (.foreign object)
  | record {fs fs' : List (String × Value)} (fields : m.Fields fs fs') :
      Objects m (.record fs) (.record fs')
  | node {p p' : NodeParts} (parts : m.Parts p p') : Objects m (.node p) (.node p')
  | position {l l' c c' o o' : Value} (line : m.Values l l') (column : m.Values c c')
      (offset : m.Values o o') : Objects m (.position l c o) (.position l' c' o')
  | span {a a' b b' : Value} (start : m.Values a a') (stop : m.Values b b') :
      Objects m (.span a b) (.span a' b')
  | token (type text : String) {p p' : Place} (place : m.Places p p') :
      Objects m (.token type text p) (.token type text p')
  | tree {d d' : Value} {vs vs' : List Value} {p p' : Place} (data : m.Values d d')
      (children : m.Lists vs vs') (place : m.Places p p') :
      Objects m (.tree d vs p) (.tree d' vs' p')
  | place {p p' : Place} (place : m.Places p p') : Objects m (.place p) (.place p')
  | builder {b b' : Builder} (h : m.Builders b b') : Objects m (.builder b) (.builder b')
  | helpers {b b' c c' : Value} (builder : m.Values b b') (errorClass : m.Values c c') :
      Objects m (.helpers b c) (.helpers b' c')
  | function {f f' : Function} (h : m.Functions f f') : Objects m (.function f) (.function f')
  | failure {e e' : Failure} (h : m.Failures e e') : Objects m (.failure e) (.failure e')

-- A one-to-one matching under which the objects of two stores are the same. The second store may
-- hold more.
structure Stores (m : Matching) (s s' : Store) : Prop where
  size_le : s.size ≤ s'.size
  oneToOne : m.OneToOne
  objects : ∀ i j, m i j → ∃ o o', s.get? (.ref i) = some o ∧ s'.get? (.ref j) = some o' ∧
    m.Objects o o'

section Mono

variable (h : Grows m m')
include h

theorem Values.mono {v v' : Value} (hv : m.Values v v') : m'.Values v v' := by
  cases hv with
  | atom noReference => exact .atom noReference
  | ref matched => exact .ref (h _ _ matched)

theorem Lists.mono {vs vs' : List Value} (hvs : m.Lists vs vs') : m'.Lists vs vs' :=
  hvs.imp fun _ _ => Values.mono h

theorem Entries.mono {es es' : List (Value × Value)} (hes : m.Entries es es') :
    m'.Entries es es' :=
  List.Forall₂.imp (fun _ _ he => ⟨he.1.mono h, he.2.mono h⟩) hes

theorem Fields.mono {fs fs' : List (String × Value)} (hfs : m.Fields fs fs') :
    m'.Fields fs fs' :=
  List.Forall₂.imp (fun _ _ hf => ⟨hf.1, hf.2.mono h⟩) hfs

theorem Places.mono {p p' : Place} (hp : m.Places p p') : m'.Places p p' :=
  ⟨hp.1.mono h, hp.2.mono h, hp.3.mono h, hp.4.mono h, hp.5.mono h, hp.6.mono h⟩

theorem Failures.mono {e e' : Failure} (he : m.Failures e e') : m'.Failures e e' :=
  ⟨he.1, he.2.mono h, he.3.mono h, he.4.mono h⟩

theorem Parts.mono {p p' : NodeParts} (hp : m.Parts p p') : m'.Parts p p' :=
  ⟨hp.1.mono h, hp.2.mono h, hp.3.mono h, hp.4.mono h⟩

theorem Locations.mono {l l' : Location} (hl : m.Locations l l') : m'.Locations l l' := by
  cases hl with
  | ofItem hv => exact .ofItem (hv.mono h)
  | accessor id => exact .accessor id

theorem Objects.mono {o o' : Object} (ho : m.Objects o o') : m'.Objects o o' := by
  cases ho with
  | notANumber => exact .notANumber
  | lone atom => exact .lone (atom.mono h)
  | list items => exact .list (Lists.mono h items)
  | tuple items => exact .tuple (Lists.mono h items)
  | dict layout entries => exact .dict layout (entries.mono h)
  | mapping entries => exact .mapping (entries.mono h)
  | set items => exact .set (Lists.mono h items)
  | frozenset items => exact .frozenset (Lists.mono h items)
  | bytes content => exact .bytes content
  | pattern source => exact .pattern source
  | foreign object => exact .foreign object
  | record fields => exact .record (fields.mono h)
  | node parts => exact .node (parts.mono h)
  | position line column offset =>
      exact .position (line.mono h) (column.mono h) (offset.mono h)
  | span start stop => exact .span (start.mono h) (stop.mono h)
  | token type text place => exact .token type text (place.mono h)
  | tree data children place => exact .tree (data.mono h) (Lists.mono h children) (place.mono h)
  | place place => exact .place (place.mono h)
  | builder hb =>
      cases hb with
      | standard => exact .builder .standard
      | callback hf => exact .builder (.callback (hf.mono h))
      | unfinished className => exact .builder (.unfinished className)
  | helpers builder errorClass => exact .helpers (builder.mono h) (errorClass.mono h)
  | function hf =>
      cases hf with
      | factory location builder => exact .function (.factory (location.mono h) (builder.mono h))
      | unroller location errorClass =>
          exact .function (.unroller (location.mono h) (errorClass.mono h))
  | failure he => exact .failure (he.mono h)

end Mono

-- Takes one more object for another one.
def add (m : Matching) (i j : Nat) : Matching := fun a b => m a b ∨ a = i ∧ b = j

theorem grows_add (m : Matching) (i j : Nat) : m.Grows (m.add i j) := fun _ _ => .inl

namespace Stores

variable {s s' : Store} {o o' : Object} {v v' : Value}

theorem lt_size (h : m.Stores s s') {i j : Nat} (hm : m i j) : i < s.size ∧ j < s'.size := by
  obtain ⟨o, o', ho, ho', -⟩ := h.objects i j hm
  exact ⟨(Array.getElem?_eq_some_iff.mp ho).1, (Array.getElem?_eq_some_iff.mp ho').1⟩

theorem alloc (h : m.Stores s s') (ho : m.Objects o o') :
    (m.add s.size s'.size).Stores (s.alloc o).2 (s'.alloc o').2 where
  size_le := by
    rw [Store.size_alloc, Store.size_alloc]
    exact Nat.succ_le_succ h.size_le
  oneToOne := by
    constructor
    · rintro i j k (hj | ⟨rfl, rfl⟩) (hk | ⟨hi, rfl⟩)
      · exact h.oneToOne.left hj hk
      · exact absurd (h.lt_size hj).1 (by omega)
      · exact absurd (h.lt_size hk).1 (by omega)
      · rfl
    · rintro i j k (hi | ⟨rfl, rfl⟩) (hj | ⟨rfl, hk⟩)
      · exact h.oneToOne.right hi hj
      · exact absurd (h.lt_size hi).2 (by omega)
      · exact absurd (h.lt_size hj).2 (by omega)
      · rfl
  objects := by
    rintro i j (hm | ⟨rfl, rfl⟩)
    · obtain ⟨old, old', hold, hold', hobjects⟩ := h.objects i j hm
      exact ⟨old, old', Store.get?_alloc_elsewhere o hold, Store.get?_alloc_elsewhere o' hold',
        hobjects.mono (m.grows_add _ _)⟩
    · exact ⟨o, o', Store.get?_alloc_here s o, Store.get?_alloc_here s' o',
        ho.mono (m.grows_add _ _)⟩

theorem put (h : m.Stores s s') (hv : m.Values v v') (ho : m.Objects o o') :
    m.Stores (s.put v o) (s'.put v' o') where
  size_le := by
    rw [Store.size_put, Store.size_put]
    exact h.size_le
  oneToOne := h.oneToOne
  objects := by
    intro a b hm
    obtain ⟨old, old', hold, hold', hobjects⟩ := h.objects a b hm
    cases hv with
    | atom noReference =>
        cases v with
        | ref id => exact absurd rfl (noReference id)
        | _ => exact ⟨old, old', hold, hold', hobjects⟩
    | @ref i j matched =>
        by_cases ha : a = i
        · subst ha
          obtain rfl := h.oneToOne.left hm matched
          exact ⟨o, o', Store.get?_put_here o hold, Store.get?_put_here o' hold', ho⟩
        · have hb : b ≠ j := by
            rintro rfl
            exact ha (h.oneToOne.right hm matched)
          exact ⟨old, old', by rw [Store.get?_put_elsewhere s o (by simpa using ha), hold],
            by rw [Store.get?_put_elsewhere s' o' (by simpa using hb), hold'], hobjects⟩

theorem get? (h : m.Stores s s') (hv : m.Values v v') :
    Option.Rel m.Objects (s.get? v) (s'.get? v') := by
  cases hv with
  | atom noReference =>
      cases v with
      | ref id => exact absurd rfl (noReference id)
      | _ => exact .none
  | ref matched =>
      obtain ⟨o, o', ho, ho', hobjects⟩ := h.objects _ _ matched
      rw [ho, ho']
      exact .some hobjects

end Stores

-- The matching that takes all of the first objects for themselves.
def upTo (n : Nat) : Matching := fun i j => i = j ∧ i < n

theorem oneToOne_upTo (n : Nat) : (upTo n).OneToOne where
  left h h' := h.1.symm.trans h'.1
  right h h' := h.1.trans h'.1.symm

end Matching

end ParseKit

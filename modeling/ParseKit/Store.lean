import ParseKit.Regex.Source
import ParseKit.Value.Dictionary

namespace ParseKit

-- The four parts of a syntax node. In a well-formed node the type is a text, the attributes
-- are a dictionary, the children a list, and the position is a position.
structure NodeParts where
  type : Value
  attributes : Value
  children : Value
  position : Value
  deriving DecidableEq, Repr, Inhabited

-- What a foreign object has under the name of a builder's build method.
inductive BuildSlot where
  | absent
  | notCallable
  | callable
  deriving DecidableEq, Repr, Inhabited

-- An object of the client's. `label` tells the client which of its objects it is.
structure Foreign where
  className : String
  label : String
  display : String
  inspect : String
  callable : Bool := false
  buildSlot : BuildSlot := .absent
  isBuilder : Bool := false
  deriving DecidableEq, Repr, Inhabited

-- How a node comes from the arguments of a semantic action.
inductive Builder where
  -- A type, optional attributes, and children.
  | standard
  -- Whatever a callable returns for the position and the arguments.
  | callback (callable : Value)
  -- A kind of builder that does not say how it builds.
  | unfinished (className : String)
  deriving DecidableEq, Repr, Inhabited

-- Where the span of the current match comes from.
inductive Location where
  -- The positions that an item carries.
  | ofItem (item : Value)
  -- One of the client's accessors.
  | accessor (id : Nat)
  deriving DecidableEq, Repr, Inhabited

-- The functions that semantic actions are given.
inductive Function where
  | factory (location : Location) (builder : Value)
  | unroller (location : Location) (errorClass : Value)
  deriving DecidableEq, Repr, Inhabited

inductive Object where
  -- A floating point number that is no number, and so equals nothing but itself.
  | notANumber
  -- An atom that is told apart from the others that equal it.
  | lone (atom : Value)
  | list (items : List Value)
  | tuple (items : List Value)
  | dict (content : Dictionary)
  -- A mapping that cannot be changed.
  | mapping (entries : List (Value × Value))
  | set (items : List Value)
  | frozenset (items : List Value)
  | bytes (content : List UInt8)
  -- A regular expression that is in order, of which only the source matters.
  | pattern (source : Regex.Source)
  | foreign (object : Foreign)
  -- An object with named fields and nothing else.
  | record (fields : List (String × Value))
  | node (parts : NodeParts)
  | position (line column offset : Value)
  | span (start stop : Value)
  -- A text that knows which terminal matched it, and where.
  | token (type : String) (text : String) (place : Place)
  | tree (data : Value) (children : List Value) (place : Place)
  -- The positions of a tree on their own.
  | place (place : Place)
  | builder (builder : Builder)
  | helpers (builder : Value) (errorClass : Value)
  | function (function : Function)
  | failure (failure : Failure)
  deriving DecidableEq, Repr, Inhabited

-- All objects, in the order in which they were made.
structure Store where
  objects : Array Object := #[]
  deriving Inhabited

namespace Store

def size (s : Store) : Nat := s.objects.size

-- The object that a value refers to.
def get? (s : Store) : Value → Option Object
  | .ref id => s.objects[id]?
  | _ => none

-- A new object, and the reference to it.
def alloc (s : Store) (o : Object) : Value × Store :=
  (.ref s.size, ⟨s.objects.push o⟩)

-- Another content for an object that exists.
def put (s : Store) (v : Value) (o : Object) : Store :=
  match v with
  | .ref id => ⟨s.objects.setIfInBounds id o⟩
  | _ => s

theorem get?_alloc_here (s : Store) (o : Object) : (s.alloc o).2.get? (s.alloc o).1 = some o := by
  simp [alloc, get?, size]

theorem get?_alloc_elsewhere {s : Store} {v : Value} {old : Object} (o : Object)
    (h : s.get? v = some old) : (s.alloc o).2.get? v = some old := by
  cases v with
  | ref id =>
    simp only [get?, alloc] at *
    have hlt : id < s.objects.size := (Array.getElem?_eq_some_iff.1 h).1
    rw [Array.getElem?_push_lt hlt]
    simpa [Array.getElem?_eq_getElem hlt] using h
  | _ => simp [get?] at h

theorem get?_put_here {s : Store} {v : Value} {old : Object} (o : Object)
    (h : s.get? v = some old) : (s.put v o).get? v = some o := by
  cases v with
  | ref id =>
    simp only [get?, put] at *
    have hlt : id < s.objects.size := (Array.getElem?_eq_some_iff.1 h).1
    simp [hlt]
  | _ => simp [get?] at h

theorem get?_put_elsewhere (s : Store) {v w : Value} (o : Object) (h : w ≠ v) :
    (s.put v o).get? w = s.get? w := by
  cases v with
  | ref id =>
    cases w with
    | ref other =>
      have hne : id ≠ other := fun e => h (by rw [e])
      simp [put, get?, Array.getElem?_setIfInBounds_ne hne]
    | _ => rfl
  | _ => rfl

theorem size_put (s : Store) (v : Value) (o : Object) : (s.put v o).size = s.size := by
  cases v <;> simp [put, size]

end Store

end ParseKit

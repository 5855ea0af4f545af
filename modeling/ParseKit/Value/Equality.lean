import ParseKit.Value.Kind

namespace ParseKit

-- The integer that a number equals, so that 1, 1.0 and the true truth value are one key.
def Value.integral? : Value → Option Int
  | .float bits => (Decimal.Binary.ofBits bits).toInt?
  | v => v.toInt?

namespace Store

-- The type of a token.
def tokenType? (s : Store) (v : Value) : Option String :=
  match s.get? v with
  | some (.token type _ _) => some type
  | _ => none

-- Equality of two texts. Tokens of different types differ, while a plain text equals a token of any
-- type.
def sameText (s : Store) (a b : Value) : Bool :=
  s.text? a == s.text? b &&
    match s.tokenType? a, s.tokenType? b with
    | some x, some y => x == y
    | _, _ => true

-- Equality within `depth` levels of nesting.
def sameAt (s : Store) : Nat → Value → Value → Bool
  | 0, a, b => a == b
  | depth + 1, a, b =>
    if a == b then true
    else
      if s.isText a || s.isText b then s.sameText a b
      else
        match a.integral?, b.integral? with
        | some i, some j => i == j
        | some _, none => false
        | none, some _ => false
        | none, none =>
          let subset (xs ys : List Value) := xs.all fun x => ys.any (s.sameAt depth x)
          let sameSet (xs ys : List Value) := xs.length == ys.length && subset xs ys
          let sameList (xs ys : List Value) :=
            xs.length == ys.length && (xs.zip ys).all fun p => s.sameAt depth p.1 p.2
          match s.get? a, s.get? b with
          | some (.tuple xs), some (.tuple ys) => sameList xs ys
          | some (.list xs), some (.list ys) => sameList xs ys
          | some (.set xs), some (.set ys) => sameSet xs ys
          | some (.set xs), some (.frozenset ys) => sameSet xs ys
          | some (.frozenset xs), some (.set ys) => sameSet xs ys
          | some (.frozenset xs), some (.frozenset ys) => sameSet xs ys
          | some (.bytes xs), some (.bytes ys) => xs == ys
          | some (.pattern x), some (.pattern y) => x == y
          | some (.tree d xs _), some (.tree e ys _) => s.sameAt depth d e && sameList xs ys
          | _, _ => false

def same (s : Store) (a b : Value) : Bool := s.sameAt (s.size + 1) a b

-- The class of the part that keeps a value from being a key, within `depth` levels.
def unhashableAt? (s : Store) : Nat → Value → Option String
  | 0, _ => none
  | depth + 1, v =>
    match s.get? v with
    | some (.list _) => some "list"
    | some (.dict _) => some "dict"
    | some (.mapping _) => some "mappingproxy"
    | some (.set _) => some "set"
    | some (.position ..) => some "Position"
    | some (.span ..) => some "Span"
    | some (.record _) => some "types.SimpleNamespace"
    | some (.tuple items) => items.findSome? (s.unhashableAt? depth)
    | some (.tree data children _) => (data :: children).findSome? (s.unhashableAt? depth)
    | _ => none

def requireKey (s : Store) (v : Value) : Except Failure Unit :=
  match s.unhashableAt? (s.size + 1) v with
  | some name => .error (.message .typeError ("unhashable type: '" ++ name ++ "'"))
  | none => .ok ()

def lookup? (s : Store) (entries : List (Value × Value)) (key : Value) : Option Value :=
  (entries.find? fun e => s.same e.1 key).map (·.2)

def insert (s : Store) (entries : List (Value × Value)) (key value : Value) :
    List (Value × Value) :=
  match entries with
  | [] => [(key, value)]
  | e :: rest => if s.same e.1 key then (e.1, value) :: rest else e :: s.insert rest key value

def erase? (s : Store) (entries : List (Value × Value)) (key : Value) :
    Option (List (Value × Value)) :=
  match entries with
  | [] => none
  | e :: rest => if s.same e.1 key then some rest else (s.erase? rest key).map (e :: ·)

-- Entries one after the other into a dictionary.
def insertAll (s : Store) (entries more : List (Value × Value)) : List (Value × Value) :=
  more.foldl (fun acc e => s.insert acc e.1 e.2) entries

-- The items without those that equal an earlier one.
def distinct (s : Store) (items : List Value) : List Value :=
  items.foldl (fun acc v => if acc.any (s.same · v) then acc else acc ++ [v]) []

end Store

namespace Dictionary

def insert (d : Dictionary) (s : Store) (key value : Value) : Dictionary :=
  let entries := s.insert d.entries key value
  let layout := d.layout.readyFor (isPlainKey key)
  ⟨entries, if entries.length = d.entries.length then layout else layout.push⟩

def erase? (d : Dictionary) (s : Store) (key : Value) : Option Dictionary :=
  (s.erase? d.entries key).map fun rest =>
    ⟨rest, d.layout.erase (d.entries.findIdx fun e => s.same e.1 key)⟩

theorem entries_insert (d : Dictionary) (s : Store) (key value : Value) :
    (d.insert s key value).entries = s.insert d.entries key value := rfl

theorem entries_erase? (d : Dictionary) (s : Store) (key : Value) :
    (d.erase? s key).map entries = s.erase? d.entries key := by
  simp [erase?, Function.comp_def]

end Dictionary

namespace Store

theorem lookup?_insert_here (s : Store) (entries : List (Value × Value)) (key value : Value)
    (hrefl : s.same key key = true) : s.lookup? (s.insert entries key value) key = some value := by
  induction entries with
  | nil => simp [insert, lookup?, hrefl]
  | cons e rest ih =>
    by_cases h : s.same e.1 key = true
    · simp [insert, lookup?, h]
    · simpa [insert, lookup?, h] using ih

-- What is no number equals nothing else.
theorem same_notANumber {s : Store} {v w : Value} (hv : s.get? v = some .notANumber)
    (hne : v ≠ w) : s.same v w = false := by
  cases v with
  | ref id =>
    have htext : s.text? (.ref id) = none := by simp [text?, hv]
    have hint : (Value.ref id).integral? = none := rfl
    simp only [same, sameAt, beq_iff_eq, hne, if_false, hint, hv]
    split
    · next h =>
      -- only the other value can be a text
      have hw : s.text? w ≠ none := by
        simpa [isText, htext, Option.isSome_iff_ne_none] using h
      simp [sameText, htext, hw.symm]
    · cases w.integral? <;> rfl
  | _ => simp [get?] at hv

theorem same_refl (s : Store) (v : Value) : s.same v v = true := by
  simp [same, sameAt]

end Store

end ParseKit

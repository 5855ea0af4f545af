import ParseKit.Grammar.Basic
import ParseKit.Grammar.Fault

namespace ParseKit

-- The end of the text, as a terminal.
def endTerminal : String := "$END"

-- A place in a production, with the terminals that may follow the production there.
structure Item where
  production : Nat
  dot : Nat
  ahead : List String
  deriving DecidableEq, Repr, Inhabited

def Item.samePlace (a b : Item) : Bool := a.production == b.production && a.dot == b.dot

def union (a b : List String) : List String := a ++ b.filter fun x => !a.contains x

-- Sets of items with one item for each place.
abbrev ItemSet := List Item

namespace ItemSet

-- Adds an item, or gives none if nothing is new about it.
def add? : ItemSet → Item → Option ItemSet
  | [], item => some [item]
  | i :: rest, item =>
    if i.samePlace item then
      let ahead := union i.ahead item.ahead
      if ahead.length = i.ahead.length then none else some ({ i with ahead := ahead } :: rest)
    else (add? rest item).map (i :: ·)

def add (s : ItemSet) (item : Item) : ItemSet := (s.add? item).getD s

def samePlaces (a b : ItemSet) : Bool :=
  a.length == b.length && a.all fun i => b.any i.samePlace

end ItemSet

structure LrState where
  shifts : List (GrammarSymbol × Nat)
  -- The production to close, for each terminal that may follow it.
  reductions : List (String × Nat)
  deriving Inhabited

-- Decides, with one terminal of lookahead, between reading on and closing a production. States
-- that differ only in what may follow their productions are one.
structure Automaton where
  productions : Array Production
  states : Array LrState
  -- The state that each start begins in.
  starts : List (String × Nat)
  deriving Inhabited

namespace Grammar

-- The production that a parse from a start begins with: the start, and then the end.
def rootOf (start : String) : Production where
  rule := "$root_" ++ start
  elements := [.rule start false, .terminal endTerminal true]

def withRoots (g : Grammar) : Grammar :=
  { g with productions := g.productions ++ (g.starts.map rootOf).toArray }

-- What is known about the texts of each rule: the terminals that they can start with, and
-- whether they can be empty.
structure Beginnings where
  first : List (String × List String) := []
  empty : List String := []
  deriving Inhabited

namespace Beginnings

def firstOf (b : Beginnings) : GrammarSymbol → List String
  | .terminal name => [name]
  | .rule name => (b.first.lookup name).getD []

def canBeEmpty (b : Beginnings) : GrammarSymbol → Bool
  | .terminal _ => false
  | .rule name => b.empty.contains name

-- The terminals that the texts of some symbols can start with, where `ahead` may follow.
def ofSymbols (b : Beginnings) (ahead : List String) : List GrammarSymbol → List String
  | [] => ahead
  | s :: rest =>
    if b.canBeEmpty s then union (b.firstOf s) (b.ofSymbols ahead rest) else b.firstOf s

def addFirst (rule : String) (names : List String) :
    List (String × List String) → List (String × List String)
  | [] => [(rule, names)]
  | e :: rest =>
    if e.1 = rule then (rule, union e.2 names) :: rest else e :: addFirst rule names rest

def learn (b : Beginnings) (p : Production) : Beginnings where
  first := addFirst p.rule (b.ofSymbols [] p.symbols) b.first
  empty :=
    if p.symbols.all b.canBeEmpty && !b.empty.contains p.rule then p.rule :: b.empty else b.empty

def rounds (productions : Array Production) : Nat → Beginnings → Beginnings
  | 0, b => b
  | n + 1, b => rounds productions n (productions.foldl learn b)

end Beginnings

-- A fact about one rule reaches every other in as many rounds as there are productions.
def beginnings (g : Grammar) : Beginnings :=
  Beginnings.rounds g.productions (g.productions.size + 1) {}

-- The items at the beginning of the rule that an item is in front of.
def predicted (g : Grammar) (b : Beginnings) (item : Item) : List Item :=
  match g.productions[item.production]? with
  | none => []
  | some p =>
    match p.symbols.drop item.dot with
    | .rule name :: rest =>
      let ahead := b.ofSymbols item.ahead rest
      (g.productionsOf name).map fun i => ⟨i, 0, ahead⟩
    | _ => []

-- Adds items and all that they predict, in at most the given number of steps.
def closeWithin (g : Grammar) (b : Beginnings) : Nat → List Item → ItemSet → ItemSet
  | 0, _, done => done
  | _, [], done => done
  | steps + 1, item :: waiting, done =>
    match done.add? item with
    | none => closeWithin g b steps waiting done
    | some done => closeWithin g b steps (g.predicted b item ++ waiting) done

-- A step either drops a waiting item, or adds a place or a terminal and makes at most as many
-- items wait as there are productions.
def close (g : Grammar) (b : Beginnings) (kernel : ItemSet) : ItemSet :=
  let n := g.productions.size
  let additions := (n + kernel.length) * (g.terminals.length + 2)
  closeWithin g b (kernel.length + additions * (n + 1)) kernel []

def nextOf (g : Grammar) (item : Item) : Option GrammarSymbol :=
  g.productions[item.production]?.bind (·.next? item.dot)

-- The kernels that a closed set goes on to, with the symbols that lead there.
def successors (g : Grammar) (closed : ItemSet) : List (GrammarSymbol × ItemSet) :=
  (closed.filterMap g.nextOf).eraseDups.map fun s =>
    (s, (closed.filter fun i => g.nextOf i == some s).map fun i => { i with dot := i.dot + 1 })

-- Adds a kernel to those that are known.
def addKernel (kernels : Array ItemSet) (kernel : ItemSet) : Array ItemSet :=
  match kernels.findIdx? (ItemSet.samePlaces kernel) with
  | some i => kernels.modify i fun known => kernel.foldl ItemSet.add known
  | none => kernels.push kernel

def explore (g : Grammar) (b : Beginnings) (kernels : Array ItemSet) : Array ItemSet :=
  let add (known : Array ItemSet) (kernel : ItemSet) : Array ItemSet :=
    (g.successors (g.close b kernel)).foldl (fun ks s => addKernel ks s.2) known
  kernels.foldl add kernels

-- How much is known.
def weight (kernels : Array ItemSet) : Nat :=
  kernels.foldl (fun n k => k.foldl (fun n i => n + i.ahead.length + 1) (n + 1)) 0

def exploreWithin (g : Grammar) (b : Beginnings) : Nat → Array ItemSet → Array ItemSet
  | 0, kernels => kernels
  | rounds + 1, kernels =>
    let next := g.explore b kernels
    if weight next = weight kernels then kernels else exploreWithin g b rounds next

-- Every round but the last adds a set of places, or a terminal to one, of which there are at
-- most so many.
def explorationBound (g : Grammar) : Nat :=
  let places := g.productions.foldl (fun n p => n + p.symbols.length + 1) 0
  Nat.pow 2 places * (places + 1) * (g.terminals.length + 2)

def stateOf (g : Grammar) (b : Beginnings) (kernels : Array ItemSet) (kernel : ItemSet) : LrState :=
  let closed := g.close b kernel
  { shifts := (g.successors closed).filterMap fun (s, k) =>
      (kernels.findIdx? (ItemSet.samePlaces k)).map fun i => (s, i)
    reductions := (closed.filter fun i => (g.nextOf i).isNone).flatMap fun i =>
      i.ahead.map fun t => (t, i.production) }

-- A terminal on which two productions could be closed.
def collision? (s : LrState) : Option String :=
  (s.reductions.find? fun r => s.reductions.any fun q => q.1 == r.1 && q.2 != r.2 &&
    !s.shifts.any fun sh => sh.1 == .terminal r.1).map (·.1)

-- The automaton of a grammar. Where reading on is possible, no production is closed.
def automaton (g : Grammar) : Except GrammarFault Automaton :=
  let g := g.withRoots
  let b := g.beginnings
  let base := g.productions.size - g.starts.length
  let kernels := (List.range g.starts.length).map fun i => [Item.mk (base + i) 0 []]
  let kernels := g.exploreWithin b g.explorationBound kernels.toArray
  let states := kernels.map (g.stateOf b kernels)
  match states.findSome? collision? with
  | some terminal => .error (.collision terminal)
  | none =>
    .ok
      { productions := g.productions
        states := states
        starts := g.starts.zip (List.range g.starts.length) }

end Grammar

inductive LrAction where
  | shift (state : Nat)
  | reduce (production : Nat)
  deriving DecidableEq, Repr, Inhabited

namespace LrState

def action? (s : LrState) (terminal : String) : Option LrAction :=
  match s.shifts.lookup (.terminal terminal) with
  | some state => some (.shift state)
  | none => (s.reductions.lookup terminal).map .reduce

-- The terminals that there is something to do for.
def expected (s : LrState) : List String :=
  let shifted := s.shifts.filterMap fun
    | (.terminal name, _) => some name
    | _ => none
  union shifted (s.reductions.map (·.1)).eraseDups

end LrState

end ParseKit

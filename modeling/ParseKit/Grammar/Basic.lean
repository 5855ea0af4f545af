import ParseKit.Grammar.Pattern

namespace ParseKit

inductive GrammarSymbol where
  | terminal (name : String)
  | rule (name : String)
  deriving DecidableEq, Repr, Inhabited

-- A symbol of a production, with what becomes of it in the tree, or the mark of something that
-- was left out.
inductive Element where
  | terminal (name : String) (kept : Bool)
  -- The children of a spliced rule take its place.
  | rule (name : String) (spliced : Bool)
  | absent
  deriving DecidableEq, Repr, Inhabited

def Element.symbol? : Element → Option GrammarSymbol
  | terminal name _ => some (.terminal name)
  | rule name _ => some (.rule name)
  | absent => none

structure Production where
  rule : String
  elements : List Element
  -- The name that the production gives to its trees, if not that of the rule.
  label : Option String := none
  -- A tree with one child is replaced by the child.
  collapses : Bool := false
  deriving DecidableEq, Repr, Inhabited

namespace Production

def symbols (p : Production) : List GrammarSymbol := p.elements.filterMap Element.symbol?

-- The symbol after the first `dot` symbols.
def next? (p : Production) (dot : Nat) : Option GrammarSymbol := p.symbols[dot]?

end Production

structure Grammar where
  productions : Array Production
  terminals : List (String × Pattern)
  -- The terminals that may stand anywhere and that the trees leave out.
  ignored : List String
  starts : List String
  deriving Inhabited

namespace Grammar

def pattern (g : Grammar) (terminal : String) : Pattern :=
  (g.terminals.lookup terminal).getD .nothing

-- The numbers of a rule's productions.
def productionsOf (g : Grammar) (rule : String) : List Nat :=
  (List.range g.productions.size).filter fun i =>
    match g.productions[i]? with
    | some p => p.rule == rule
    | none => false

-- The longest nonempty text that one of some terminals matches, and the terminal. Of equally
-- long matches the first counts.
def longestMatch? (g : Grammar) (terminals : List String) (text : List Char) :
    Option (String × Nat) :=
  terminals.foldl
    (fun best t =>
      let n := ((g.pattern t).longest? text).getD 0
      if ((best.map (·.2)).getD 0) < n then some (t, n) else best)
    none

end Grammar

end ParseKit

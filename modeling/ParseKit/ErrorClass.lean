namespace ParseKit

-- The classes of errors, ordered by derivation. Clients derive classes of their own; one that
-- is `detailed` is built from a message and keeps any keywords it is given.
inductive ErrorClass where
  | baseException
  | exception
  | valueError
  | lookupError
  | keyError
  | indexError
  | typeError
  | attributeError
  | stopIteration
  | runtimeError
  | notImplementedError
  | zeroDivisionError
  | overflowError
  | recursionError
  -- A malformed call of this library.
  | invalidArgument
  -- A node that is no child of the node it was to be taken from.
  | notFound
  -- A syntax error that says where it is, what was found and what was expected.
  | grammarError
  -- A grammar engine refuses its input.
  | unexpectedInput
  -- A grammar engine is asked for a start rule that it was not built for.
  | unusableStart
  -- A grammar engine finds fault with a grammar.
  | unusableGrammar
  -- A transformer puts an error of this class around one of an action.
  | visitError
  | derived (name : String) (base : ErrorClass)
  | detailed (name : String)
  deriving DecidableEq, Repr, Inhabited

namespace ErrorClass

-- The class itself and everything it derives from, nearest first.
def ancestors : ErrorClass → List ErrorClass
  | baseException => [baseException]
  | exception => [exception, baseException]
  | valueError => [valueError, exception, baseException]
  | lookupError => [lookupError, exception, baseException]
  | keyError => [keyError, lookupError, exception, baseException]
  | indexError => [indexError, lookupError, exception, baseException]
  | typeError => [typeError, exception, baseException]
  | attributeError => [attributeError, exception, baseException]
  | stopIteration => [stopIteration, exception, baseException]
  | runtimeError => [runtimeError, exception, baseException]
  | notImplementedError => [notImplementedError, runtimeError, exception, baseException]
  | zeroDivisionError => [zeroDivisionError, exception, baseException]
  | overflowError => [overflowError, exception, baseException]
  | recursionError => [recursionError, runtimeError, exception, baseException]
  | invalidArgument => [invalidArgument, valueError, exception, baseException]
  | notFound => [notFound, lookupError, exception, baseException]
  | grammarError => [grammarError, exception, baseException]
  | unexpectedInput => [unexpectedInput, exception, baseException]
  | unusableStart => [unusableStart, valueError, exception, baseException]
  | unusableGrammar => [unusableGrammar, exception, baseException]
  | visitError => [visitError, exception, baseException]
  | derived name base => derived name base :: base.ancestors
  | detailed name => [detailed name, exception, baseException]

def isA (c base : ErrorClass) : Bool := c.ancestors.contains base

def name : ErrorClass → String
  | baseException => "BaseException"
  | exception => "Exception"
  | valueError => "ValueError"
  | lookupError => "LookupError"
  | keyError => "KeyError"
  | indexError => "IndexError"
  | typeError => "TypeError"
  | attributeError => "AttributeError"
  | stopIteration => "StopIteration"
  | runtimeError => "RuntimeError"
  | notImplementedError => "NotImplementedError"
  | zeroDivisionError => "ZeroDivisionError"
  | overflowError => "OverflowError"
  | recursionError => "RecursionError"
  | invalidArgument => "InvalidArgument"
  | notFound => "NotFound"
  | grammarError => "GrammarError"
  | unexpectedInput => "UnexpectedInput"
  | unusableStart => "ConfigurationError"
  | unusableGrammar => "GrammarError"
  | visitError => "VisitError"
  | derived name _ => name
  | detailed name => name

-- Whether a class is one of the general vocabulary, not one of this library or of a client.
def isGeneral : ErrorClass → Bool
  | invalidArgument | notFound | grammarError | unexpectedInput | unusableStart
  | unusableGrammar | visitError => false
  | derived .. | detailed _ => false
  | _ => true

theorem mem_ancestors_self (c : ErrorClass) : c ∈ c.ancestors := by
  cases c <;> simp [ancestors]

theorem isA_self (c : ErrorClass) : c.isA c = true := by
  simp [isA, mem_ancestors_self]

theorem isA_derived (name : String) (base c : ErrorClass) :
    (derived name base).isA c = (decide (c = derived name base) || base.isA c) := by
  simp [isA, ancestors]

-- What the base of a base is, is a base.
theorem isA_trans {a b c : ErrorClass} (hab : a.isA b = true) (hbc : b.isA c = true) :
    a.isA c = true := by
  simp only [isA, List.contains_iff_mem] at *
  induction a with
  | derived name base ih =>
    simp only [ancestors, List.mem_cons] at *
    rcases hab with rfl | hab
    · simpa [ancestors] using hbc
    · exact Or.inr (ih hab)
  | _ =>
    simp only [ancestors, List.mem_cons, List.not_mem_nil, or_false] at hab
    revert hbc
    rcases hab with rfl | rfl | rfl | rfl <;> simp +contextual [ancestors]

end ErrorClass

end ParseKit

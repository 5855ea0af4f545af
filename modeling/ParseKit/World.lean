import ParseKit.Store

namespace ParseKit

-- Why a run ends without a result.
inductive Fault where
  | raised (failure : Failure)
  -- The number of steps allowed to a walk was used up.
  | outOfFuel
  deriving DecidableEq, Repr, Inhabited

-- What a verbose caller is told while a parse runs.
inductive LogEntry where
  | parsing (length : Nat) (startRule : String)
  | running (actions : String) (data : String)
  | grammarFailure (line column : String) (message : String)
  | unexpectedFailure (message : String)
  deriving DecidableEq, Repr, Inhabited

-- The state of a run: the store, the log with the newest entry first, and the client's own
-- state.
structure World (σ : Type) where
  store : Store
  log : List LogEntry
  client : σ

-- A computation over the world. Changes made before a failure stay.
abbrev Run (σ : Type) := EStateM Fault (World σ)

namespace Run

variable {σ α : Type}

def fail (e : Failure) : Run σ α := throw (.raised e)

-- Fails with a message.
def raise (c : ErrorClass) (text : String) : Run σ α := fail (.message c text)

def ofExcept : Except Failure α → Run σ α
  | .ok a => pure a
  | .error e => fail e

def store : Run σ Store := return (← get).store

def object? (v : Value) : Run σ (Option Object) := return (← get).store.get? v

def alloc (o : Object) : Run σ Value := do
  let w ← get
  let (v, s) := w.store.alloc o
  set { w with store := s }
  return v

def put (v : Value) (o : Object) : Run σ Unit :=
  modify fun w => { w with store := w.store.put v o }

def note (entry : LogEntry) : Run σ Unit :=
  modify fun w => { w with log := entry :: w.log }

-- What a reading of the store gives that can fail.
def inspect (f : Store → Except Failure α) : Run σ α := do ofExcept (f (← get).store)

-- Runs an action and gives its failure as a value.
def attempt (x : Run σ α) : Run σ (Except Failure α) :=
  tryCatch (.ok <$> x) fun
    | .raised e => pure (.error e)
    | .outOfFuel => throw .outOfFuel

end Run

end ParseKit

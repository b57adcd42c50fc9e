import CommandLog.Server.Shared

/-!
# Stop tokens

A stop token asks a server to stop.  Every clone of a token shares its flag, and a flag that was set
stays set.  A context is what the workers of one server share: a device behind its lock, and a
token.

`Tokens` holds any number of tokens and contexts, known by the order in which they were made.
-/

namespace CommandLog

/-- Flags, the tokens that share them, and the contexts that hold a token each. -/
structure Tokens where
  flags : List Bool
  /-- The flag of each token. -/
  tokens : List Nat
  /-- The flag and the device of each context. -/
  contexts : List (Nat × Shared Device)

namespace Tokens

/-- No token yet. -/
def empty : Tokens := ⟨[], [], []⟩

/-- Makes a token with a flag of its own. -/
def make (tokens : Tokens) : Tokens × Nat :=
  ({ tokens with
      flags := tokens.flags ++ [false]
      tokens := tokens.tokens ++ [tokens.flags.length] }, tokens.tokens.length)

/-- Makes another token with the same flag. -/
def clone (tokens : Tokens) (token : Nat) : Option (Tokens × Nat) := do
  let flag ← tokens.tokens[token]?
  return ({ tokens with tokens := tokens.tokens ++ [flag] }, tokens.tokens.length)

/-- Was a token triggered? -/
def isTriggered (tokens : Tokens) (token : Nat) : Option Bool := do
  tokens.flags[← tokens.tokens[token]?]?

/-- Triggers a token, and so all its clones. -/
def trigger (tokens : Tokens) (token : Nat) : Option Tokens := do
  let flag ← tokens.tokens[token]?
  return { tokens with flags := tokens.flags.set flag true }

/-- For every token, whether it was triggered. -/
def triggered (tokens : Tokens) : List Bool :=
  tokens.tokens.map fun flag => tokens.flags[flag]?.getD false

/-- Makes a context with a token and a new device. -/
def makeContext (tokens : Tokens) (capacity token : Nat) : Option (Tokens × Nat) := do
  let flag ← tokens.tokens[token]?
  return ({ tokens with
    contexts := tokens.contexts ++ [(flag, .ofStorage (.empty capacity))] },
    tokens.contexts.length)

/-- Is the server of a context asked to stop? -/
def isExiting (tokens : Tokens) (context : Nat) : Option Bool := do
  let (flag, _) ← tokens.contexts[context]?
  tokens.flags[flag]?

/-- Appends to the device of a context, under its lock. -/
def append (tokens : Tokens) (context : Nat) (data : Bytes) :
    Option (Tokens × Except Stop Bytes) := do
  let (flag, shared) ← tokens.contexts[context]?
  let (shared, outcome) := shared.append data
  return ({ tokens with contexts := tokens.contexts.set context (flag, shared) },
    outcome.map fun _ => shared.storage.contents)

/-- A worker panics while it holds the lock of a context. -/
def poison (tokens : Tokens) (context : Nat) : Option Tokens := do
  let (flag, shared) ← tokens.contexts[context]?
  return { tokens with
    contexts := tokens.contexts.set context (flag, { shared with poisoned := true }) }

end Tokens

end CommandLog

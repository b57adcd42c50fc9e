import CommandLog.Stop.Tokens

/-!
# Asking to stop, step by step

Behind a lock, a stop token holds the descriptor of the listening socket that is being waited on.  To
trigger the token is to set the flag and then, for the call that found it unset, to take the lock and
shut the entered socket down; any other call returns at once.  To watch a socket is to take the lock,
enter the socket and look at the flag again before the lock is let go; to unwatch it is to clear the
entry under the lock.

Any number of calls trigger clones of the token, which may be made at any time, while a socket is
watched and later unwatched.  This module is that system at the grain of its atomic steps: reading
or writing the flag, taking the lock, and letting it go.  `StopProtocol.step?` is one step of one of
the participants; it is refused where the participant cannot take it, above all while somebody else
holds the lock.
-/

namespace CommandLog

/-- How far a call that triggers a token has come. -/
inductive TriggerStage where
  /-- It has set the flag and has yet to take the lock. -/
  | swapped
  /-- It holds the lock. -/
  | locked
  /-- It has set the flag, has had the lock, and has returned. -/
  | returned
  /-- It has found the flag set already, and has returned at once. -/
  | late
  deriving DecidableEq

/-- How far the one participant that watches and later unwatches the socket has come. -/
inductive WatchStage where
  | idle
  /-- It holds the lock and has entered the socket. -/
  | entered
  /-- It holds the lock and has looked whether the token was triggered. -/
  | looked (triggered : Bool)
  | watching
  /-- It has begun to unwatch. -/
  | leaving
  | gone
  deriving DecidableEq

/-- Who holds the lock. -/
inductive Holder where
  | trigger (call : Nat)
  | watcher
  deriving DecidableEq

/-- The clones of a token, the lock with what it guards, and how far everyone has come. -/
structure StopProtocol where
  /-- The clones.  The first token is the one that watches the socket. -/
  tokens : Tokens
  /-- The descriptor entered behind the lock. -/
  entry : Option Nat
  holder : Option Holder
  /-- The calls that trigger a clone, in the order in which they reach the flag. -/
  calls : List TriggerStage
  watcher : WatchStage
  /-- The descriptor of the socket to be watched. -/
  listener : Nat
  /-- The descriptors that were shut down, in order. -/
  shutDowns : List Nat

namespace StopProtocol

/-- There is one token, which was not triggered, and nobody watches the socket yet. -/
def initial (listener : Nat) : StopProtocol :=
  { tokens := Tokens.empty.make.1, entry := none, holder := none, calls := []
    watcher := .idle, listener, shutDowns := [] }

/-- The atomic steps. -/
inductive Step where
  | clone (token : Nat)
  /-- A call sets the flag of a clone and learns whether it was set before. -/
  | swap (token : Nat)
  /-- The call that set the flag takes the lock. -/
  | lock (call : Nat)
  /-- It shuts the entered socket down, if there is one, lets the lock go and returns. -/
  | act (call : Nat)
  /-- The watcher takes the lock and enters the socket. -/
  | enter
  /-- It looks at the flag. -/
  | look
  /-- It shuts the socket down if it found the flag set, lets the lock go and returns. -/
  | settle
  /-- The watcher begins to unwatch. -/
  | leave
  /-- It clears the entry under the lock. -/
  | clear
  deriving DecidableEq

/-- Notes how far a call has come. -/
def setCall (state : StopProtocol) (call : Nat) (stage : TriggerStage) : StopProtocol :=
  { state with calls := state.calls.set call stage }

/-- One step, if it can be taken. -/
def step? (state : StopProtocol) : Step → Option StopProtocol
  | .clone token => do
    let (tokens, _) ← state.tokens.clone token
    return { state with tokens }
  | .swap token => do
    let wasSet ← state.tokens.isTriggered token
    let tokens ← state.tokens.trigger token
    return { state with tokens, calls := state.calls ++ [if wasSet then .late else .swapped] }
  | .lock call =>
    if state.calls[call]? = some .swapped ∧ state.holder = none then
      some { state.setCall call .locked with holder := some (.trigger call) }
    else none
  | .act call =>
    if state.calls[call]? = some .locked then
      some { state.setCall call .returned with
        holder := none, shutDowns := state.shutDowns ++ state.entry.toList }
    else none
  | .enter =>
    if state.watcher = .idle ∧ state.holder = none then
      some { state with
        holder := some .watcher, entry := some state.listener, watcher := .entered }
    else none
  | .look =>
    if state.watcher = .entered then do
      let triggered ← state.tokens.isTriggered 0
      return { state with watcher := .looked triggered }
    else none
  | .settle =>
    match state.watcher with
    | .looked triggered =>
      some { state with
        holder := none, watcher := .watching
        shutDowns := state.shutDowns ++ if triggered then [state.listener] else [] }
    | _ => none
  | .leave =>
    if state.watcher = .watching then some { state with watcher := .leaving } else none
  | .clear =>
    if state.watcher = .leaving ∧ state.holder = none then
      some { state with entry := none, watcher := .gone }
    else none

/-- The steps of a history, taken one after the other. -/
def stepAll? (state : StopProtocol) : List Step → Option StopProtocol
  | [] => some state
  | step :: others => do (← state.step? step).stepAll? others

end StopProtocol

end CommandLog

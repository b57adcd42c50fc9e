/-!
# Workers

The register of the workers that serve connections.  A worker is entered when it starts, under a
number that no other worker ever gets, and is struck off when it is joined, so none is joined
twice.  `reap` joins the workers that have ended, however they ended, and leaves the running ones
alone; `drain` joins all that are left, each as soon as it has ended.
-/

namespace CommandLog

/-- How a worker ends. -/
inductive Ending where
  | returned
  | panicked
  deriving DecidableEq

/-- A worker that was not joined yet. -/
structure Worker where
  number : Nat
  running : Bool
  /-- How it ends, or will end. -/
  ending : Ending
  deriving DecidableEq

/-- The workers that were not joined yet, and the number of the next one. -/
structure Workers where
  tracked : List Worker
  next : Nat

namespace Workers

/-- No worker yet. -/
def empty : Workers := ⟨[], 0⟩

/-- How many workers were not joined yet. -/
def count (workers : Workers) : Nat := workers.tracked.length

/-- Is every worker joined? -/
def isEmpty (workers : Workers) : Bool := workers.tracked.isEmpty

/-- Starts a worker and enters it under its number. -/
def start (workers : Workers) (running : Bool) (ending : Ending) : Workers × Nat :=
  (⟨workers.tracked ++ [⟨workers.next, running, ending⟩], workers.next + 1⟩, workers.next)

/-- Is the worker with this number entered and running? -/
def isRunning (workers : Workers) (number : Nat) : Bool :=
  workers.tracked.any fun worker => worker.number == number && worker.running

/-- Lets the worker with this number come to its end. -/
def finish (workers : Workers) (number : Nat) : Workers :=
  { workers with
    tracked := workers.tracked.map fun worker =>
      if worker.number = number then { worker with running := false } else worker }

/-- Lets all workers come to their end. -/
def finishAll (workers : Workers) : Workers :=
  { workers with tracked := workers.tracked.map ({ · with running := false }) }

/-- Joins the workers that have ended, and says which. -/
def reap (workers : Workers) : Workers × List Worker :=
  ({ workers with tracked := workers.tracked.filter (·.running) },
    workers.tracked.filter (!·.running))

/-- Joins all workers that are left, and says which.  Each has ended by then. -/
def drain (workers : Workers) : Workers × List Worker :=
  ({ workers with tracked := [] }, workers.finishAll.tracked)

end Workers

end CommandLog

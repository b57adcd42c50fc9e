import CommandLog.Request
import CommandLog.Storage

/-!
# The lock on the storage

All workers share one storage behind one lock.  A worker holds the lock to append a command and open
a reader, or to open a reader and place it, but never while it sends a reply.  One such *lock
section* is one step, `Shared.execute`: no other worker can come in between.  Only a command that
asks to be stored changes the storage (`execute_of_not_stores`).

A worker that panics while it holds the lock poisons it, and from then on every lock section is
refused before it touches the storage (`execute_of_poisoned`).
-/

namespace CommandLog

/-- Why a worker gives a connection up. -/
inductive Stop where
  | failed (failure : Failure)
  | panicked
  deriving DecidableEq

/-- A storage behind its lock. -/
structure Shared (σ : Type) where
  storage : σ
  /-- Did a worker panic while it held the lock? -/
  poisoned : Bool

namespace Shared

variable {σ ρ : Type} [Storage σ ρ]

/-- A storage behind a new lock. -/
def ofStorage (storage : σ) : Shared σ := ⟨storage, false⟩

/-- Appends bytes under the lock. -/
def append (shared : Shared σ) (data : Bytes) : Shared σ × Except Stop Unit :=
  if shared.poisoned then (shared, .error (.failed .lockPoisoned))
  else
    match Storage.append shared.storage data with
    | (storage, .stored) => ({ shared with storage }, .ok ())
    | (storage, .failed failure) => ({ shared with storage }, .error (.failed failure))
    | (storage, .panicked) => (⟨storage, true⟩, .error .panicked)

/-- Opens a reader at the start of the log. -/
def openReader (shared : Shared σ) : Except Stop ρ :=
  (Storage.openReader shared.storage).mapError .failed

/-- The lock section of a command to be stored: append it and open a reader. -/
def store (shared : Shared σ) (command : Command) : Shared σ × Except Stop ρ :=
  match shared.append command.bytes with
  | (shared, .ok ()) => (shared, shared.openReader)
  | (shared, .error stop) => (shared, .error stop)

/-- The lock section of a seek: open a reader and place it. -/
def seek (shared : Shared σ) (command offset : UInt32) : Except Stop ρ :=
  if shared.poisoned then .error (.failed .lockPoisoned)
  else do
    let reader ← shared.openReader
    (Storage.seekTo shared.storage reader command offset).mapError .failed

/-- Carries a command out, up to the point where its reply can be read. -/
def execute (shared : Shared σ) (command : Command) : Shared σ × Except Stop ρ :=
  match Request.ofCommand command with
  | .error failure => (shared, .error (.failed failure))
  | .ok (.store command) => shared.store command
  | .ok (.seek number offset) => (shared, shared.seek number offset)

/-- A command that asks to be stored is stored. -/
theorem execute_of_stores {command : Command} (h : Request.stores command = true)
    (shared : Shared σ) : shared.execute command = shared.store command := by
  rw [execute, Request.ofCommand_of_stores h]

/-- A command that does not ask to be stored leaves the storage and the lock as they are. -/
theorem execute_of_not_stores {command : Command} (h : Request.stores command = false)
    (shared : Shared σ) : (shared.execute command).1 = shared := by
  unfold Request.stores at h
  unfold execute
  split
  · rfl
  · next stored hrequest => simp [hrequest] at h
  · rfl

/-- Behind a poisoned lock nothing is carried out. -/
theorem execute_of_poisoned {shared : Shared σ} (h : shared.poisoned = true)
    (command : Command) :
    (shared.execute command).1 = shared ∧
      ∃ failure, (shared.execute command).2 = .error (.failed failure) := by
  unfold execute
  split
  · exact ⟨rfl, _, rfl⟩
  · simp [store, append, h]
  · simp [seek, h]

end Shared

end CommandLog

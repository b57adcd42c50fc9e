import CommandLog.Storage
import Mathlib.Tactic.Common

/-!
# The log behind the readers

A server shows its log through readers.  This module says what they show, for every storage there
is: a reader at the start shows the whole log, and a reader placed at a byte of a command shows the
log from that byte on.  `LogView` is the interface, `LogView.place?` the position that a command and
an offset mean; the two devices, the data file and the memory store implement it.

A `Medium` is the choice of one of the four, so that one statement can be made about all of them.
-/

namespace CommandLog

section Shown

variable {σ ρ : Type} [Storage σ ρ]

/-- What a reader shows when it is read to its end, if it could be opened and read. -/
def Storage.shown? {ε : Type} (storage : σ) : Except ε ρ → Option Bytes
  | .error _ => none
  | .ok reader =>
    match Storage.readToEnd storage reader with
    | .ok (bytes, _) => some bytes
    | .error _ => none

lemma Storage.shown?_mapError {ε ε' : Type} (storage : σ) (f : ε → ε') (opened : Except ε ρ) :
    shown? storage (opened.mapError f) = shown? storage opened := by
  cases opened <;> rfl

end Shown

/-- A storage whose readers show its log. -/
class LogView (σ : Type) {ρ : outParam Type} [Storage σ ρ] where
  /-- Where in the log byte `offset` of command number `command` is.  A storage that keeps no track
  of single commands has no such place. -/
  place? : σ → (command offset : UInt32) → Option Nat
  shown_openReader : ∀ storage : σ,
    Storage.shown? storage (Storage.openReader storage) = Storage.contents? storage
  shown_seekTo : ∀ (storage : σ) (command offset : UInt32),
    Storage.shown? storage
        (Storage.openReader storage >>= fun reader =>
          Storage.seekTo storage reader command offset) =
      (place? storage command offset).bind fun place =>
        (Storage.contents? storage).map (List.drop place)

instance : LogView Device where
  place? device command offset := (device.log.positionOf command offset).toOption
  shown_openReader _ := rfl
  shown_seekTo device command offset := by
    have hseek : Storage.seekTo device Cursor.start command offset =
        (device.log.positionOf command offset).map (⟨·⟩) := rfl
    show Storage.shown? device (Storage.seekTo device Cursor.start command offset) = _
    rw [hseek]
    cases device.log.positionOf command offset <;> rfl

instance : LogView ScarceDevice where
  place? scarce := LogView.place? scarce.device
  shown_openReader scarce := LogView.shown_openReader scarce.device
  shown_seekTo scarce := LogView.shown_seekTo scarce.device

/-- What a data file's reader shows is what is under its path now, which need not be the file that
was opened. -/
instance : LogView HostedFile where
  place? _ _ _ := none
  shown_openReader hosted := by
    show Storage.shown? hosted (FileCursor.openAt hosted.host hosted.file.path) =
      hosted.host.contents? hosted.file.path
    unfold FileCursor.openAt FileSystem.contents?
    rcases hosted.host.openForReading hosted.file.path with _ | _ | number
    · rfl
    · rfl
    · show Storage.shown? hosted (.ok (⟨.file number, 0⟩ : FileCursor)) = _
      simp only [Storage.shown?, Storage.readToEnd, FileCursor.readToEnd_file, List.drop_zero]
  shown_seekTo hosted command offset := by
    show Storage.shown? hosted (FileCursor.openAt hosted.host hosted.file.path >>= _) = none
    cases FileCursor.openAt hosted.host hosted.file.path <;> rfl

instance : LogView MemoryStore where
  place? _ _ _ := none
  shown_openReader _ := rfl
  shown_seekTo _ _ _ := rfl

/-! ## The choice of a storage -/

/-- What a server can keep its log in. -/
inductive Medium where
  | device
  | scarceDevice
  | file
  | memory
  deriving DecidableEq

namespace Medium

/-- The storages to choose from. -/
def Store : Medium → Type
  | .device => Device
  | .scarceDevice => ScarceDevice
  | .file => HostedFile
  | .memory => MemoryStore

def Reader : Medium → Type
  | .device => Cursor
  | .scarceDevice => Cursor
  | .file => FileCursor
  | .memory => Snapshot

instance : (medium : Medium) → Storage medium.Store medium.Reader
  | .device => inferInstanceAs (Storage Device Cursor)
  | .scarceDevice => inferInstanceAs (Storage ScarceDevice Cursor)
  | .file => inferInstanceAs (Storage HostedFile FileCursor)
  | .memory => inferInstanceAs (Storage MemoryStore Snapshot)

instance : (medium : Medium) → LogView medium.Store
  | .device => inferInstanceAs (LogView Device)
  | .scarceDevice => inferInstanceAs (LogView ScarceDevice)
  | .file => inferInstanceAs (LogView HostedFile)
  | .memory => inferInstanceAs (LogView MemoryStore)

end Medium

end CommandLog

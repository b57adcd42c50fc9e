import CommandLog.Proofs.DataFile.Setbacks
import CommandLog.Proofs.Server.Beside
import CommandLog.Proofs.Server.Replies
import CommandLog.Proofs.Storage.View

/-!
# Requests that are declined

A request can fail at many places: its line is no request at all, the lock is poisoned, the append
fails, the storage cannot seek, or the log has no such place.  In all of them but one the storage is
as it was before.  In the lock section this is `Shared.Declines.execute_eq`; for the refusals it takes
a look at the storages, because a refusal must not come after something was appended, and for an
append that fails, at what each storage makes of it (`Medium.unchanged_of_append`).

The one exception is a data file that holds the command back and then cannot hand it to the file.  The
request fails and the file has got nothing, but the command stays held back, and the next append that
goes through stores it with its own: `Run.declined_command_is_stored_later`.

The main statement `Run.declined_request_changes_nothing` says what follows for a run in all other
cases: the step of such a request closes its connection and does nothing else, and for all other
connections it makes no difference what has become of this one.
-/

namespace CommandLog

/-- Does the failure turn a request away? -/
def Failure.isRefusal : Failure → Bool
  | .malformedSeek _ | .outOfRange _ _ | .seekUnsupported _ | .lockPoisoned => true
  | _ => false

/-! ## What an append that fails leaves behind -/

/-- Where there is no memory for a command, the device is the one it was. -/
lemma ScarceDevice.append_eq_failed {scarce after : ScarceDevice} {data : Bytes} {failure : Failure}
    (h : Storage.append scarce data = (after, .failed failure)) :
    (∃ size, failure = .noMemory size) ∧ after.device = scarce.device := by
  obtain ⟨device, _ | ⟨_ | size, later⟩⟩ := scarce
  · cases h
  · cases h
  · cases h
    exact ⟨⟨size, rfl⟩, rfl⟩

/-- An append to memory that is made to fail does nothing else. -/
lemma MemoryStore.append_eq_failed {store after : MemoryStore} {data : Bytes} {failure : Failure}
    (h : Storage.append store data = (after, .failed failure)) :
    failure = .refused "append failed" ∧ after = store := by
  simp only [Storage.append] at h
  split at h
  · cases h
  · split at h
    · cases h
      exact ⟨rfl, rfl⟩
    · cases h

namespace Medium

/-- The log as it is kept.  That of a data file is the file that is open, if it is there. -/
def log? : (medium : Medium) → medium.Store → Option Bytes
  | .device => fun (device : Device) => some device.contents
  | .scarceDevice => fun (scarce : ScarceDevice) => some scarce.device.contents
  | .file => fun (hosted : HostedFile) =>
    hosted.host.files[hosted.file.number]?.map Packed.toBytes
  | .memory => fun (store : MemoryStore) => some store.bytes

/-- Nothing has got into the log. -/
def StoresNothing (medium : Medium) (before after : medium.Store) : Prop :=
  ∃ log, medium.log? before = some log ∧ medium.log? after = some log

/-- Are bytes held back for a while before they are stored?  Only a data file does that, if it has
room for them. -/
def HoldsBack : (medium : Medium) → medium.Store → Bytes → Prop
  | .device | .scarceDevice | .memory => fun _ _ => False
  | .file => fun (hosted : HostedFile) => hosted.file.HoldsBack

/-- The storage is as it was, with all that it keeps and holds back.  What its appends are still to
meet may have changed: that is not the storage's own. -/
def Unchanged : (medium : Medium) → (before after : medium.Store) → Prop
  | .device | .memory => fun before after => after = before
  | .scarceDevice => fun (before after : ScarceDevice) => after.device = before.device
  | .file => fun (before after : HostedFile) =>
    after.host = before.host ∧ ∃ setbacks, after.file = { before.file with setbacks }

variable {medium : Medium} {before after store : medium.Store} {failure : Failure} {data : Bytes}

lemma unchanged_refl (store : medium.Store) : medium.Unchanged store store := by
  cases medium with
  | device | scarceDevice | memory => exact rfl
  | file => exact ⟨rfl, _, rfl⟩

lemma Unchanged.contents?_eq (h : medium.Unchanged before after) :
    Storage.contents? after = Storage.contents? before := by
  cases medium with
  | device | memory => exact congrArg Storage.contents? h
  | scarceDevice => exact congrArg (@Storage.contents? Device Cursor _) h
  | file =>
    obtain ⟨hhost, setbacks, hfile⟩ := h
    show (HostedFile.host after).contents? (HostedFile.file after).path =
      (HostedFile.host before).contents? (HostedFile.file before).path
    rw [hhost, hfile]

/-- To open a reader is not a matter of the request. -/
lemma isRefusal_of_openReader (h : Storage.openReader store = .error failure) :
    failure.isRefusal = false := by
  cases medium with
  | device | scarceDevice | memory => cases h
  | file =>
    replace h : FileCursor.openAt (HostedFile.host store) (HostedFile.file store).path =
      .error failure := h
    unfold FileCursor.openAt at h
    split at h
    · cases h
    · cases h
      rfl

/-- An append fails for a reason of its own. -/
lemma isRefusal_of_append (h : Storage.append store data = (after, .failed failure)) :
    failure.isRefusal = false := by
  cases medium with
  | device => cases h
  | scarceDevice =>
    obtain ⟨⟨size, rfl⟩, -⟩ := ScarceDevice.append_eq_failed h
    rfl
  | file =>
    obtain ⟨fault, rfl, -⟩ := HostedFile.append_eq_failed h
    rfl
  | memory =>
    obtain ⟨rfl, -⟩ := MemoryStore.append_eq_failed h
    rfl

/-- An append that fails and stores nothing leaves the storage as it was, unless its bytes are held
back. -/
lemma unchanged_of_append (h : Storage.append store data = (after, .failed failure))
    (hnothing : medium.StoresNothing store after) (hroom : ¬ medium.HoldsBack store data) :
    medium.Unchanged store after := by
  cases medium with
  | device => cases h
  | scarceDevice => exact (ScarceDevice.append_eq_failed h).2
  | memory => exact (MemoryStore.append_eq_failed h).2
  | file =>
    obtain ⟨fault, -, happend⟩ := HostedFile.append_eq_failed h
    obtain ⟨log, hbefore, hafter⟩ := hnothing
    obtain ⟨hkept, hbytes⟩ := HostedFile.bytes_eq_of_files hbefore
    obtain ⟨-, hbytes'⟩ := HostedFile.bytes_eq_of_files hafter
    obtain ⟨-, hnumber⟩ :=
      DataFile.append_sameFile (HostedFile.host store) (HostedFile.file store) data
    rw [happend] at hnumber
    replace hnumber : (HostedFile.file after).number = (HostedFile.file store).number := hnumber
    rw [hnumber] at hbytes'
    exact DataFile.append_of_not_holdsBack hkept (hbytes'.trans hbytes.symm) happend hroom

end Medium

/-! ## In the lock section -/

section Locked

variable {medium : Medium} {failure : Failure} {command : Command}

namespace Shared

variable {shared : Shared medium.Store}

/-- A lock section that ends in a refusal leaves the storage and the lock as they are. -/
lemma execute_of_isRefusal (hrefusal : failure.isRefusal = true)
    (h : (shared.execute command).2 = .error (.failed failure)) :
    (shared.execute command).1 = shared := by
  cases hstores : Request.stores command with
  | false => exact execute_of_not_stores hstores shared
  | true =>
    cases hpoisoned : shared.poisoned with
    | true => exact (execute_of_poisoned hpoisoned command).1
    | false =>
      -- neither the append nor the opening of a reader ends in a refusal
      rw [execute_of_stores hstores] at h
      unfold store append at h
      rw [hpoisoned] at h
      rcases happend : Storage.append shared.storage command.bytes with ⟨after, _ | own | _⟩
      · rw [happend] at h
        replace h : (Storage.openReader after).mapError Stop.failed = .error (.failed failure) := h
        rcases hopen : Storage.openReader after with own | reader
        · rw [hopen] at h
          cases h
          exact absurd hrefusal (Bool.eq_false_iff.1 (Medium.isRefusal_of_openReader hopen))
        · rw [hopen] at h
          cases h
      · rw [happend] at h
        cases h
        exact absurd hrefusal (Bool.eq_false_iff.1 (Medium.isRefusal_of_append happend))
      · rw [happend] at h
        cases h

/-- A request is declined if it is refused, or if it is to be appended, the append fails, and nothing
of it is stored; except where a data file holds the command back. -/
def Declines (shared : Shared medium.Store) (command : Command) (failure : Failure) : Prop :=
  (failure.isRefusal = true ∧ (shared.execute command).2 = .error (.failed failure)) ∨
  (Request.stores command = true ∧ shared.poisoned = false ∧
    ¬ medium.HoldsBack shared.storage command.bytes ∧
    ∃ after, Storage.append shared.storage command.bytes = (after, .failed failure) ∧
      medium.StoresNothing shared.storage after)

/-- A request that is declined changes nothing behind the lock. -/
lemma Declines.execute_eq (h : shared.Declines command failure) :
    ∃ after, medium.Unchanged shared.storage after ∧
      (failure.isRefusal = true → after = shared.storage) ∧
      shared.execute command = ({ shared with storage := after }, .error (.failed failure)) := by
  rcases h with ⟨hrefusal, hfailed⟩ | ⟨hstores, hpoisoned, hroom, after, happend, hnothing⟩
  · exact ⟨shared.storage, Medium.unchanged_refl _, fun _ => rfl,
      Prod.ext (execute_of_isRefusal hrefusal hfailed) hfailed⟩
  · refine ⟨after, Medium.unchanged_of_append happend hnothing hroom, fun hrefusal => ?_, ?_⟩
    · exact absurd hrefusal (Bool.eq_false_iff.1 (Medium.isRefusal_of_append happend))
    · obtain ⟨storage, poisoned⟩ := shared
      simp only at hpoisoned happend
      simp only [execute_of_stores hstores, store, append, hpoisoned, happend, Bool.false_eq_true,
        if_false]

end Shared

end Locked

/-! ## In a run -/

section Declined

variable {medium : Medium} {settings : Settings} {storage : medium.Store}
  {before : List Run.Step} {run : Run medium.Store medium.Reader} {number : Nat}
  {connection : Connection medium.Reader} {command : Command} {waiting : List Command}
  {failure : Failure}

namespace Run

/-- Whatever the storage, the settings and the history: if the next command of a connection is
declined, then the worker can do nothing but carry it out, and this closes the connection and changes
nothing else.  The storage behind its lock keeps and holds back what it did before, and its log is the
same; what a full file system or scarce memory has in store for it, it may have met.  All earlier
commands were answered in full by then, and nothing was sent besides.  Whatever comes later, the
connection stays closed, nothing more is carried out for it, and nothing more is received over it or
sent.  And it is the same to all others what has become of it: put any closed connection in its place,
or one that is still open, and they take the same steps and come to the same. -/
theorem declined_request_changes_nothing
    (h : (initial settings storage).stepAll? before = some run)
    (hconnection : run.connections[number]? = some connection)
    (hphase : connection.phase = .executing command waiting)
    (hdeclines : run.shared.Declines command failure) :
    ∃ after : medium.Store,
    let start : Run medium.Store medium.Reader := initial settings storage
    let closed := connection.stopWith (some (.failed failure))
    let met : Run medium.Store medium.Reader :=
      { run with shared := { run.shared with storage := after } }
    let next := met.setConnection number closed
    medium.Unchanged run.shared.storage after ∧
    (failure.isRefusal = true → after = run.shared.storage) ∧
    Storage.contents? after = Storage.contents? run.shared.storage ∧
    run.step? (.execute number) = some next ∧
    (∀ taken later, taken.connection? = some number → run.step? taken = some later →
      taken = .execute number) ∧
    ((start.repliesTo number before).begun = none ∧
      (start.repliesTo number before).commands = commandsOf number (start.executedAll before) ∧
      (start.repliesTo number before).bytes = closed.sent) ∧
    (∀ later last, next.stepAll? later = some last →
      commandsOf number (next.executedAll later) = [] ∧ Step.receivedAll number later = [] ∧
      ∃ joined, last.connections[number]? = some { closed with joined }) ∧
    (∀ there later,
      (there.hasEnded = true ∧ there.joined = connection.joined) ∨
        (∀ taken ∈ later, taken.connection? ≠ some number ∧ taken ≠ .stopTimestamps) →
      Option.Rel (SameBeside number) (next.stepAll? later)
        ((met.setConnection number there).stepAll? later)) := by
  obtain ⟨after, hunchanged, hrefused, hexecute⟩ := hdeclines.execute_eq
  refine ⟨after, ?_⟩
  intro start closed met next
  have hclosed : next.connections[number]? = some closed :=
    getElem?_setConnection hconnection closed
  have hexchanged := exchanged_of_stepAll? h hconnection
  have howes := hexchanged.owes
  rw [hphase] at howes
  refine ⟨hunchanged, hrefused, hunchanged.contents?_eq, ?_, ?_,
    ⟨howes, hexchanged.commands_eq, hexchanged.sent_eq.symm⟩, ?_, ?_⟩
  · rw [step?_of_executing hconnection hphase, executeOn, hexecute]
  · exact fun taken later => eq_execute_of_executing hconnection hphase
  · exact fun later last hlast => stepAll?_of_hasEnded hlast hclosed rfl
  · intro there later hthere
    rw [← setConnection_setConnection met number closed there]
    rcases hthere with ⟨hended, hjoined⟩ | hothers
    · exact stepAll?_setConnection_of_hasEnded hclosed rfl hended hjoined later
    · exact stepAll?_setConnection hclosed hothers

/-- The second of three commands that come in one piece finds no memory on a device: the first is
answered, the connection is closed, and another that was accepted before goes on as if this one had
hung up. -/
theorem declined_request_changes_nothing_scarce :
    let storage : Medium.scarceDevice.Store :=
      (⟨Device.empty 2, [none, some 8]⟩ : ScarceDevice)
    let start : Run Medium.scarceDevice.Store Medium.scarceDevice.Reader :=
      initial ⟨true, 0⟩ storage
    let before : List Step :=
      [.bind, .setUp, .look, .accept, .reap, .look, .accept, .receive 0 [97, 10, 98, 10, 99, 10],
        .execute 0, .send 0 8, .send 0 8]
    let failure : Failure := .noMemory 8
    ∃ run connection, start.stepAll? before = some run ∧ run.connections[0]? = some connection ∧
      connection.phase = .executing ⟨[98, 10]⟩ [⟨[99, 10]⟩] ∧
      run.shared.Declines ⟨[98, 10]⟩ failure ∧
      (start.repliesTo 0 before).bytes = connection.sent ∧
      ∃ next, run.step? (.execute 0) = some next ∧
        Medium.scarceDevice.Unchanged run.shared.storage next.shared.storage ∧
        ∀ later, Option.Rel (SameBeside 0) (next.stepAll? later)
          ((next.setConnection 0 (connection.stopWith none)).stepAll? later) := by
  intro storage start before failure
  obtain ⟨run, connection, hrun, hconnection, hphase, hstored⟩ : ∃ run connection,
      start.stepAll? before = some run ∧ run.connections[0]? = some connection ∧
        connection.phase = .executing ⟨[98, 10]⟩ [⟨[99, 10]⟩] ∧
        run.shared = .ofStorage
          (⟨(Device.empty 2).write [97, 10], [some 8]⟩ : ScarceDevice) :=
    ⟨_, _, rfl, rfl, rfl, rfl⟩
  have hdeclines : run.shared.Declines ⟨[98, 10]⟩ failure := by
    rw [hstored]
    exact .inr ⟨by decide +kernel, rfl, id, ⟨_, rfl, _, rfl, rfl⟩⟩
  obtain ⟨after, hunchanged, -, -, hstep, -, ⟨-, -, hsent⟩, -, hothers⟩ :=
    declined_request_changes_nothing hrun hconnection hphase hdeclines
  refine ⟨run, connection, hrun, hconnection, hphase, hdeclines, hsent, _, hstep, hunchanged, ?_⟩
  intro later
  have hthere := hothers (connection.stopWith none) later (.inl ⟨rfl, rfl⟩)
  rw [setConnection_setConnection]
  exact hthere

/-- A data file can be full for once.  The command of the first connection fails with that, nothing is
in the log, and the connection is closed without a reply, but the command is held back.  Then the
command of the second connection is answered with both, and both are in the log. -/
theorem declined_command_is_stored_later :
    let storage : HostedFile :=
      ⟨⟨[(["tmp"], .directory), (["tmp", "log"], .file 0)], [.empty], []⟩,
        ⟨.ofString "/tmp/log", 0, 0, true, [], [⟨0, .noSpace, false⟩]⟩⟩
    let start : Run HostedFile FileCursor := initial ⟨true, 0⟩ storage
    let before : List Step :=
      [.bind, .setUp, .look, .accept, .reap, .look, .accept, .receive 0 [97, 10]]
    let later : List Step := [.receive 1 [98, 10], .execute 1, .send 1 8, .send 1 8]
    ∃ run next last, start.stepAll? before = some run ∧ run.step? (.execute 0) = some next ∧
      (run.shared.execute ⟨[97, 10]⟩).2 = .error (.failed (.io .noSpace)) ∧
      next.connections[0]?.map Connection.sent = some [] ∧
      Storage.contents? run.shared.storage = some [] ∧
      Storage.contents? next.shared.storage = some [] ∧
      run.shared.storage.file.held = [] ∧ next.shared.storage.file.held = [97, 10] ∧
      next.stepAll? later = some last ∧
      last.connections[1]?.map Connection.sent = some [97, 10, 98, 10] ∧
      Storage.contents? last.shared.storage = some [97, 10, 98, 10] := by
  intro storage start before later
  obtain ⟨run, hrun⟩ : ∃ run, start.stepAll? before = some run := ⟨_, rfl⟩
  obtain ⟨next, hnext⟩ : ∃ next, run.step? (.execute 0) = some next := by
    cases hrun
    exact ⟨_, rfl⟩
  have hend : (next.stepAll? later).map (fun last =>
      (last.connections[1]?.map Connection.sent, Storage.contents? last.shared.storage)) =
        some (some [97, 10, 98, 10], some [97, 10, 98, 10]) := by
    cases hrun
    cases hnext
    decide +kernel
  obtain ⟨last, hlast, hseen⟩ := Option.map_eq_some_iff.1 hend
  obtain ⟨hsent, hlog⟩ := Prod.mk.inj hseen
  refine ⟨run, next, last, hrun, hnext, ?_, ?_, ?_, ?_, ?_, ?_, hlast, hsent, hlog⟩ <;>
  · cases hrun
    cases hnext
    decide +kernel

end Run

end Declined

end CommandLog

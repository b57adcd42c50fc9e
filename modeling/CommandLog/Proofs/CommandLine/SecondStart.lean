import CommandLog.CommandLine.ServerProgram
import CommandLog.Proofs.DataFile.Names
import CommandLog.Proofs.DataFile.Setbacks
import CommandLog.Server.Run

/-!
# A second start on a data file in use

While a server keeps its log in a data file, the program is started once more with the same file and
cannot bind its address.  It gives its own data file up again, and that removes the file by its path,
whoever else has it open: `ServerProgram.failed_launch_removes_dataFile`.  From then on the server that
runs cannot open a reader any more; what it has appended and goes on to append is in the file that it
has open, and only the readers that were open before see it.

`HostedFile.Nameless` says what is left of a data file whose name is gone: there is nothing under its
path, and the file that it has open keeps its bytes.
-/

namespace CommandLog

namespace HostedFile

variable {hosted : HostedFile} {written : Bytes}

/-- A data file after several appends. -/
def appendAll (hosted : HostedFile) (pieces : List Bytes) : HostedFile :=
  pieces.foldl (fun appended data => (Storage.append appended data).1) hosted

/-- The name of the file that is open is gone; its bytes are kept. -/
structure Nameless (hosted : HostedFile) (written : Bytes) : Prop where
  reading : hosted.host.openForReading hosted.file.path = .error .notFound
  kept : hosted.file.number < hosted.host.files.length
  bytes_eq : hosted.host.bytes hosted.file.number = written
  clear : hosted.file.IsClear

lemma Nameless.append (h : hosted.Nameless written) (data : Bytes) :
    (Storage.append hosted data).1.Nameless (written ++ data) := by
  rw [append_eq h.clear]
  constructor
  · rw [FileSystem.openForReading_append, h.reading]
  · show hosted.file.number < (hosted.host.files.modify hosted.file.number _).length
    rw [List.length_modify]
    exact h.kept
  · rw [FileSystem.bytes_append _ _ _ _ h.kept, if_pos rfl, h.bytes_eq]
  · exact ⟨rfl, h.clear.setbacks_eq⟩

/-- A cursor on the file that is open reads on. -/
lemma Nameless.readToEnd (h : hosted.Nameless written) {number : Nat}
    (hnumber : hosted.file.number = number) (position : Nat) :
    Storage.readToEnd hosted (⟨.file number, position⟩ : FileCursor) =
      .ok (written.drop position,
        ⟨.file number, position + (written.drop position).length⟩) := by
  rw [← h.bytes_eq, hnumber]
  exact FileCursor.readToEnd_file hosted.host number position

/-- What every single append keeps, many keep. -/
lemma appendAll_induction {P : HostedFile → Bytes → Prop}
    (happend : ∀ hosted written data, P hosted written →
      P (Storage.append hosted data).1 (written ++ data))
    (h : P hosted written) (pieces : List Bytes) :
    P (hosted.appendAll pieces) (written ++ pieces.flatten) := by
  induction pieces generalizing hosted written with
  | nil =>
    rw [List.flatten_nil, List.append_nil]
    exact h
  | cons data others ih =>
    rw [List.flatten_cons, ← List.append_assoc]
    exact ih (happend hosted written data h)

lemma Holds.appendAll (h : hosted.Holds written) (pieces : List Bytes) :
    (hosted.appendAll pieces).Holds (written ++ pieces.flatten) :=
  appendAll_induction (fun _ _ data hbefore => hbefore.append data) h pieces

lemma Nameless.appendAll (h : hosted.Nameless written) (pieces : List Bytes) :
    (hosted.appendAll pieces).Nameless (written ++ pieces.flatten) :=
  appendAll_induction (fun _ _ data hbefore => hbefore.append data) h pieces

lemma file_appendAll (hosted : HostedFile) (pieces : List Bytes) :
    (hosted.appendAll pieces).file.path = hosted.file.path ∧
      (hosted.appendAll pieces).file.number = hosted.file.number := by
  induction pieces generalizing hosted with
  | nil => exact ⟨rfl, rfl⟩
  | cons data others ih =>
    obtain ⟨hpath, hnumber⟩ := file_append hosted data
    obtain ⟨hlater, hlater'⟩ := ih (Storage.append hosted data).1
    exact ⟨hlater.trans hpath, hlater'.trans hnumber⟩

/-- Whoever opens the data file once more and closes it takes its name away. -/
lemma Holds.close_openAt (h : hosted.Holds written) :
    ∃ second location, DataFile.openAt hosted.host hosted.file.path = .ok (hosted.host, second) ∧
      hosted.host.resolve hosted.file.path = .ok (.entry location) ∧
      second.close hosted.host = (hosted.host.withoutName location, second, .ok ()) ∧
      (⟨hosted.host.withoutName location, hosted.file⟩ : HostedFile).Nameless written := by
  obtain ⟨location, hresolve, hfind, hremove⟩ := FileSystem.remove_of_openForReading h.reading
  refine ⟨⟨hosted.file.path, hosted.file.number, hosted.host.size hosted.file.number, false, [], []⟩,
    location, ?_, hresolve, ?_, ?_⟩
  · rw [DataFile.openAt, FileSystem.openForWriting_of_openForReading h.reading]
  · rw [DataFile.IsClear.close_eq ⟨rfl, rfl⟩]
    simp only [hremove, Bool.false_eq_true, if_false]
  · exact ⟨FileSystem.openForReading_withoutName hresolve hfind, h.kept, h.bytes_eq, h.clear⟩

end HostedFile

/-- A server that cannot bind its address closes its storage, and that is all. -/
lemma Run.stepAll?_bindFails_close {σ ρ : Type} [Storage σ ρ] (settings : Settings) (storage : σ)
    (fault : Fault) :
    ∃ run : Run σ ρ, (initial settings storage).stepAll? [.bindFails fault, .close] = some run ∧
      run.shared.storage = (Storage.close storage).1 ∧
      run.stage = .returned
        (resultOf false (.error (.io fault)) (Storage.close storage).2) :=
  ⟨_, rfl, rfl, rfl⟩

namespace ServerProgram

variable {fs host : FileSystem} {file : DataFile} {options : ServerOptions} {network : Network}

/-- A server has its log in a data file, to which it has appended so far, and the program is started
once more on the same path.  If that start fails because the address is in use, it removes the file,
whether the program binds the address or the server does.  Nothing else is changed: every other name is
where it was, and all bytes are kept.  The first server goes on to append to the file that it has open,
and whoever has it open reads all of it; but a reader cannot be opened any more. -/
theorem failed_launch_removes_dataFile (hfs : fs.WellFormed)
    (hopen : DataFile.openAt fs (.ofString options.dataFile) = .ok (host, file))
    (persistent : Bool) (pieces : List Bytes) (hstorage : options.storage = .file)
    (htaken : network.bind options.address = .error .addressInUse) :
    let path : Path := .ofString options.dataFile
    let running := (⟨host, file.persist persistent⟩ : HostedFile).appendAll pieces
    let bytes := (fs.contents? path).getD [] ++ pieces.flatten
    running.host.contents? path = some bytes ∧
    ∃ after,
      launch running.host network options = (after, .error (.io .addressInUse)) ∧
      (∀ settings, ∃ second run,
        DataFile.openAt running.host path = .ok (running.host, second) ∧
        (Run.initial settings (⟨running.host, second⟩ : HostedFile)).stepAll?
          [.bindFails .addressInUse, .close] = some run ∧
        run.stage = .returned (.error (.io .addressInUse)) ∧ run.shared.storage.host = after) ∧
      after.contents? path = none ∧
      (∀ location, running.host.resolve path ≠ .ok (.entry location) →
        after.find location = running.host.find location) ∧
      (∀ number, after.bytes number = running.host.bytes number) ∧
      ∀ more,
        let later := (⟨after, running.file⟩ : HostedFile).appendAll more
        Storage.openReader later = .error (.io .notFound) ∧
        ∀ reader, Storage.openReader running = .ok reader →
          ∀ position, ∃ moved, Storage.readToEnd later { reader with position } =
            .ok ((bytes ++ more.flatten).drop position, moved) := by
  intro path running bytes
  obtain ⟨hopened, hpath, -⟩ := HostedFile.holds_openAt hfs hopen persistent
  have hholds : running.Holds bytes := hopened.appendAll pieces
  obtain ⟨hsame, -⟩ := HostedFile.file_appendAll ⟨host, file.persist persistent⟩ pieces
  have hpath : running.file.path = path := hsame.trans hpath
  obtain ⟨second, location, hsecond, hresolve, hclose, hnameless⟩ := hholds.close_openAt
  rw [hpath] at hsecond hresolve
  have hclosed : Storage.close (⟨running.host, second⟩ : HostedFile) =
      (⟨running.host.withoutName location, second⟩, .ok ()) := by
    simp only [Storage.close, hclose]
  have hgone := hnameless.reading
  rw [hpath] at hgone
  refine ⟨?_, running.host.withoutName location, ?_, fun settings => ?_, ?_, ?_, fun _ => rfl,
    fun more => ?_⟩
  · rw [← hpath]
    exact hholds.contents?_eq
  · replace hsecond : DataFile.openAt running.host (.ofString options.dataFile) =
      .ok (running.host, second) := hsecond
    simp only [launch, hstorage, hsecond, bind, htaken, Server.giveUp, hclosed]
  · obtain ⟨run, hrun, hleft, hstage⟩ := Run.stepAll?_bindFails_close settings
      (⟨running.host, second⟩ : HostedFile) .addressInUse
    rw [hclosed] at hleft hstage
    exact ⟨second, run, hsecond, hrun, hstage, congrArg HostedFile.host hleft⟩
  · rw [FileSystem.contents?, hgone]
  · intro there hthere
    apply FileSystem.find_withoutName_of_ne
    rintro rfl
    exact hthere hresolve
  · have hlater := hnameless.appendAll more
    obtain ⟨-, hnumber⟩ := HostedFile.file_appendAll
      ⟨running.host.withoutName location, running.file⟩ more
    refine ⟨?_, ?_⟩
    · show FileCursor.openAt _ _ = _
      rw [FileCursor.openAt, hlater.reading]
    · intro reader hreader position
      replace hreader : FileCursor.openAt running.host running.file.path = .ok reader := hreader
      rw [FileCursor.openAt, hholds.reading] at hreader
      cases hreader
      exact ⟨_, hlater.readToEnd hnumber position⟩

/-- The first server has appended one line when the program is started once more on `/tmp/log`, and
appends one more line after that. -/
theorem failed_launch_removes_dataFile_once :
    ∃ host file after,
      DataFile.openAt (.ofDirectories [["tmp"]] []) (.ofString "/tmp/log") = .ok (host, file) ∧
      let running := (⟨host, file.persist false⟩ : HostedFile).appendAll [[97, 10]]
      running.host.contents? (.ofString "/tmp/log") = some [97, 10] ∧
      launch running.host ⟨[⟨.v4 [0, 0, 0, 0], 9000⟩], 1024, 1, true⟩
        ⟨⟨.v4 [0, 0, 0, 0], 9000⟩, .file, "/tmp/log", 10, 10, false, false⟩ =
          (after, .error (.io .addressInUse)) ∧
      after.contents? (.ofString "/tmp/log") = none ∧
      Storage.openReader ((⟨after, running.file⟩ : HostedFile).appendAll [[98, 10]]) =
        .error (.io .notFound) := by
  obtain ⟨host, file, hopen⟩ : ∃ host file,
      DataFile.openAt (.ofDirectories [["tmp"]] []) (.ofString "/tmp/log") = .ok (host, file) :=
    ⟨_, _, rfl⟩
  obtain ⟨hbefore, after, hlaunch, -, hafter, -, -, hlater⟩ :=
    @failed_launch_removes_dataFile _ host file
      ⟨⟨.v4 [0, 0, 0, 0], 9000⟩, .file, "/tmp/log", 10, 10, false, false⟩
      ⟨[⟨.v4 [0, 0, 0, 0], 9000⟩], 1024, 1, true⟩
      (FileSystem.wellFormed_ofDirectories [["tmp"]] []) hopen false [[97, 10]] rfl rfl
  exact ⟨host, file, after, hopen, hbefore, hlaunch, hafter, (hlater [[98, 10]]).1⟩

/-- So a failed start does harm a server that runs: neither does the file stay under its path, nor can
the server open a reader on it any more. -/
theorem not_failed_launch_spares_dataFile :
    ¬ ∀ (fs host : FileSystem) (file : DataFile) (options : ServerOptions) (network : Network)
      (pieces : List Bytes), fs.WellFormed →
      DataFile.openAt fs (.ofString options.dataFile) = .ok (host, file) →
      options.storage = .file → network.bind options.address = .error .addressInUse →
      let path : Path := .ofString options.dataFile
      let running := (⟨host, file⟩ : HostedFile).appendAll pieces
      let after := (launch running.host network options).1
      after.contents? path = running.host.contents? path ∧
        ∃ reader moved, Storage.openReader (⟨after, running.file⟩ : HostedFile) = .ok reader ∧
          Storage.readToEnd (⟨after, running.file⟩ : HostedFile) reader =
            .ok ((fs.contents? path).getD [] ++ pieces.flatten, moved) := by
  intro hspares
  obtain ⟨hcontents, -⟩ := hspares (.ofDirectories [["tmp"]] []) _ _
    ⟨⟨.v4 [0, 0, 0, 0], 9000⟩, .file, "/tmp/log", 10, 10, false, false⟩
    ⟨[⟨.v4 [0, 0, 0, 0], 9000⟩], 1024, 1, true⟩ [[97, 10]]
    (FileSystem.wellFormed_ofDirectories [["tmp"]] []) rfl rfl rfl
  exact absurd hcontents (by decide +kernel)

end ServerProgram

end CommandLog

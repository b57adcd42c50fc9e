import CommandLog.CommandLine.ServerProgram
import CommandLog.Proofs.DataFile.Names
import CommandLog.Proofs.Server.Likeness

/-!
# Serving in the background

A server that goes into the background changes its working directory to the root, after it has opened
its data file.  The file stays open, but its path is followed again for every reader and for the
removal at the end.  Whether that makes a difference depends on the path alone: if it leads to the same
place from the root, as every absolute path does, then the two servers cannot be told apart,
`ServerProgram.background_agrees_with_foreground`.  A path that leads elsewhere from the root makes the
server in the background lose its file, `ServerProgram.not_background_agrees_with_foreground`.

`HostedFile.SeenFrom` relates a data file to itself with another working directory, and
`HostedFile.likeness_seenFrom` says that no operation on the storage sees the difference.
-/

namespace CommandLog

namespace FileSystem

variable {fs : FileSystem} {path : Path} {working : Location}

/-- An absolute path leads to the same place from everywhere. -/
lemma resolve_changeDirectory_of_isAbsolute (h : path.isAbsolute = true) :
    (fs.changeDirectory working).resolve path = fs.resolve path := by
  have hfollow : (fs.changeDirectory working).follow [] path.names = fs.follow [] path.names := by
    apply follow_congr
    rfl
  simp only [resolve, h, if_true, hfollow]

/-- If a path leads to the same place from another directory, it still does after the file there was
opened, and made if it was not there. -/
lemma resolve_changeDirectory_of_openForWriting {host : FileSystem} {number : Nat}
    (h : fs.openForWriting path = .ok (host, number))
    (hpath : (fs.changeDirectory working).resolve path = fs.resolve path) :
    (host.changeDirectory working).resolve path = host.resolve path := by
  obtain ⟨location, hresolve, -, ⟨-, rfl⟩ | ⟨-, hmade⟩⟩ := openForWriting_eq_ok h
  · exact hpath
  · cases hmade
    have hhere : (fs.makeFile location).1.resolve path = .ok (.entry location) :=
      resolve_of_find hresolve rfl fun _ hthere => find_of_nodes_append rfl hthere
    have hthere : ((fs.makeFile location).1.changeDirectory working).resolve path =
        .ok (.entry location) := by
      apply resolve_of_find (hpath.trans hresolve)
      · rfl
      · exact fun _ hthere => find_of_nodes_append rfl hthere
    exact hthere.trans hhere.symm

end FileSystem

namespace HostedFile

/-- The same data file, with another working directory from which its path leads to the same
place. -/
structure SeenFrom (working : Location) (hosted other : HostedFile) : Prop where
  other_eq : other = ⟨hosted.host.changeDirectory working, hosted.file⟩
  resolve_eq : (hosted.host.changeDirectory working).resolve hosted.file.path =
    hosted.host.resolve hosted.file.path
  clear : hosted.file.IsClear

variable {working : Location} {hosted other : HostedFile}

lemma SeenFrom.openForReading_eq (h : SeenFrom working hosted other) :
    other.host.openForReading other.file.path = hosted.host.openForReading hosted.file.path := by
  obtain ⟨rfl, hresolve, -⟩ := h
  apply FileSystem.openForReading_congr
  · rfl
  · exact hresolve

lemma SeenFrom.append (h : SeenFrom working hosted other) (data : Bytes) :
    SeenFrom working (Storage.append hosted data).1 (Storage.append other data).1 := by
  obtain ⟨rfl, hresolve, hclear⟩ := h
  rw [append_eq hclear, @append_eq ⟨hosted.host.changeDirectory working, hosted.file⟩ hclear]
  refine ⟨rfl, ?_, ⟨rfl, hclear.setbacks_eq⟩⟩
  have hthere := FileSystem.resolve_append (hosted.host.changeDirectory working)
    hosted.file.number data hosted.file.path
  have hhere := FileSystem.resolve_append hosted.host hosted.file.number data hosted.file.path
  exact hthere.trans (hresolve.trans hhere.symm)

/-- After the file was removed, its path still leads to the place where it was. -/
lemma SeenFrom.remove {after : FileSystem} (h : SeenFrom working hosted other)
    (hremove : hosted.host.remove hosted.file.path = .ok after) :
    SeenFrom working { hosted with host := after }
      { hosted with host := after.changeDirectory working } := by
  obtain ⟨rfl, hpath, hclear⟩ := h
  obtain ⟨location, number, hresolve, hfind, rfl⟩ := FileSystem.remove_eq_ok hremove
  refine ⟨rfl, ?_, hclear⟩
  have hhere := FileSystem.resolve_withoutName hfind hresolve
  have hthere : ((hosted.host.changeDirectory working).withoutName location).resolve
      hosted.file.path = .ok (.entry location) :=
    FileSystem.resolve_withoutName hfind (hpath.trans hresolve)
  exact hthere.trans hhere.symm

/-- Closing removes the same name, if any. -/
lemma SeenFrom.close (h : SeenFrom working hosted other) :
    SeenFrom working (Storage.close hosted).1 (Storage.close other).1 ∧
      (Storage.close other).2 = (Storage.close hosted).2 := by
  obtain ⟨rfl, hresolve, hclear⟩ := id h
  have hremove : (hosted.host.changeDirectory working).remove hosted.file.path =
      (hosted.host.remove hosted.file.path).map fun after =>
        { hosted.host.changeDirectory working with nodes := after.nodes } :=
    FileSystem.remove_congr rfl hresolve
  rw [close_eq hclear, @close_eq ⟨hosted.host.changeDirectory working, hosted.file⟩ hclear]
  cases hosted.file.persistent with
  | true => exact ⟨h, rfl⟩
  | false =>
    simp only [hremove, Bool.false_eq_true, if_false]
    rcases hthis : hosted.host.remove hosted.file.path with fault | after
    · cases fault <;> exact ⟨h, rfl⟩
    · obtain ⟨location, number, -, -, hafter⟩ := FileSystem.remove_eq_ok hthis
      have hmoved := h.remove hthis
      rw [hafter] at hmoved ⊢
      exact ⟨hmoved, rfl⟩

lemma likeness_seenFrom (working : Location) : Storage.Likeness (SeenFrom working) where
  append {hosted other} h data := by
    have hclear : other.file.IsClear := h.other_eq ▸ h.clear
    exact ⟨h.append data, (append_snd hclear data).trans (append_snd h.clear data).symm⟩
  openReader h := by
    show FileCursor.openAt _ _ = FileCursor.openAt _ _
    rw [FileCursor.openAt, h.openForReading_eq, FileCursor.openAt]
  seekTo _ _ _ _ := rfl
  readToEnd h reader := by
    obtain ⟨rfl, -⟩ := h
    rfl
  wantsTimestamps _ := rfl
  close h := h.close
  contents?_eq h := by
    show FileSystem.contents? _ _ = FileSystem.contents? _ _
    rw [FileSystem.contents?, h.openForReading_eq, FileSystem.contents?]
    obtain ⟨rfl, -⟩ := h
    rfl

end HostedFile

namespace ServerProgram

variable {fs : FileSystem} {network : Network} {options : ServerOptions}

/-- The data file that the program opens, seen from the root. -/
lemma seenFrom_openAt {host : FileSystem} {path : Path} {file : DataFile}
    (h : DataFile.openAt fs path = .ok (host, file))
    (hpath : (fs.changeDirectory []).resolve path = fs.resolve path) :
    HostedFile.SeenFrom [] ⟨host, file⟩ ⟨host.changeDirectory [], file⟩ := by
  unfold DataFile.openAt at h
  split at h
  · cases h
  · next opened number hopen =>
    cases h
    exact ⟨rfl, FileSystem.resolve_changeDirectory_of_openForWriting hopen hpath, ⟨rfl, rfl⟩⟩

/-- Giving a storage up always reports a failure. -/
lemma exists_giveUp_eq {σ ρ : Type} [Storage σ ρ] (storage : σ) (failure : Failure) :
    ∃ after reported, Server.giveUp storage failure = (after, .error reported) := by
  unfold Server.giveUp
  split
  · exact ⟨_, _, rfl⟩
  · exact ⟨_, _, rfl⟩

/-- A server with its log in a data file is started in the background and, with the same options
otherwise, in the foreground, and the path of the file leads to the same place from the root as from
the working directory.  Either both fail to start, in the same way, or both serve.  Then, whatever
happens, the same is sent to everybody and the same connections are closed at the same times, there
are the same bytes in the file and in all others, the two stop with the same result, and the same file
is there or is gone: the file systems are the same but for the working directory. -/
theorem background_agrees_with_foreground (hstorage : options.storage = .file)
    (hpath : (fs.changeDirectory []).resolve (.ofString options.dataFile) =
      fs.resolve (.ofString options.dataFile)) :
    let foreground := launch fs network { options with background := false }
    let background := launch fs network { options with background := true }
    (∀ failure, foreground.2 = .error failure → background = foreground) ∧
    ∀ service, foreground.2 = .ok service →
      ∃ server other, service = .file server ∧ background.2 = .ok (.file other) ∧
        ∀ events,
          (other.handleAll events).2 = (server.handleAll events).2 ∧
          (∀ number, (other.handleAll events).1.isOpen number =
            (server.handleAll events).1.isOpen number) ∧
          (other.handleAll events).1.log? = (server.handleAll events).1.log? ∧
          (other.handleAll events).1.result = (server.handleAll events).1.result ∧
          (other.handleAll events).1.shared.storage.host =
            (server.handleAll events).1.shared.storage.host.changeDirectory [] := by
  intro foreground background
  have hforeground : foreground = launch fs network { options with background := false } := rfl
  have hbackground : background = launch fs network { options with background := true } := rfl
  clear_value foreground background
  simp only [launch, hstorage, bind, detach, Bool.false_eq_true, if_false, if_true]
    at hforeground hbackground
  rcases hopen : DataFile.openAt fs (.ofString options.dataFile) with failure | ⟨host, file⟩
  · -- the file cannot be opened
    rw [hopen] at hforeground hbackground
    subst hforeground hbackground
    exact ⟨fun _ _ => rfl, fun _ hservice => nomatch hservice⟩
  · rw [hopen] at hforeground hbackground
    rcases hbind : network.bind options.address with fault | _
    · -- the address cannot be bound
      rw [hbind] at hforeground hbackground
      obtain ⟨hosted, failure, hgiven⟩ := exists_giveUp_eq (⟨host, file⟩ : HostedFile) (.io fault)
      simp only [hgiven] at hforeground hbackground
      subst hforeground hbackground
      exact ⟨fun _ _ => rfl, fun _ hservice => nomatch hservice⟩
    · rw [hbind] at hforeground hbackground
      subst hforeground hbackground
      refine ⟨fun _ hfailure => (nomatch hfailure), fun service hservice => ?_⟩
      cases hservice
      refine ⟨_, _, rfl, rfl, fun events => ?_⟩
      have hstart := Server.resembles_start (seenFrom_openAt hopen hpath) (settings options)
      obtain ⟨hlast, hreplies⟩ :=
        hstart.handleAll (HostedFile.likeness_seenFrom []) events
      refine ⟨hreplies, hlast.isOpen_eq, hlast.log?_eq (HostedFile.likeness_seenFrom []),
        hlast.result_eq, ?_⟩
      exact congrArg HostedFile.host hlast.shared.storage.other_eq

/-- Started in `/srv` with the data file `/srv/log`, a server answers a line with the line and removes
the file when it stops, in the background as in the foreground. -/
theorem background_agrees_with_foreground_absolute :
    let events : List Server.Event := [.connect 0, .receive 0 [97, 10], .stop]
    let start (background : Bool) :=
      launch (.ofDirectories [["srv"]] ["srv"]) ⟨[], 1024, 1, true⟩
        ⟨⟨.v4 [0, 0, 0, 0], 9000⟩, .file, "/srv/log", 10, 0, false, background⟩
    ∃ server other, (start false).2 = .ok (.file server) ∧ (start true).2 = .ok (.file other) ∧
      (server.handleAll events).2 = [[], [97, 10], []] ∧
      (other.handleAll events).2 = (server.handleAll events).2 ∧
      (server.handleAll events).1.log? = none ∧
      (other.handleAll events).1.log? = (server.handleAll events).1.log? := by
  intro events start
  have hpath : ((FileSystem.ofDirectories [["srv"]] ["srv"]).changeDirectory []).resolve
      (.ofString "/srv/log") =
        (FileSystem.ofDirectories [["srv"]] ["srv"]).resolve (.ofString "/srv/log") :=
    FileSystem.resolve_changeDirectory_of_isAbsolute rfl
  obtain ⟨server, hserver, hreplies, hlog⟩ : ∃ server, (start false).2 = .ok (.file server) ∧
      (server.handleAll events).2 = [[], [97, 10], []] ∧
      (server.handleAll events).1.log? = none :=
    ⟨_, rfl, by decide +kernel, by decide +kernel⟩
  obtain ⟨_, other, hservice, hother, hagree⟩ :=
    (@background_agrees_with_foreground _ ⟨[], 1024, 1, true⟩
      ⟨⟨.v4 [0, 0, 0, 0], 9000⟩, .file, "/srv/log", 10, 0, false, false⟩ rfl hpath).2 _ hserver
  cases hservice
  obtain ⟨hsame, -, hlogs, -, -⟩ := hagree events
  exact ⟨_, other, hserver, hother, hreplies, hsame, hlog, hlogs⟩

/-- It is otherwise with a path that leads elsewhere from the root: started in `/srv` with the data
file `log`, a server answers a line with the line in the foreground, and with nothing in the
background. -/
theorem not_background_agrees_with_foreground :
    ¬ ∀ (fs : FileSystem) (network : Network) (options : ServerOptions)
      (server other : Server HostedFile), fs.WellFormed → options.storage = .file →
      (launch fs network { options with background := false }).2 = .ok (.file server) →
      (launch fs network { options with background := true }).2 = .ok (.file other) →
      ∀ events, (other.handleAll events).2 = (server.handleAll events).2 ∧
        (∀ number, (other.handleAll events).1.shared.storage.host.bytes number =
          (server.handleAll events).1.shared.storage.host.bytes number) ∧
        ∀ location, (other.handleAll events).1.shared.storage.host.node? location =
          (server.handleAll events).1.shared.storage.host.node? location := by
  intro hagree
  obtain ⟨hreplies, -⟩ := hagree (.ofDirectories [["srv"]] ["srv"]) ⟨[], 1024, 1, true⟩
    ⟨⟨.v4 [0, 0, 0, 0], 9000⟩, .file, "log", 10, 0, false, false⟩ _ _
    (FileSystem.wellFormed_ofDirectories [["srv"]] ["srv"]) rfl rfl rfl
    [.connect 0, .receive 0 [97, 10]]
  exact absurd hreplies (by decide +kernel)

end ServerProgram

end CommandLog

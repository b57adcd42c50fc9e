import CommandLog.Storage

/-!
# Data files in use

A `Workspace` holds a file system, the data files opened in it and the cursors open on files.
Several data files may be open on one path, and what is appended through one of them is seen by the
cursors of all.  Between the appends anyone may write, remove or make files and directories.

A history of a workspace is a list of `Workspace.Action`s; `Workspace.step` carries one action out
and gives its answer, and `Workspace.stepAll` a history.  Data files and cursors are known by the
order in which they were opened.
-/

namespace CommandLog

/-- A file system, the data files opened in it, and the cursors open on files. -/
structure Workspace where
  fs : FileSystem
  /-- The data files; one that was forgotten leaves its number behind. -/
  files : List (Option DataFile)
  cursors : List FileCursor

namespace Workspace

/-- What can be done in a workspace. -/
inductive Action where
  | openFile (path : Path)
  | persist (file : Nat) (persistent : Bool)
  /-- Forgets a data file without closing it. -/
  | forget (file : Nat)
  | append (file : Nat) (data : Bytes)
  | close (file : Nat)
  | openCursor (file : Nat)
  | seekTo (file cursor : Nat) (command offset : UInt32)
  | read (cursor room : Nat)
  | readToEnd (cursor : Nat)
  | seek (cursor : Nat) (whence : Whence)
  | put (path : Path) (data : Bytes)
  | makeDirectory (path : Path)
  | remove (path : Path)

/-- What an action answers. -/
inductive Answer where
  | done
  /-- The number of a new data file, and its length. -/
  | opened (index length : Nat)
  /-- The number of a new cursor. -/
  | made (index : Nat)
  | length (length : Nat)
  | bytes (data : Bytes)
  | position (position : Nat)
  /-- Whether a plain operation on files worked. -/
  | worked (ok : Bool)
  | fault (fault : Fault)
  | failure (failure : Failure)

/-- No data file opened yet. -/
def ofFileSystem (fs : FileSystem) : Workspace := ⟨fs, [], []⟩

/-- A data file by its number. -/
def file? (workspace : Workspace) (file : Nat) : Option DataFile :=
  workspace.files[file]?.join

/-- Puts a data file in the place of the one with its number. -/
def setFile (workspace : Workspace) (number : Nat) (file : Option DataFile) : Workspace :=
  { workspace with files := workspace.files.set number file }

/-- Puts a cursor in the place of the one with its number. -/
def place (workspace : Workspace) (number : Nat) (moved : FileCursor) : Workspace :=
  { workspace with cursors := workspace.cursors.set number moved }

/-- Goes on with the file system that a plain operation leaves, and says whether it worked. -/
def adopt (workspace : Workspace) (outcome : Except Fault FileSystem) : Workspace × Answer :=
  match outcome with
  | .ok fs => ({ workspace with fs }, .worked true)
  | .error _ => (workspace, .worked false)

/-- Carries an action out.  There is no answer if it names a data file or a cursor that was never
made. -/
def step (workspace : Workspace) : Action → Option (Workspace × Answer)
  | .openFile path =>
    match DataFile.openAt workspace.fs path with
    | .ok (fs, file) =>
      some ({ workspace with fs, files := workspace.files ++ [some file] },
        .opened workspace.files.length file.length)
    | .error failure => some (workspace, .failure failure)
  | .persist number persistent => do
    let file ← workspace.file? number
    return (workspace.setFile number (some (file.persist persistent)), .done)
  | .forget number => do
    let _ ← workspace.file? number
    return (workspace.setFile number none, .done)
  | .append number data => do
    let file ← workspace.file? number
    match file.append workspace.fs data with
    | (fs, file, .ok ()) =>
      return ({ workspace with fs }.setFile number (some file), .length file.length)
    | (fs, file, .error fault) =>
      return ({ workspace with fs }.setFile number (some file), .failure (.io fault))
  | .close number => do
    let file ← workspace.file? number
    match file.close workspace.fs with
    | (fs, file, .ok ()) => return ({ workspace with fs }.setFile number (some file), .done)
    | (fs, file, .error failure) =>
      return ({ workspace with fs }.setFile number (some file), .failure failure)
  | .openCursor number => do
    let file ← workspace.file? number
    match FileCursor.openAt workspace.fs file.path with
    | .ok cursor =>
      return ({ workspace with cursors := workspace.cursors ++ [cursor] },
        .made workspace.cursors.length)
    | .error failure => return (workspace, .failure failure)
  | .seekTo number cursor command offset => do
    let file ← workspace.file? number
    let at_ ← workspace.cursors[cursor]?
    let hosted : HostedFile := ⟨workspace.fs, file⟩
    match Storage.seekTo hosted at_ command offset with
    | .ok moved => return (workspace.place cursor moved, .position moved.position)
    | .error failure => return (workspace, .failure failure)
  | .read cursor room => do
    let at_ ← workspace.cursors[cursor]?
    match at_.read workspace.fs room with
    | .ok (piece, moved) => return (workspace.place cursor moved, .bytes piece)
    | .error fault => return (workspace, .fault fault)
  | .readToEnd cursor => do
    let at_ ← workspace.cursors[cursor]?
    match at_.readToEnd workspace.fs with
    | .ok (piece, moved) => return (workspace.place cursor moved, .bytes piece)
    | .error fault => return (workspace, .fault fault)
  | .seek cursor whence => do
    let at_ ← workspace.cursors[cursor]?
    match at_.seek workspace.fs whence with
    | .ok moved => return (workspace.place cursor moved, .position moved.position)
    | .error fault => return (workspace, .fault fault)
  | .put path data => some (workspace.adopt (workspace.fs.put path data))
  | .makeDirectory path => some (workspace.adopt (workspace.fs.makeDirectory path))
  | .remove path => some (workspace.adopt (workspace.fs.remove path))

/-- Carries a history out, and gives the answers in order. -/
def stepAll (workspace : Workspace) : List Action → Option (Workspace × List Answer)
  | [] => some (workspace, [])
  | action :: others => do
    let (workspace, answer) ← workspace.step action
    let (workspace, answers) ← workspace.stepAll others
    return (workspace, answer :: answers)

end Workspace

end CommandLog

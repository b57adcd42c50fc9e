import CommandLog.Device
import CommandLog.FileSystem

/-!
# The data file

A data file keeps every command ever appended.  It is opened once for appending, and what is
appended lands at the end of the file as it is then, whoever else has appended to it.  Its own
`length` counts what the file held when it was opened and what was written through it since.

What is written is held back for a while, as far as there is room, and handed to the file by a
flush.  An append is a write and a flush.  As long as the file takes all that it is handed, nothing
is held back after an append, however much was written: `DataFile.append_eq`.

A file need not take everything.  The `Setback`s of a data file are what it is still to meet: after
so many more bytes the operating system refuses a write.  Then what is held back stays held back, and
counted, and is handed to the file again with whatever is written next, or by the closing.

Reading goes by the path again, each time, and so does the removal when the data file is closed.
Between the two a path can have come to mean something else: another file, a directory, or nothing.

A `FileCursor` reads what is in its file at the time of the read (`FileCursor.read_file`).

Left out are a write that takes no byte and reports no fault, and the last attempt at handing over
what is held back when a data file is dropped, after its closing has failed or without one.
-/

namespace CommandLog

/-- That the operating system refuses to write to an open file. -/
structure Setback where
  /-- So many bytes still go through before. -/
  room : Nat
  fault : Fault
  /-- Is every later write refused as well, and not only the first one? -/
  lasting : Bool
  deriving DecidableEq

/-- A file opened for appending, with the path under which it was opened. -/
structure DataFile where
  path : Path
  /-- The number of the file that is open. -/
  number : Nat
  length : Nat
  /-- Does the file outlive its closing? -/
  persistent : Bool
  /-- What was written and not yet handed to the file. -/
  held : Bytes
  /-- What the file is still to meet, the next one first.  After the last one it takes everything. -/
  setbacks : List Setback
  deriving DecidableEq

namespace DataFile

/-- Opens the file at a path, which is made if it is not there.  What it holds is kept. -/
def openAt (fs : FileSystem) (path : Path) : Except Failure (FileSystem × DataFile) :=
  match fs.openForWriting path with
  | .error fault => .error (.io fault)
  | .ok (fs, number) => .ok (fs, ⟨path, number, fs.size number, false, [], []⟩)

/-- Says whether the file is to outlive its closing. -/
def persist (file : DataFile) (persistent : Bool) : DataFile := { file with persistent }

/-- The data file, with these setbacks before it. -/
def meeting (file : DataFile) (setbacks : List Setback) : DataFile := { file with setbacks }

/-- Is nothing known to be in the file? -/
def isEmpty (file : DataFile) : Bool := file.length == 0

/-- So many bytes are held back at most. -/
def holdingRoom : Nat := 8192

/-- Holds bytes back, behind those that are already. -/
def hold (file : DataFile) (data : Bytes) : DataFile :=
  { file with length := file.length + data.length, held := file.held ++ data }

/-- Hands bytes to the open file, at its end, as far as they go through.  The answer is what is left
of them. -/
def hand (fs : FileSystem) (file : DataFile) (data : Bytes) : FileSystem × DataFile × Bytes :=
  match file.setbacks with
  | [] => (fs.append file.number data, file, [])
  | setback :: later =>
    (fs.append file.number (data.take setback.room),
      { file with setbacks := { setback with room := setback.room - data.length } :: later },
      data.drop setback.room)

/-- Meets the next setback, which a lasting one remains. -/
def meet (file : DataFile) : DataFile × Except Fault Unit :=
  match file.setbacks with
  | [] => (file, .ok ())
  | setback :: later =>
    (if setback.lasting then file else { file with setbacks := later }, .error setback.fault)

/-- Hands what is held back to the open file.  What the file does not take stays held back. -/
def flush (fs : FileSystem) (file : DataFile) : FileSystem × DataFile × Except Fault Unit :=
  let (fs, file, held) := file.hand fs file.held
  let file := { file with held }
  if held = [] then (fs, file, .ok ()) else (fs, file.meet)

/-- Makes room for bytes, if there is too little for them beside those that are held back already. -/
def makeRoom (fs : FileSystem) (file : DataFile) (data : Bytes) :
    FileSystem × DataFile × Except Fault Unit :=
  if holdingRoom < file.held.length + data.length then file.flush fs else (fs, file, .ok ())

/-- Writes bytes for which there is room now.  Those that all the room would not be enough for go to
the file at once, until so few are left that they can be held back. -/
def writeThrough (fs : FileSystem) (file : DataFile) (data : Bytes) :
    FileSystem × DataFile × Except Fault Unit :=
  if data.length < holdingRoom then (fs, file.hold data, .ok ())
  else
    let (fs, file, left) := file.hand fs data
    let file := { file with length := file.length + (data.length - left.length) }
    if left.length < holdingRoom then (fs, file.hold left, .ok ()) else (fs, file.meet)

/-- Writes bytes.  If those before them cannot be handed to the file to make room, these are not
taken in. -/
def write (fs : FileSystem) (file : DataFile) (data : Bytes) :
    FileSystem × DataFile × Except Fault Unit :=
  match file.makeRoom fs data with
  | (fs, file, .ok ()) => file.writeThrough fs data
  | refused => refused

/-- Appends bytes at the end of the open file. -/
def append (fs : FileSystem) (file : DataFile) (data : Bytes) :
    FileSystem × DataFile × Except Fault Unit :=
  match file.write fs data with
  | (fs, file, .ok ()) => file.flush fs
  | refused => refused

/-- Removes the file by its path, unless it is persistent.  A name that is gone already is no
failure.  As long as something is held back that the file does not take, nothing is removed. -/
def close (fs : FileSystem) (file : DataFile) : FileSystem × DataFile × Except Failure Unit :=
  match file.flush fs with
  | (fs, file, .error fault) => (fs, file, .error (.io fault))
  | (fs, file, .ok ()) =>
    if file.persistent then (fs, file, .ok ())
    else
      match fs.remove file.path with
      | .ok fs => (fs, file, .ok ())
      | .error .notFound => (fs, file, .ok ())
      | .error fault => (fs, file, .error (.io fault))

/-! ## Where nothing goes wrong -/

/-- Nothing is held back, and the file takes everything. -/
structure IsClear (file : DataFile) : Prop where
  held_eq : file.held = []
  setbacks_eq : file.setbacks = []

section Clear

variable {file : DataFile}

theorem IsClear.persist (h : file.IsClear) (persistent : Bool) : (file.persist persistent).IsClear :=
  ⟨h.held_eq, h.setbacks_eq⟩

theorem hand_of_setbacks_eq_nil (h : file.setbacks = []) (fs : FileSystem) (data : Bytes) :
    file.hand fs data = (fs.append file.number data, file, []) := by
  rw [hand, h]

theorem flush_of_setbacks_eq_nil (h : file.setbacks = []) (fs : FileSystem) :
    file.flush fs = (fs.append file.number file.held, { file with held := [] }, .ok ()) := by
  simp only [flush, hand_of_setbacks_eq_nil h, if_true]

/-- What is written goes behind what is held back, and with that to the file. -/
theorem flush_writeThrough (h : file.setbacks = []) (fs : FileSystem) (data : Bytes)
    (hlarge : holdingRoom ≤ data.length → file.held = []) :
    ∃ (host : FileSystem) (written : DataFile),
      file.writeThrough fs data = (host, written, .ok ()) ∧
      written.flush host =
        (fs.append file.number (file.held ++ data),
          { file with length := file.length + data.length, held := [] }, .ok ()) := by
  unfold writeThrough
  by_cases hsmall : data.length < holdingRoom
  · have hclear : (file.hold data).setbacks = [] := h
    refine ⟨_, _, if_pos hsmall, ?_⟩
    rw [flush_of_setbacks_eq_nil hclear]
    rfl
  · have hclear : ({ file with length := file.length + data.length } : DataFile).setbacks = [] := h
    have hheld := hlarge (Nat.le_of_not_lt hsmall)
    simp only [if_neg hsmall, hand_of_setbacks_eq_nil h, hold, List.length_nil, Nat.sub_zero,
      Nat.add_zero, List.append_nil]
    refine ⟨_, _, rfl, ?_⟩
    rw [flush_of_setbacks_eq_nil hclear, hheld, FileSystem.append_nil, List.nil_append]

/-- However many bytes there are, an append puts them at the end of the open file, behind what was
held back before, and holds nothing back. -/
theorem append_eq (h : file.setbacks = []) (fs : FileSystem) (data : Bytes) :
    file.append fs data =
      (fs.append file.number (file.held ++ data),
        { file with length := file.length + data.length, held := [] }, .ok ()) := by
  unfold append write makeRoom
  by_cases hfull : holdingRoom < file.held.length + data.length
  · have hempty : ({ file with held := [] } : DataFile).setbacks = [] := h
    obtain ⟨host, written, hwrite, hflush⟩ :=
      flush_writeThrough hempty (fs.append file.number file.held) data fun _ => rfl
    simp only [if_pos hfull, flush_of_setbacks_eq_nil h, hwrite, hflush, FileSystem.append_append,
      List.nil_append]
  · -- so much fits only where nothing was held back
    obtain ⟨host, written, hwrite, hflush⟩ :=
      flush_writeThrough h fs data fun hlarge => List.length_eq_zero_iff.1 (by omega)
    simp only [if_neg hfull, hwrite, hflush]

/-- With nothing held back, closing is the removal alone. -/
theorem IsClear.close_eq (h : file.IsClear) (fs : FileSystem) :
    file.close fs =
      if file.persistent then (fs, file, .ok ())
      else
        match fs.remove file.path with
        | .ok fs => (fs, file, .ok ())
        | .error .notFound => (fs, file, .ok ())
        | .error fault => (fs, file, .error (.io fault)) := by
  have hflush : file.flush fs = (fs, file, .ok ()) := by
    have hsame : { file with held := [] } = file := by rw [← h.held_eq]
    rw [flush_of_setbacks_eq_nil h.setbacks_eq, h.held_eq, FileSystem.append_nil, hsame]
  simp only [close, hflush]

end Clear

end DataFile

/-- A position in an open file, or in a directory, which cannot be read. -/
structure FileCursor where
  source : Node
  position : Nat
  deriving DecidableEq

namespace FileCursor

/-- Opens what is at a path and begins at its start. -/
def openAt (fs : FileSystem) (path : Path) : Except Failure FileCursor :=
  match fs.openForReading path with
  | .ok source => .ok ⟨source, 0⟩
  | .error fault => .error (.io fault)

/-- How many bytes the source has now. -/
def size (fs : FileSystem) (cursor : FileCursor) : Nat :=
  match cursor.source with
  | .directory => 0
  | .file number => fs.size number

/-- Reads at most `room` bytes of what the file holds now. -/
def read (fs : FileSystem) (room : Nat) (cursor : FileCursor) :
    Except Fault (Bytes × FileCursor) :=
  match cursor.source with
  | .directory => .error .isADirectory
  | .file number =>
    let piece := (fs.packed number).slice cursor.position room
    .ok (piece, { cursor with position := cursor.position + piece.length })

/-- Reads all that is left of the file. -/
def readToEnd (fs : FileSystem) (cursor : FileCursor) : Except Fault (Bytes × FileCursor) :=
  cursor.read fs (cursor.size fs)

/-- The positions that a file can have at all end here: they are words with a sign. -/
def positionLimit : Nat := UInt64.size / 2

/-- Moves to the given place, which may lie behind the end but not before the start. -/
def seek (fs : FileSystem) (whence : Whence) (cursor : FileCursor) :
    Except Fault FileCursor :=
  let target := whence.target cursor.position (cursor.size fs)
  if 0 ≤ target ∧ target < positionLimit then .ok { cursor with position := target.toNat }
  else .error .invalidArgument

/-! ## What is read -/

theorem read_file (fs : FileSystem) (room number position : Nat) :
    read fs room ⟨.file number, position⟩ =
      .ok (((fs.bytes number).drop position).take room,
        ⟨.file number, position + (((fs.bytes number).drop position).take room).length⟩) := by
  simp only [read, Packed.slice_eq]
  rfl

theorem readToEnd_file (fs : FileSystem) (number position : Nat) :
    readToEnd fs ⟨.file number, position⟩ =
      .ok ((fs.bytes number).drop position,
        ⟨.file number, position + ((fs.bytes number).drop position).length⟩) := by
  have hle : ((fs.bytes number).drop position).length ≤ fs.size number := by
    rw [List.length_drop, FileSystem.length_bytes]
    omega
  rw [readToEnd, size, read_file, List.take_of_length_le hle]

/-- A read gives the first of what is left, and the rest is left for the next one. -/
theorem readToEnd_of_read {fs : FileSystem} {room : Nat} {cursor moved : FileCursor}
    {piece : Bytes} (h : cursor.read fs room = .ok (piece, moved)) :
    cursor.readToEnd fs =
      (moved.readToEnd fs).map fun (rest, last) => (piece ++ rest, last) := by
  obtain ⟨_ | number, position⟩ := cursor
  · simp [read] at h
  · rw [read_file] at h
    simp only [Except.ok.injEq, Prod.mk.injEq] at h
    obtain ⟨rfl, rfl⟩ := h
    have hdrop := (List.take_append_drop room ((fs.bytes number).drop position)).symm
    rw [readToEnd_file, readToEnd_file, Bytes.drop_add_length hdrop]
    simp only [Except.map, Nat.add_assoc, ← List.length_append, List.take_append_drop]

/-- A read with room for a byte comes back empty only where nothing is left. -/
theorem readToEnd_of_read_eq_nil {fs : FileSystem} {room : Nat} {cursor moved : FileCursor}
    (hroom : 0 < room) (h : cursor.read fs room = .ok ([], moved)) :
    cursor.readToEnd fs = .ok ([], cursor) := by
  obtain ⟨_ | number, position⟩ := cursor
  · simp [read] at h
  · rw [read_file] at h
    simp only [Except.ok.injEq, Prod.mk.injEq, List.take_eq_nil_iff] at h
    have hnil : (fs.bytes number).drop position = [] := by
      rcases h.1 with h | h
      · omega
      · exact h
    rw [readToEnd_file, hnil]
    rfl

end FileCursor

end CommandLog

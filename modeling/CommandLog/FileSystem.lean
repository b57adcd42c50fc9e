import CommandLog.Bytes.Packed
import CommandLog.Failure

/-!
# Files

The part of a file system that a data file lives in.  A `Path` leads from the root, or from the
working directory, to a place where a directory or a file may be; a file's bytes are kept under a
number of their own, so that an open file stays readable and writable after its name is gone, and a
relative path means another place once the working directory has changed.

Every operation answers the `Fault` that such an operation meets first.  Names and paths have a
greatest length, which is counted in bytes.

There are no links and no access rights: a file is made with one name and gets no other, and whoever
can open it can take that name away.  Room for bytes and names does not run out here.  `FileSystem.append` says what
becomes of bytes that the system takes; which it takes is said where they are written, for a data file
by its setbacks.

The bytes of a file are seen through `FileSystem.bytes`; `bytes_append` says that an append is found
at the end of its file and nowhere else.
-/

namespace CommandLog

/-- A place in the tree of directories: the names on the way from the root. -/
abbrev Location := List String

/-- A path, as it is given. -/
structure Path where
  ofString ::
  text : String
  deriving DecidableEq

namespace Path

/-- Does the path lead from the root, and not from the working directory? -/
def isAbsolute (path : Path) : Bool := path.text.toList.head? == some '/'

/-- Does the path end in a slash, which only a directory may? -/
def endsInSlash (path : Path) : Bool := path.text.toList.getLast? == some '/'

/-- Splits characters at the slashes between them. -/
def splitSlashes : List Char → List (List Char)
  | [] => [[]]
  | c :: rest =>
    match splitSlashes rest with
    | [] => [[c]]
    | first :: others => if c = '/' then [] :: first :: others else (c :: first) :: others

/-- The names on the way, with the dots among them.  Slashes part them, and several in a row count
as one. -/
def names (path : Path) : List String :=
  ((splitSlashes path.text.toList).filter (· ≠ [])).map String.ofList

/-- The path of a name inside of a directory.  An absolute name stands for itself. -/
def inside (directory name : String) : Path :=
  if (ofString name).isAbsolute then ofString name else ofString (directory ++ "/" ++ name)

/-- Leaves out the slashes at the front, and the dots that stand for the directory itself. -/
def dropIdle : List Char → List Char
  | '/' :: rest => dropIdle rest
  | '.' :: '/' :: rest => dropIdle rest
  | cs => cs

/-- The path, if it is relative, without the dots and slashes at its front that lead nowhere. -/
def trimmed (path : Path) : Path :=
  if path.isAbsolute then path else ofString (String.ofList (dropIdle path.text.toList))

/-- So many bytes are too many for a path. -/
def lengthLimit : Nat := 4096

/-- Refuses a path that the system does not take at all: a NUL would end it, or it is too long. -/
def check (path : Path) : Except Fault Unit :=
  if '\x00' ∈ path.text.toList then .error .nulInPath
  else if lengthLimit ≤ (Utf8.encode path.text).length then .error .nameTooLong
  else .ok ()

end Path

/-- What may be at a place. -/
inductive Node where
  | directory
  /-- A file, by the number under which its bytes are kept. -/
  | file (number : Nat)
  deriving DecidableEq

/-- The directories and files there are, and the working directory. -/
structure FileSystem where
  nodes : List (Location × Node)
  /-- The bytes of every file ever made, by number. -/
  files : List Packed
  working : Location

/-- Where a path leads. -/
inductive Place where
  /-- To a directory that it names by a dot, by two dots, or as the root. -/
  | directory (location : Location)
  /-- To a name in a directory that is there.  The name itself may be free. -/
  | entry (location : Location)
  deriving DecidableEq

namespace FileSystem

/-- Directories at the given places and nothing else. -/
def ofDirectories (directories : List Location) (working : Location) : FileSystem :=
  ⟨directories.map (·, .directory), [], working⟩

/-- What is at a place.  The root is always there. -/
def node? (fs : FileSystem) (location : Location) : Option Node :=
  if location = [] then some .directory else fs.nodes.lookup location

/-- So many bytes a name can have. -/
def nameLimit : Nat := 255

/-- Looks up what is at a place.  There cannot be anything under a name that is too long. -/
def find (fs : FileSystem) (location : Location) : Except Fault (Option Node) :=
  if nameLimit < (Utf8.encode (location.getLast?.getD "")).length then .error .nameTooLong
  else .ok (fs.node? location)

/-- Follows names from a directory.  Every name but the last must be a directory. -/
def follow (fs : FileSystem) : Location → List String → Except Fault Place
  | current, [] => .ok (.directory current)
  | current, name :: rest =>
    if name = "." then follow fs current rest
    else if name = ".." then follow fs current.dropLast rest
    else if rest = [] then .ok (.entry (current ++ [name]))
    else
      match fs.find (current ++ [name]) with
      | .error fault => .error fault
      | .ok none => .error .notFound
      | .ok (some (.file _)) => .error .notADirectory
      | .ok (some .directory) => follow fs (current ++ [name]) rest

/-- Where a path leads.  An empty path leads nowhere. -/
def resolve (fs : FileSystem) (path : Path) : Except Fault Place := do
  path.check
  if path.isAbsolute then fs.follow [] path.names
  else if path.names = [] then .error .notFound
  else fs.follow fs.working path.names

/-- What a file holds, by number. -/
def packed (fs : FileSystem) (number : Nat) : Packed := fs.files[number]?.getD .empty

/-- The bytes of a file, by number. -/
def bytes (fs : FileSystem) (number : Nat) : Bytes := (fs.packed number).toBytes

/-- How many bytes a file has. -/
def size (fs : FileSystem) (number : Nat) : Nat := (fs.packed number).size

/-- Replaces the bytes of a file. -/
def setBytes (fs : FileSystem) (number : Nat) (data : Bytes) : FileSystem :=
  { fs with files := fs.files.set number (.ofBytes data) }

/-- Adds bytes at the end of a file, all of them. -/
def append (fs : FileSystem) (number : Nat) (data : Bytes) : FileSystem :=
  { fs with files := fs.files.modify number (·.append data) }

/-- Makes an empty file at a free place. -/
def makeFile (fs : FileSystem) (location : Location) : FileSystem × Nat :=
  ({ fs with
      nodes := fs.nodes ++ [(location, .file fs.files.length)]
      files := fs.files ++ [.empty] }, fs.files.length)

/-- The file at a path, to be written to.  It is made if the place is free. -/
def openForWriting (fs : FileSystem) (path : Path) : Except Fault (FileSystem × Nat) := do
  match ← fs.resolve path with
  | .directory _ => .error .isADirectory
  | .entry location =>
    if path.endsInSlash then .error .isADirectory
    else
      match ← fs.find location with
      | some .directory => .error .isADirectory
      | some (.file number) => .ok (fs, number)
      | none => .ok (fs.makeFile location)

/-- What is at a path, to be read from. -/
def openForReading (fs : FileSystem) (path : Path) : Except Fault Node := do
  match ← fs.resolve path with
  | .directory _ => .ok .directory
  | .entry location =>
    match ← fs.find location with
    | none => .error .notFound
    | some .directory => .ok .directory
    | some (.file number) =>
      if path.endsInSlash then .error .notADirectory else .ok (.file number)

/-- Takes a file's name away.  Its bytes stay for whoever has the file open. -/
def remove (fs : FileSystem) (path : Path) : Except Fault FileSystem := do
  match ← fs.resolve path with
  | .directory _ => .error .isADirectory
  | .entry location =>
    match ← fs.find location with
    | none => .error .notFound
    | some .directory => .error .isADirectory
    | some (.file _) =>
      if path.endsInSlash then .error .notADirectory
      else .ok { fs with nodes := fs.nodes.filter (·.1 ≠ location) }

/-- Makes a directory at a free place. -/
def makeDirectory (fs : FileSystem) (path : Path) : Except Fault FileSystem := do
  match ← fs.resolve path with
  | .directory _ => .error .alreadyExists
  | .entry location =>
    match ← fs.find location with
    | some _ => .error .alreadyExists
    | none => .ok { fs with nodes := fs.nodes ++ [(location, .directory)] }

/-- Makes the file at a path hold exactly these bytes. -/
def put (fs : FileSystem) (path : Path) (data : Bytes) : Except Fault FileSystem := do
  let (fs, number) ← fs.openForWriting path
  return fs.setBytes number data

/-- Is there anything at a path? -/
def exists? (fs : FileSystem) (path : Path) : Bool :=
  match fs.openForReading path with
  | .ok _ => true
  | .error _ => false

/-- The bytes of the file at a path, if there is one. -/
def contents? (fs : FileSystem) (path : Path) : Option Bytes :=
  match fs.openForReading path with
  | .ok (.file number) => some (fs.bytes number)
  | _ => none

/-- Changes the working directory. -/
def changeDirectory (fs : FileSystem) (location : Location) : FileSystem :=
  { fs with working := location }

/-! ## The bytes of a file -/

theorem length_bytes (fs : FileSystem) (number : Nat) :
    (fs.bytes number).length = fs.size number :=
  Packed.length_toBytes _

/-- What is added to a file is found at its end, and no other file changes. -/
theorem bytes_append (fs : FileSystem) (number other : Nat) (data : Bytes)
    (h : number < fs.files.length) :
    (fs.append number data).bytes other =
      fs.bytes other ++ if other = number then data else [] := by
  rw [bytes, bytes, packed, packed, append, List.getElem?_modify]
  split
  · next heq =>
    subst heq
    simp [List.getElem?_eq_getElem h]
  · next hne => simp [Ne.symm hne]

/-- What is added in two parts is the same as what is added at once. -/
theorem append_append (fs : FileSystem) (number : Nat) (data more : Bytes) :
    (fs.append number data).append number more = fs.append number (data ++ more) := by
  unfold append
  rw [List.modify_modify_eq]
  congr 2
  funext packed
  apply Packed.toBytes_injective
  simp

/-- To add no byte changes nothing. -/
theorem append_nil (fs : FileSystem) (number : Nat) : fs.append number [] = fs := by
  have hsame : (fun packed : Packed => packed.append []) = id := by
    funext packed
    apply Packed.toBytes_injective
    simp
  unfold append
  rw [hsame, List.modify_id]

end FileSystem

end CommandLog

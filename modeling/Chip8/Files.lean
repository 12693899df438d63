import Chip8.Text.Numeral

/-!
Files. A tree of directories, regular files and devices, with a working directory, on which paths
are looked up and files are read and made. A path is taken apart at its slashes and walked from the
working directory, or from the root if it starts with a slash; an empty part and a single dot stay,
two dots go up, and every part but the last has to be a directory.

Two devices are known: a disk that is full, on which nothing can be written, and a serial line. A file
that is found may still fail to be read or to be written, and a write that fails behind the making of its
file leaves what was written until then.
-/

namespace Chip8

inductive FileCause where
  | missing
  | notDirectory
  | isDirectory
  | invalidArgument
  | nameTooLong
  | noSpace
  | notSerial
  | other (message : Bytes)
  deriving DecidableEq, Repr

def FileCause.message : FileCause → Bytes
  | missing => text "no such file or directory"
  | notDirectory => text "not a directory"
  | isDirectory => text "is a directory"
  | invalidArgument => text "invalid argument"
  | nameTooLong => text "file name too long"
  | noSpace => text "no space left on device"
  | notSerial => text "Invalid serial port"
  | other m => m

inductive FileAction where
  | opening
  | reading
  | writing
  deriving DecidableEq, Repr

def FileAction.name : FileAction → Bytes
  | opening => text "open"
  | reading => text "read"
  | writing => text "write"

structure FileError where
  action : FileAction
  path : Bytes
  cause : FileCause
  deriving DecidableEq, Repr

def FileError.message (e : FileError) : Bytes :=
  e.action.name ++ text " " ++ e.path ++ text ": " ++ e.cause.message

/-- What stands in the way of using a file. -/
inductive FileFlaw where
  | unreadable (action : FileAction) (cause : FileCause)
  | unwritable (cause : FileCause)
  /-- Its disk takes no more than so many bytes of it. -/
  | room (bytes : Nat)
  deriving DecidableEq, Repr

/-- What writing `data` to a file with a flaw gives, and what the file holds then. -/
def FileFlaw.store (flaw : FileFlaw) (path old data : Bytes) : Except FileError Unit × Bytes :=
  match flaw with
  | .unreadable _ _ => (.ok (), data)
  | .unwritable cause => (.error ⟨.opening, path, cause⟩, old)
  | .room bytes =>
    (if data.length ≤ bytes then .ok () else .error ⟨.writing, path, .noSpace⟩, data.take bytes)

inductive FileNode where
  | directory
  | regular (data : Bytes)
  | flawed (data : Bytes) (flaw : FileFlaw)
  | fullDisk
  | serialLine
  deriving DecidableEq, Repr

def FileNode.data? : FileNode → Option Bytes
  | regular data | flawed data _ => some data
  | directory | fullDisk | serialLine => none

/-- The names on the way down from the root. -/
abbrev Place := List Bytes

/-- A file system: what stands at which place, and the working directory. -/
structure FileTree where
  entries : List (Place × FileNode)
  here : Place
  deriving DecidableEq, Repr

namespace FileTree

/-- What stands at a place. The root is always there. -/
def node? (t : FileTree) (p : Place) : Option FileNode :=
  if p.isEmpty then some .directory else t.entries.lookup p

/-- The longest name and the longest path, in bytes. -/
def maxName : Nat := 255

def maxPath : Nat := 4095

/-- The place reached from the directory `start` by the parts of a path. The last part need not
exist. -/
def walk (t : FileTree) (start : Place) : List Bytes → Except FileCause Place
  | [] => .ok start
  | part :: parts =>
    if part.isEmpty || part = text "." then t.walk start parts
    else if part = text ".." then t.walk start.dropLast parts
    else if part.length > maxName then .error .nameTooLong
    else if parts.isEmpty then .ok (start ++ [part])
    else
      match t.node? (start ++ [part]) with
      | none => .error .missing
      | some .directory => t.walk (start ++ [part]) parts
      | some _ => .error .notDirectory

def resolve (t : FileTree) (path : Bytes) : Except FileCause Place :=
  if path.contains 0 then .error .invalidArgument
  else if path.isEmpty then .error .missing
  else if path.length > maxPath then .error .nameTooLong
  else t.walk (if path.head? = some 0x2F then [] else t.here) (Bytes.splitOn 0x2F path)

def stat (t : FileTree) (path : Bytes) : Except FileCause FileNode :=
  match t.resolve path with
  | .error cause => .error cause
  | .ok place =>
    match t.node? place with
    | none => .error .missing
    | some node => .ok node

/-- Whether a path leads to something that is not a directory. -/
def isFile (t : FileTree) (path : Bytes) : Bool :=
  match t.stat path with
  | .ok .directory | .error _ => false
  | .ok _ => true

/-- The content of a file. A device that is opened as a file has none. -/
def contents (t : FileTree) (path : Bytes) : Except FileError Bytes :=
  match t.stat path with
  | .error cause => .error ⟨.opening, path, cause⟩
  | .ok .directory => .error ⟨.reading, path, .isDirectory⟩
  | .ok (.flawed _ (.unreadable action cause)) => .error ⟨action, path, cause⟩
  | .ok node => .ok (node.data?.getD [])

def put (t : FileTree) (p : Place) (node : FileNode) : FileTree :=
  if t.entries.any (fun e => e.1 = p) then
    { t with entries := t.entries.map fun e => if e.1 = p then (p, node) else e }
  else { t with entries := t.entries ++ [(p, node)] }

/-- Makes the file of a path anew with the given content. -/
def store (t : FileTree) (path data : Bytes) : Except FileError Unit × FileTree :=
  match t.resolve path with
  | .error cause => (.error ⟨.opening, path, cause⟩, t)
  | .ok place =>
    match t.node? place with
    | some .directory => (.error ⟨.opening, path, .isDirectory⟩, t)
    | some .fullDisk => (if data.isEmpty then .ok () else .error ⟨.writing, path, .noSpace⟩, t)
    | some .serialLine => (.ok (), t)
    | some (.flawed old flaw) =>
      let (result, held) := flaw.store path old data
      (result, t.put place (.flawed held flaw))
    | some (.regular _) | none => (.ok (), t.put place (.regular data))

/-- Puts a node at a place below the working directory and makes the directories above it. -/
def install (t : FileTree) (parts : List Bytes) (node : FileNode) : FileTree :=
  let place := t.here ++ parts.filter fun part => !(part.isEmpty || part = text ".")
  let above := (List.range place.length).map fun n => place.take n
  let t := above.foldl (fun t p => if (t.node? p).isSome then t else t.put p .directory) t
  t.put place node

/-- An empty working directory in an otherwise empty system. -/
def empty : FileTree := ⟨[([text "work"], .directory)], [text "work"]⟩

/-- The files below the working directory that `after` has and `before` has not with the same content, by
their relative paths, in the order of these. -/
def changes (before after : FileTree) : List (Bytes × Bytes) :=
  let news := after.entries.filterMap fun (p, node) =>
    match node.data? with
    | some data =>
      if after.here.isPrefixOf p ∧ (before.node? p).bind FileNode.data? ≠ some data then
        some (Bytes.join (text "/") (p.drop after.here.length), data)
      else none
    | none => none
  news.mergeSort fun a b => decide (a.1 ≤ b.1)

end FileTree

namespace Path

/-- What follows the last slash of a path. -/
def lastPart (path : Bytes) : Bytes := ((Bytes.splitOn 0x2F path).getLast?).getD []

/-- The ending of a name from its last dot on. -/
def lastDotted (name : Bytes) : Bytes :=
  match name.reverse.span (· ≠ 0x2E) with
  | (_, []) => []
  | (after, dot :: _) => dot :: after.reverse

def extension (path : Bytes) : Bytes := lastDotted (lastPart path)

end Path

end Chip8

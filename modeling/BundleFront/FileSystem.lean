import BundleFront.Path

/-!
# File systems

A build reads files and asks for the working directory; everything else about
paths is lexical.  `MemoryFiles` is the file system whose files are listed in
advance.

The file system of the machine is modelled as far as it is the same on every
machine.  `NullDevice.fileSystem` has the root, the directory of devices and the
null device, which reads as an empty text, and looks each path up segment by
segment as the machine does: a path that goes on behind a file and the path of a
directory cannot be read, and all others are not found.  What else a machine has
is left out, and its working directory is taken to be the root.
-/

namespace BundleFront

/-- Why a file system could not answer. -/
inductive FileError
  | notFound (path : Path)
  | unreadable (cause : String)
  | noWorkingDirectory (cause : String)
deriving DecidableEq, Repr

def FileError.message : FileError → String
  | notFound path => "File not found: " ++ path.text
  | unreadable cause => "I/O error: " ++ cause
  | noWorkingDirectory cause => "Working directory unavailable: " ++ cause

/-- What a build may ask a file system. -/
structure FileSystem where
  read : Path → Except FileError String
  workingDirectory : Except FileError Path

namespace FileSystem

/-- The clean absolute form of a path; only a relative path needs the working directory. -/
def absolute? (fs : FileSystem) (p : Path) : Option Path :=
  if p.isAbsolute then some p.clean
  else match fs.workingDirectory with
    | .ok base => some (base.join p).clean
    | .error _ => none

/-- A file system without files and without a working directory. -/
def homeless (cause : String) : FileSystem where
  read p := .error (.notFound p)
  workingDirectory := .error (.noWorkingDirectory cause)

end FileSystem

/-- Files that are kept in memory, each under its full path, and a fixed working directory. -/
structure MemoryFiles where
  workingDirectory : Path := ⟨"/"⟩
  files : List (Path × String) := []
deriving Repr

namespace MemoryFiles

/-- Replace the contents of the file at `path`, or add it behind the others. -/
def put (path : Path) (contents : String) : List (Path × String) → List (Path × String)
  | [] => [(path, contents)]
  | file :: rest =>
      if file.1.same path then (file.1, contents) :: rest else file :: put path contents rest

/-- Add a file; a relative path is seen from the working directory. -/
def insert (m : MemoryFiles) (path : Path) (contents : String) : MemoryFiles :=
  { m with files := put (m.workingDirectory.join path) contents m.files }

def read? (m : MemoryFiles) (path : Path) : Option String :=
  (m.files.find? fun file => file.1.same path).map Prod.snd

def size (m : MemoryFiles) : Nat := m.files.length

def toFileSystem (m : MemoryFiles) : FileSystem where
  read p := match m.read? p with
    | some contents => .ok contents
    | none => .error (.notFound p)
  workingDirectory := .ok m.workingDirectory

end MemoryFiles

namespace NullDevice

/-- All that there is: the root, the directory `/dev` in it, and in that the empty file `null`. -/
inductive Place
  | root
  | devices
  | null
deriving DecidableEq, Repr

/-- Why a path leads nowhere. -/
inductive DeadEnd
  | missing
  /-- The path goes on behind a file. -/
  | behindFile
deriving DecidableEq, Repr

/-- The place that a segment leads to; an empty one and `.` lead nowhere else. -/
def Place.step : Place → List Char → Except DeadEnd Place
  | .null, _ => .error .behindFile
  | place, [] | place, ['.'] => .ok place
  | .root, ['.', '.'] | .devices, ['.', '.'] => .ok .root
  | .root, ['d', 'e', 'v'] => .ok .devices
  | .devices, ['n', 'u', 'l', 'l'] => .ok .null
  | _, _ => .error .missing

/-- The place that a path leads to, segment by segment; nothing is found from elsewhere than the
root. -/
def find (path : Path) : Except DeadEnd Place :=
  if path.isAbsolute then (Text.splitOn '/' (path.text.toList.drop 1)).foldlM Place.step .root
  else .error .missing

/-- The file system of a machine on which only the null device can be read.  A file that is not
found is told apart from one that cannot be read. -/
def fileSystem : FileSystem where
  read path :=
    let unreadable (cause : String) : FileError :=
      .unreadable ("Failed to read " ++ path.text ++ ": " ++ cause)
    match find path with
    | .ok .null => .ok ""
    | .ok _ => .error (unreadable "Is a directory (os error 21)")
    | .error .behindFile => .error (unreadable "Not a directory (os error 20)")
    | .error .missing => .error (.notFound path)
  workingDirectory := .ok ⟨"/"⟩

end NullDevice
end BundleFront

import SentenceGen.Files.Path
import SentenceGen.Text.Lines
import SentenceGen.Text.Utf8

/-!
# Stores of files

A store is a tree of directories with files of bytes in it, together with the working directory and
the home directory of whoever runs a program. It stands for the part of a file system that a run can
see: `Store.read` and `Store.write` answer as a file system does, refusals included.
-/

namespace SentenceGen

/-- Files by the names on the way to them from the top, and the directories there are besides those
that hold a file. -/
structure Store where
  files : List (List String × List UInt8)
  directories : List (List String)
  workDir : List String
  homeDir : List String
  deriving DecidableEq, Repr

/-- What is found where something is: the bytes of a file, or a refusal to read it. -/
inductive Found where
  | bytes (content : List UInt8)
  | refused (e : PathError)
  deriving DecidableEq, Repr

namespace Store

/-- What a path leads to. -/
inductive Place where
  | directory
  | file (location : List String) (bytes : List UInt8)
  | absent (location : List String)

/-- The bytes of a file. -/
def bytes? (s : Store) (location : List String) : Option (List UInt8) :=
  s.files.lookup location

/-- A directory lies at the top, on the way to a file or to another directory. -/
def isDirectory (s : Store) (location : List String) : Bool :=
  location.isEmpty || s.workDir.take location.length == location ||
    s.homeDir.take location.length == location ||
    s.directories.any (fun d => d.take location.length == location) ||
    s.files.any fun (f, _) => f.length > location.length && f.take location.length == location

/-- The longest name that a file can have, in bytes. -/
def maxNameBytes : Nat := 255

/-- The longest path that is followed, in bytes. -/
def maxPathBytes : Nat := 4095

/-- Follows names from a directory on. -/
def follow (s : Store) : (location names : List String) → Except PathCause Place
  | _, [] => .ok .directory
  | location, name :: names =>
    if name.isEmpty || name == "." then follow s location names
    else if name == ".." then follow s location.dropLast names
    else if maxNameBytes < name.utf8ByteSize then .error .nameTooLong
    else
      let next := location ++ [name]
      match s.bytes? next with
      | some bytes => if names.isEmpty then .ok (.file next bytes) else .error .notDirectory
      | none =>
        if s.isDirectory next then follow s next names
        else if names.isEmpty then .ok (.absent next) else .error .notFound

/-- What a path leads to, from the working directory or, if it is absolute, from the top. -/
def find (s : Store) (path : String) : Except PathCause Place :=
  if maxPathBytes < path.utf8ByteSize then .error .nameTooLong
  else s.follow (if Path.isAbsolute path then [] else s.workDir) (Path.components path)

/-- The bytes of the file at a path. -/
def read (s : Store) (path : String) : Except PathError (List UInt8) :=
  match s.find path with
  | .error cause => .error ⟨cause, path⟩
  | .ok .directory => .error ⟨.isDirectory, path⟩
  | .ok (.absent _) => .error ⟨.notFound, path⟩
  | .ok (.file _ bytes) => .ok bytes

/-- The store in which a file has the given bytes. -/
def put (s : Store) (location : List String) (bytes : List UInt8) : Store :=
  { s with files := (location, bytes) :: s.files.filter (·.1 != location) }

/-- The store in which there is no file at a location. -/
def remove (s : Store) (location : List String) : Store :=
  { s with files := s.files.filter (·.1 != location) }

/-- Writes a file at a path, in the place of one that may be there. A path that ends in a slash can
only be that of a directory, so no file is written there. -/
def write (s : Store) (path : String) (bytes : List UInt8) : Except PathError Store :=
  match s.find (if Path.endsInSlash path then Path.withoutEndSlashes path else path) with
  | .error cause => .error ⟨cause, path⟩
  | .ok .directory => .error ⟨.isDirectory, path⟩
  | .ok (.absent location) | .ok (.file location _) =>
    if Path.endsInSlash path then .error ⟨.isDirectory, path⟩ else .ok (s.put location bytes)

/-- What is found at a location, if anything is there. A directory is there, but it cannot be
read. -/
def found? (s : Store) (location : List String) : Option Found :=
  match s.bytes? location with
  | some bytes => some (.bytes bytes)
  | none =>
    if s.isDirectory location then
      some (.refused ⟨.isDirectory, "/" ++ "/".intercalate location⟩)
    else none

/-- What is found under a name in the working directory. -/
def inWorkDir? (s : Store) (name : String) : Option Found :=
  s.found? (s.workDir ++ [name])

/-- What is found under a name in the home directory. -/
def inHomeDir? (s : Store) (name : String) : Option Found :=
  s.found? (s.homeDir ++ [name])

@[simp] theorem bytes?_put (s : Store) (location : List String) (bytes : List UInt8) :
    (s.put location bytes).bytes? location = some bytes := by
  simp [put, bytes?]

theorem bytes?_put_of_ne (s : Store) {location other : List String} (h : other ≠ location)
    (bytes : List UInt8) : (s.put location bytes).bytes? other = s.bytes? other := by
  have hne : (other == location) = false := by simpa using h
  simp only [bytes?, put, List.lookup_cons, hne]
  induction s.files with
  | nil => rfl
  | cons f fs ih =>
    obtain ⟨key, value⟩ := f
    by_cases hf : key = location
    · simp [List.lookup_cons, hf, hne, ih]
    · cases ho : other == key <;> simp [List.lookup_cons, hf, ho, ih]

end Store

/-! ### Text files -/

/-- The text in the bytes of a file, with each line end written as `\n`. -/
def textOfBytes (bytes : List UInt8) : Except Text.Utf8.Fault String :=
  (Text.Utf8.decode bytes).map fun s => String.ofList (Text.unifyLineEnds s)

end SentenceGen

import SentenceGen.Text.Cut
import SentenceGen.Text.Quoted

/-!
# Paths

A path is a text cut at its slashes. `Path.tidy` is the path without its empty and single dot
components, which name nothing; double dots stay. A path that names nothing at all is written `.`.

`PathError` is what a file system answers when it refuses a path.
-/

namespace SentenceGen

namespace Path

/-- The components of a path. -/
def components (path : String) : List String :=
  (Text.cut (· == '/') path.toList).map String.ofList

/-- A path that starts at the top of the file system. -/
def isAbsolute (path : String) : Bool :=
  path.toList.head? == some '/'

/-- The slashes at the start of a tidy path: two are kept as they are, any other number is one. -/
def root (path : String) : String :=
  match (path.toList.takeWhile (· == '/')).length with
  | 0 => ""
  | 2 => "//"
  | _ => "/"

/-- The path without the components that name nothing. -/
def tidy (path : String) : String :=
  let names := (components path).filter fun name => !name.isEmpty && name != "."
  let text := root path ++ "/".intercalate names
  if text.isEmpty then "." else text

/-- The path ends in a slash, as that of a directory may. -/
def endsInSlash (path : String) : Bool :=
  path.toList.getLast? == some '/'

/-- The path without the slashes at its end. -/
def withoutEndSlashes (path : String) : String :=
  String.ofList (path.toList.reverse.dropWhile (· == '/')).reverse

/-- The path holds a NUL character, which no file system takes. -/
def hasNul (path : String) : Bool :=
  path.toList.contains '\x00'

end Path

/-- Why a path is refused. -/
inductive PathCause where
  | notFound
  | notPermitted
  | notDirectory
  | isDirectory
  | nameTooLong
  deriving DecidableEq, Repr

/-- A path and why it is refused. -/
structure PathError where
  cause : PathCause
  path : String
  deriving DecidableEq, Repr

/-- The number of a cause, by which systems know it. -/
def PathCause.code : PathCause → Nat
  | notFound => 2
  | notPermitted => 13
  | notDirectory => 20
  | isDirectory => 21
  | nameTooLong => 36

/-- All causes. -/
def PathCause.all : List PathCause :=
  [notFound, notPermitted, notDirectory, isDirectory, nameTooLong]

/-- The cause with a number. -/
def PathCause.ofCode? (code : Nat) : Option PathCause :=
  all.find? (·.code == code)

@[simp] theorem PathCause.ofCode?_code (c : PathCause) : ofCode? c.code = some c := by
  cases c <;> rfl

def PathCause.text : PathCause → String
  | notFound => "No such file or directory"
  | notPermitted => "Permission denied"
  | notDirectory => "Not a directory"
  | isDirectory => "Is a directory"
  | nameTooLong => "File name too long"

/-- The name of the class of errors that a cause belongs to. -/
def PathCause.className : PathCause → String
  | notFound => "FileNotFoundError"
  | notPermitted => "PermissionError"
  | notDirectory => "NotADirectoryError"
  | isDirectory => "IsADirectoryError"
  | nameTooLong => "OSError"

def PathError.message (e : PathError) : String :=
  s!"[Errno {e.cause.code}] {e.cause.text}: {Text.quote e.path}"

end SentenceGen

import SentenceGen.Files.Store
import SentenceGen.Grammar.Basic

/-!
# Grammar files

A grammar is loaded from the file at a path: its bytes are read as UTF-8 and its line ends unified,
and the text is read as rule lines.
-/

namespace SentenceGen

/-- Why no grammar is loaded. A path with a NUL is not even tried. -/
inductive LoadError where
  | nulInPath
  | refused (e : PathError)
  | undecodable (fault : Text.Utf8.Fault)
  | malformed (e : GrammarError)
  deriving DecidableEq, Repr

def LoadError.message : LoadError → String
  | nulInPath => "embedded null byte"
  | refused e => e.message
  | undecodable fault => fault.message
  | malformed e => e.message

/-- The name of the class of errors that an error belongs to. -/
def LoadError.className : LoadError → String
  | nulInPath => "ValueError"
  | refused e => e.cause.className
  | undecodable _ => "UnicodeDecodeError"
  | malformed _ => "InvalidGrammarError"

namespace Grammar

/-- The grammar that the bytes of a file write. -/
def ofBytes (bytes : List UInt8) : Except LoadError Grammar := do
  let text ← (textOfBytes bytes).mapError .undecodable
  (ofText text).mapError .malformed

/-- The grammar that a file system's answer to a path gives. -/
def ofAnswer (answer : Except PathError (List UInt8)) : Except LoadError Grammar := do
  ofBytes (← answer.mapError .refused)

/-- The grammar in the file at a path. -/
def load (s : Store) (path : String) : Except LoadError Grammar :=
  if Path.hasNul path then .error .nulInPath else ofAnswer (s.read (Path.tidy path))

end Grammar

end SentenceGen

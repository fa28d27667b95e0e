import SentenceGen.Cli.Run
import SentenceGen.Toml.Reader

/-!
# The program

The outer layer of the command line: it reads files and what is typed, shows the events of the run
as they happen and ends with the exit code of its ending. What a run does is decided by the
functions that `Environment.run` is made of.
-/

namespace SentenceGen.Cli

/-! ### Showing -/

/-- Shows events, one after the other. -/
def tell (debug : Bool) (events : List Event) : IO Unit := do
  let output ← IO.getStdout
  let errors ← IO.getStderr
  for e in events do
    output.putStr e.output
    errors.putStr (e.errors debug)
  output.flush
  errors.flush

/-- The exit code of an ending; a fault is named first. -/
def finish : Ending → IO UInt32
  | .exit code => return code.toUInt32
  | .fault f => do
    (← IO.getStderr).putStr (f.message.getD "the derivation is nested too deep" ++ "\n")
    return 1

/-! ### Files -/

/-- The number of a system error about a path, with the sign taken off. -/
def codeOf? : IO.Error → Option Nat
  | .noFileOrDirectory _ code _ => some (magnitude code)
  | .permissionDenied _ code _ => some (magnitude code)
  | .inappropriateType _ code _ => some (magnitude code)
  | .invalidArgument _ code _ => some (magnitude code)
  | _ => none
where
  magnitude (code : UInt32) : Nat :=
    if code.toNat < 0x80000000 then code.toNat else 0x100000000 - code.toNat

/-- What is answered to the use of a path. A refusal for no known cause ends the program. -/
def answerOf {α : Type} (path : String) (action : IO α) : IO (Except PathError α) := do
  match ← action.toBaseIO with
  | .ok a => return .ok a
  | .error e =>
    match (codeOf? e).bind PathCause.ofCode? with
    | some cause => return .error ⟨cause, path⟩
    | none => throw e

/-- The grammar in the file at a path. -/
def loadGrammar (path : String) : IO (Except LoadError Grammar) := do
  if Path.hasNul path then return .error .nulInPath
  let name := Path.tidy path
  let answer ← answerOf name (IO.FS.readBinFile name)
  return Grammar.ofAnswer (answer.map ByteArray.toList)

/-- What is found at a path, if anything is there. A refusal for no known cause ends the program. -/
def found? (path : String) : IO (Option Found) := do
  match ← answerOf path (IO.FS.readBinFile path) with
  | .ok bytes => return some (.bytes bytes.toList)
  | .error e =>
    match e.cause with
    | .notFound | .notDirectory => return none
    | _ => return some (.refused e)

/-- The configuration files in the working directory and in the home directory. -/
def configFiles : IO Config.Files := do
  let work := (← IO.currentDir).toString
  let home := (← IO.getEnv "HOME").getD "/"
  return ⟨← found? (work ++ "/" ++ Config.fileName), ← found? (home ++ "/" ++ Config.fileName)⟩

/-! ### Doing what was asked for -/

/-- Answers questions with what is typed until the session ends. -/
partial def converse (g : Grammar) (debug : Bool) (s : Session) : IO Ending := do
  let pieces := Text.typedLines (← (← IO.getStdin).getLine)
  let lines := if pieces.length = 1 then pieces else pieces.dropLast
  let (events, next) := s.answers g Limits.usual.depth lines
  tell debug events
  match next with
  | .error ending => return ending
  | .ok s => converse g debug s

/-- Shows events and answers with the ending. -/
def tellAll (debug : Bool) (run : List Event × Ending) : IO Ending := do
  tell debug run.1
  return run.2

/-- Shows the bundled configuration or writes it to a file. -/
def dumpConfig (debug : Bool) (output : Option String) : IO Ending := do
  let path := output.getD ""
  if path.isEmpty then tellAll debug ([.configuration], .exit success)
  else if Path.hasNul path then return .fault .nulInPath
  else match ← answerOf path (IO.FS.writeFile path Config.bundledText) with
    | .ok _ => return .exit success
    | .error e => return .fault (.refusedOutput e)

/-- Does what was asked for. -/
def perform (entropy : Nat) (debug : Bool) : Request → IO Ending
  | .generate r => do tellAll debug (r.run .usual entropy (← loadGrammar r.file))
  | .symbols file => do tellAll debug (runSymbols file (← loadGrammar file))
  | .interactive file seed => do
    match ← loadGrammar file with
    | .error e => tellAll debug (runInteractive file seed Limits.usual.depth entropy [] (.error e))
    | .ok g =>
      tell debug (.loaded g.symbols :: Session.opening g)
      converse g debug (Session.start (sourceOf entropy seed))
  | .config output => dumpConfig debug output

end SentenceGen.Cli

open SentenceGen SentenceGen.Cli in
/-- The program. -/
def main (args : List String) : IO UInt32 := do
  let entropy := (← IO.getRandomBytes 16).toList.foldl (fun n b => 256 * n + b.toNat) 0
  match prepare (Config.read Toml.loads (← configFiles) none) args with
  | .error (events, ending) =>
    tell false events
    finish ending
  | .ok (request, debug) => finish (← perform entropy debug request)

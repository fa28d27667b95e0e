import SentenceGen.Cli.Batch
import SentenceGen.Text.Numeral

/-!
# Interactive sessions

A session asks for a symbol and then for a number of sentences, tells the sentences and asks again.
Every line that is typed is the answer to the question asked last, and each answer leads to the next
question or to the end: `Session.answer` is one such step. An empty answer to the question for a
symbol ends the session. Where the lines end, the answers are empty from then on, so that two more
of them end it.
-/

namespace SentenceGen.Cli

/-- What a session waits for: a symbol, or the number of sentences for one. -/
inductive Waiting where
  | symbol
  | count (symbol : String)
  deriving DecidableEq, Repr

/-- A session with the choices that are left. -/
structure Session where
  source : Source
  waiting : Waiting
  deriving Repr

namespace Session

/-- The name under which a session complains. -/
def program : String := Command.interactive.program

/-- What is shown at the start of a session, down to the first question. -/
def opening (g : Grammar) : List Event :=
  [.heading, .listing g.listing, .question .symbol]

/-- A session at its first question. -/
def start (source : Source) : Session :=
  ⟨source, .symbol⟩

/-- Complains about an answer and asks for a symbol again. -/
def complain (source : Source) (c : Complaint) : List Event × Except Ending Session :=
  ([.complaint program c, .question .symbol], .ok ⟨source, .symbol⟩)

/-- Takes an answer: what is shown up to the next question, and the session that waits for the
answer to it or the ending. -/
def answer (g : Grammar) (depth : Nat) (s : Session) (line : String) :
    List Event × Except Ending Session :=
  let typed := Text.trimString line
  match s.waiting with
  | .symbol =>
    if typed.isEmpty then ([], .error (.exit success))
    else if g.defines typed then ([.question .count], .ok ⟨s.source, .count typed⟩)
    else complain s.source (.unknownSymbol typed g.listing)
  | .count symbol =>
    match Text.integer? typed with
    | none => complain s.source (.notANumber typed)
    | some n =>
      -- what was typed has few enough digits to be written
      if n < 0 then complain s.source (.negativeCount (toString n))
      else
        match batch (drawSentence g Source.chooser depth symbol) n.toNat s.source with
        | (events, .error e) => (events, .error (.fault (.derivation e)))
        | (events, .ok source) =>
          (events ++ [.batchEnd, .question .symbol], .ok ⟨source, .symbol⟩)

/-- Takes the answers in these lines, as long as the session goes on. -/
def answers (g : Grammar) (depth : Nat) :
    Session → List String → List Event × Except Ending Session
  | s, [] => ([], .ok s)
  | s, line :: lines =>
    match s.answer g depth line with
    | (events, .error ending) => (events, .error ending)
    | (events, .ok s) =>
      let (more, result) := answers g depth s lines
      (events ++ more, result)

/-- The session that the lines make, from the first question on. -/
def run (g : Grammar) (depth : Nat) (source : Source) (lines : List String) :
    List Event × Ending :=
  match answers g depth (start source) (lines ++ ["", ""]) with
  | (events, .error ending) => (events, ending)
  | (events, .ok _) => (events, .exit success)

end Session

end SentenceGen.Cli

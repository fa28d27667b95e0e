import SentenceGen.Text.Hex

/-!
# UTF-8

`Utf8.decode` reads bytes as UTF-8 and accepts no overlong form, no surrogate and nothing above
U+10FFFF. It goes through the bytes one by one; inside a sequence it knows the range that the next
byte must lie in, so the first byte outside of that range is where the sequence is broken.

A `Utf8.Fault` says which bytes are at fault: those of the sequence that were still acceptable, or
the single byte that starts no sequence.
-/

namespace SentenceGen.Text.Utf8

/-- What is wrong with a run of bytes. -/
inductive Reason where
  | invalidStart
  | invalidContinuation
  | unexpectedEnd
  deriving DecidableEq, Repr

/-- The bytes from position `start` up to but not including `stop` cannot be read; `first` is the
first of them. -/
structure Fault where
  start : Nat
  stop : Nat
  first : UInt8
  reason : Reason
  deriving DecidableEq, Repr

def Reason.message : Reason → String
  | .invalidStart => "invalid start byte"
  | .invalidContinuation => "invalid continuation byte"
  | .unexpectedEnd => "unexpected end of data"

/-- A single byte is shown with its value, several bytes by their first and last position. -/
def Fault.message (f : Fault) : String :=
  if f.stop ≤ f.start + 1 then
    let byte := String.ofList (hex 2 f.first.toNat)
    s!"'utf-8' codec can't decode byte 0x{byte} in position {f.start}: {f.reason.message}"
  else
    s!"'utf-8' codec can't decode bytes in position {f.start}-{f.stop - 1}: {f.reason.message}"

/-- A sequence that lacks `missing` more bytes: `value` is the number written so far, and the next
byte must lie between `low` and `high`. -/
structure Open where
  start : Nat
  first : UInt8
  value : Nat
  missing : Nat
  low : Nat
  high : Nat

/-- The sequence that a byte starts at position `start`, if it starts one of several bytes. The
range of the second byte leaves out overlong forms, surrogates and numbers above U+10FFFF. -/
def open? (start : Nat) (b : UInt8) : Option Open :=
  let n := b.toNat
  if 0xC2 ≤ n ∧ n ≤ 0xDF then some ⟨start, b, n - 0xC0, 1, 0x80, 0xBF⟩
  else if 0xE0 ≤ n ∧ n ≤ 0xEF then
    some ⟨start, b, n - 0xE0, 2, if n = 0xE0 then 0xA0 else 0x80, if n = 0xED then 0x9F else 0xBF⟩
  else if 0xF0 ≤ n ∧ n ≤ 0xF4 then
    some ⟨start, b, n - 0xF0, 3, if n = 0xF0 then 0x90 else 0x80, if n = 0xF4 then 0x8F else 0xBF⟩
  else none

/-- Reads the bytes from position `pos` on, inside of the sequence `seq` if there is one. -/
def decodeFrom : Option Open → (pos : Nat) → List UInt8 → Except Fault (List Char)
  | none, _, [] => .ok []
  | some seq, pos, [] => .error ⟨seq.start, pos, seq.first, .unexpectedEnd⟩
  | none, pos, b :: bs =>
    if b.toNat < 0x80 then (Char.ofNat b.toNat :: ·) <$> decodeFrom none (pos + 1) bs
    else match open? pos b with
      | some seq => decodeFrom (some seq) (pos + 1) bs
      | none => .error ⟨pos, pos + 1, b, .invalidStart⟩
  | some seq, pos, b :: bs =>
    if seq.low ≤ b.toNat ∧ b.toNat ≤ seq.high then
      let value := seq.value * 64 + (b.toNat - 0x80)
      if seq.missing ≤ 1 then (Char.ofNat value :: ·) <$> decodeFrom none (pos + 1) bs
      else
        decodeFrom (some ⟨seq.start, seq.first, value, seq.missing - 1, 0x80, 0xBF⟩) (pos + 1) bs
    else .error ⟨seq.start, pos, seq.first, .invalidContinuation⟩

/-- The text that the bytes write. -/
def decode (bytes : List UInt8) : Except Fault (List Char) :=
  decodeFrom none 0 bytes

/-- The bytes that write a text. -/
def encode (s : List Char) : List UInt8 :=
  s.flatMap String.utf8EncodeChar

end SentenceGen.Text.Utf8

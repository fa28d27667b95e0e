/-!
# The Mersenne Twister

The generator MT19937 of 32-bit words, with its seeding by a list of words. The state is a ring of
624 words: the next word is made from the word at the current place, the one after it and the one
397 places on, and takes the current place.

`Twister.bits` draws a number of a given width, and `Twister.below` an index below a bound, by
drawing numbers of the width of the bound until one is small enough.
-/

namespace SentenceGen

/-- A ring of 624 words and the place of the next one. -/
structure Twister where
  ring : Array UInt32
  place : Nat
  deriving DecidableEq, Repr

namespace Twister

/-- The number of words in the ring. -/
def length : Nat := 624

/-- The ring that a single word fills. -/
def fill (seed : UInt32) : Array UInt32 :=
  ((List.range (length - 1)).foldl
    (fun (filled : Array UInt32 × UInt32) i =>
      let last := filled.2
      let word := (last ^^^ (last >>> 30)) * 1812433253 + UInt32.ofNat (i + 1)
      (filled.1.push word, word))
    (#[seed], seed)).1

/-- The place after `i` in the ring when it is filled: place 0 is skipped and takes the last word
instead. -/
def advance (ring : Array UInt32) (i : Nat) : Array UInt32 × Nat :=
  if i + 1 < length then (ring, i + 1) else (ring.setIfInBounds 0 (ring.getD (length - 1) 0), 1)

/-- Mixes the key words into the ring, round the ring and the key at the same time. -/
def mixKey (key : Array UInt32) : (steps : Nat) → (i j : Nat) → Array UInt32 → Nat × Array UInt32
  | 0, i, _, ring => (i, ring)
  | steps + 1, i, j, ring =>
    let last := ring.getD (i - 1) 0
    let word := (ring.getD i 0 ^^^ ((last ^^^ (last >>> 30)) * 1664525)) + key.getD j 0 +
      UInt32.ofNat j
    let (ring, i) := advance (ring.setIfInBounds i word) i
    mixKey key steps i (if j + 1 < key.size then j + 1 else 0) ring

/-- Mixes the ring with itself. -/
def mixRing : (steps : Nat) → (i : Nat) → Array UInt32 → Array UInt32
  | 0, _, ring => ring
  | steps + 1, i, ring =>
    let last := ring.getD (i - 1) 0
    let word := (ring.getD i 0 ^^^ ((last ^^^ (last >>> 30)) * 1566083941)) - UInt32.ofNat i
    let (ring, i) := advance (ring.setIfInBounds i word) i
    mixRing steps i ring

/-- The generator seeded by a key of at least one word. -/
def ofKey (key : Array UInt32) : Twister :=
  let (i, ring) := mixKey key (max length key.size) 1 0 (fill 19650218)
  ⟨(mixRing (length - 1) i ring).setIfInBounds 0 0x80000000, 0⟩

/-- The words of a number below `2 ^ (32 * size)`, the least significant first. -/
def keyWords : (size n : Nat) → List UInt32
  | 0, _ => []
  | size + 1, n => UInt32.ofNat n :: keyWords size (n >>> 32)

/-- The generator seeded by a natural number: its key is the words of the number, or a
single zero. -/
def ofNat (n : Nat) : Twister :=
  ofKey (keyWords (n.log2 / 32 + 1) n).toArray

/-- The next word. -/
def next (t : Twister) : UInt32 × Twister :=
  let i := t.place
  let upper := t.ring.getD i 0 &&& 0x80000000
  let lower := t.ring.getD ((i + 1) % length) 0 &&& 0x7fffffff
  let joined := upper ||| lower
  let far := t.ring.getD ((i + 397) % length) 0
  let word := far ^^^ (joined >>> 1) ^^^ (if joined &&& 1 == 1 then 0x9908b0df else 0)
  let a := word ^^^ (word >>> 11)
  let b := a ^^^ ((a <<< 7) &&& 0x9d2c5680)
  let c := b ^^^ ((b <<< 15) &&& 0xefc60000)
  (c ^^^ (c >>> 18), ⟨t.ring.setIfInBounds i word, (i + 1) % length⟩)

/-- A number of `width` bits: whole words, the least significant first, and of the last word the
leading bits that are still wanted. -/
def bits : (width : Nat) → Twister → Nat × Twister :=
  go 0
where
  /-- Draws words in front of place `32 * words`, as many as `width` bits take. -/
  go (words width : Nat) (t : Twister) : Nat × Twister :=
    if width ≤ 32 then
      let (w, t) := t.next
      ((w.toNat >>> (32 - width)) <<< (32 * words), t)
    else
      let (w, t) := t.next
      let (rest, t) := go (words + 1) (width - 32) t
      (w.toNat <<< (32 * words) + rest, t)
  termination_by width

/-- Draws numbers of `width` bits until one is below `n`, at most `attempts` times, and answers with
one that is below `n` in any case. -/
def draw (n width : Nat) : (attempts : Nat) → Twister → Nat × Twister
  | 0, t => (0, t)
  | attempts + 1, t =>
    let (r, t) := t.bits width
    if r < n then (r, t) else draw n width attempts t

/-- An index below `n`. A number of the width of `n` is refused only if its leading bit is one. The
leading bits obey a linear recurrence of order 19937, so no run of ones among them is longer than
that, and one of the draws is accepted. -/
def below (n : Nat) (t : Twister) : Nat × Twister :=
  draw n (n.log2 + 1) 19938 t

theorem draw_lt {n : Nat} (h : 0 < n) (width attempts : Nat) (t : Twister) :
    (draw n width attempts t).1 < n := by
  induction attempts generalizing t with
  | zero => exact h
  | succ attempts ih =>
    simp only [draw]
    split
    · assumption
    · exact ih _

/-- The index lies below the bound. -/
theorem below_lt {n : Nat} (h : 0 < n) (t : Twister) : (below n t).1 < n :=
  draw_lt h _ _ t

end Twister

end SentenceGen

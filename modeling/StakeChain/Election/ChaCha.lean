/-
# A seeded generator

Reproducible draws from a 64-bit seed.  The seed is stretched to a 256-bit key, the key opens a
ChaCha stream of twelve rounds, and a draw below a bound takes 128 bits at a time from the
stream and scales them to the bound; numbers that would favour some values are rejected.
-/
import StakeChain.Digest.Sha256
import StakeChain.Election.Source

namespace StakeChain.ChaCha

open Digest.Sha256 (rotateRight)

/-! ## The key -/

/-- One step of the congruential generator that stretches a seed, and the word it gives. -/
def stretch (state : UInt64) : UInt32 × UInt64 :=
  let state := state * 6364136223846793005 + 11634580027462260723
  let mixed := (((state >>> 18) ^^^ state) >>> 27).toUInt32
  (rotateRight mixed (state >>> 59).toUInt32, state)

/-- The next `n` words stretched from a state. -/
def keyWords : Nat → UInt64 → List UInt32
  | 0, _ => []
  | n + 1, state =>
    let (word, state) := stretch state
    word :: keyWords n state

/-! ## The block function -/

/-- Four words, worked on side by side. -/
structure Row where
  p : UInt32
  q : UInt32
  r : UInt32
  s : UInt32
deriving DecidableEq, Repr

namespace Row

/-- The first four words of a list, zeros where there are none. -/
def ofList (w : List UInt32) : Row := ⟨w.getD 0 0, w.getD 1 0, w.getD 2 0, w.getD 3 0⟩

/-- The words in order. -/
def toList (x : Row) : List UInt32 := [x.p, x.q, x.r, x.s]

/-- Sums modulo `2 ^ 32`. -/
def add (x y : Row) : Row := ⟨x.p + y.p, x.q + y.q, x.r + y.r, x.s + y.s⟩

/-- Exclusive or, then a rotation to the left by `places`. -/
def mix (x y : Row) (places : UInt32) : Row :=
  let turn (a b : UInt32) : UInt32 := rotateRight (a ^^^ b) (32 - places)
  ⟨turn x.p y.p, turn x.q y.q, turn x.r y.r, turn x.s y.s⟩

/-- The words moved one place to the left. -/
def shift (x : Row) : Row := ⟨x.q, x.r, x.s, x.p⟩

end Row

/-- Sixteen words in four rows. -/
structure State where
  a : Row
  b : Row
  c : Row
  d : Row
deriving DecidableEq, Repr

namespace State

/-- The quarter round on every column. -/
def columns (x : State) : State :=
  let a := x.a.add x.b
  let d := x.d.mix a 16
  let c := x.c.add d
  let b := x.b.mix c 12
  let a := a.add b
  let d := d.mix a 8
  let c := c.add d
  let b := b.mix c 7
  ⟨a, b, c, d⟩

/-- The quarter round on every diagonal: the rows are moved so that diagonals become columns,
and moved back. -/
def diagonals (x : State) : State :=
  let y := columns ⟨x.a, x.b.shift, x.c.shift.shift, x.d.shift.shift.shift⟩
  ⟨y.a, y.b.shift.shift.shift, y.c.shift.shift, y.d.shift⟩

/-- `n` double rounds. -/
def doubleRounds : Nat → State → State
  | 0, x => x
  | n + 1, x => doubleRounds n x.columns.diagonals

/-- The sixteen words that a state is turned into. -/
def block (x : State) : List UInt32 :=
  let y := doubleRounds 6 x
  (x.a.add y.a).toList ++ (x.b.add y.b).toList ++ (x.c.add y.c).toList ++ (x.d.add y.d).toList

end State

/-! ## The stream -/

/-- A stream: its key, the number of the next block, and the words left of the last one. -/
structure Stream where
  key : List UInt32
  counter : UInt64
  left : List UInt32
deriving DecidableEq, Repr

namespace Stream

/-- The stream of a seed. -/
def ofSeed (seed : UInt64) : Stream := ⟨keyWords 8 seed, 0, []⟩

/-- The state whose block comes next: constants, key, counter. -/
def state (s : Stream) : State where
  a := ⟨0x61707865, 0x3320646e, 0x79622d32, 0x6b206574⟩
  b := .ofList s.key
  c := .ofList (s.key.drop 4)
  d := ⟨s.counter.toUInt32, (s.counter >>> 32).toUInt32, 0, 0⟩

/-- The stream with at least four words ready. -/
def refill (s : Stream) : Stream :=
  if 4 ≤ s.left.length then s
  else { s with counter := s.counter + 1, left := s.left ++ s.state.block }

/-- The next four words as one number, the first word lowest. -/
def next128 (s : Stream) : Nat × Stream :=
  let s := s.refill
  ((s.left.take 4).foldr (fun w n => w.toNat + UInt32.size * n) 0, { s with left := s.left.drop 4 })

/-- The largest low half that a draw below `upper` accepts: `upper` moved up until its highest
bit is the highest of 128, less one. -/
def zone (upper : Nat) : Nat := (upper <<< (127 - upper.log2)) - 1

/-- A number below `upper`: the high half of a product, when the low half lies in the zone.  A
try is rejected with probability below one half, so after `tries` of them the next number is
taken as it comes. -/
def below (upper : Nat) : Nat → Stream → Nat × Stream
  | 0, s =>
    let (v, s) := s.next128
    ((v * upper) >>> 128, s)
  | tries + 1, s =>
    let (v, s) := s.next128
    let product := v * upper
    let high := product >>> 128
    if product - (high <<< 128) ≤ zone upper then (high, s) else below upper tries s

end Stream

end StakeChain.ChaCha

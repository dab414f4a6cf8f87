/-
# Concrete sources

A script of numbers, replayed in a circle; an interloper, who moves the head of the chain under
the one who draws; and the seeded generator.
-/
import StakeChain.Election.ChaCha

namespace StakeChain

/-- The sources that a ledger can be given. -/
inductive Source where
  /-- Each number of the script in turn, reduced below the bound; zero when there is none. -/
  | script (numbers : List Nat)
  /-- Each number of the script in turn, as it is, even past the bound. -/
  | literal (numbers : List Nat)
  /-- Offers a block of its own in each of the first `moves` draws, and always answers zero. -/
  | interloper (moves : Nat)
  /-- Draws from a seeded stream. -/
  | stream (state : ChaCha.Stream)
deriving Repr

namespace Source

/-- The first number of a script, and the script with it moved to the end. -/
def rotate : List Nat → Nat × List Nat
  | [] => (0, [])
  | n :: rest => (n, rest ++ [n])

/-- The block that an interloper offers on top of a head. -/
def foreignBlock (head : Block) : Block :=
  head.next head.timestamp [.ofPayload "foreign"] "elsewhere"

/-- One draw. -/
def draw (s : Source) (upper : Nat) (chain : Chain) : Draw Source :=
  match s with
  | script numbers =>
    let (n, numbers) := rotate numbers
    ⟨n % upper, [], script numbers⟩
  | literal numbers =>
    let (n, numbers) := rotate numbers
    ⟨n, [], literal numbers⟩
  | interloper 0 => ⟨0, [], interloper 0⟩
  | interloper (moves + 1) => ⟨0, [foreignBlock chain.head], interloper moves⟩
  | stream state =>
    let (n, state) := state.below upper 128
    ⟨n, [], stream state⟩

instance : DrawSource Source := ⟨draw⟩

end Source

end StakeChain

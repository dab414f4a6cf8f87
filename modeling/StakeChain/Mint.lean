/-
# The mint

Producing a block: elect a leader among the live validators, seal the transactions on top of the
head, append the block and pay the leader.  Others may extend the chain while the election draws;
the block is then rebuilt on the new head, a limited number of times (`Mint.produce`).

A reward that does not fit the leader's stake is refused before the block exists.  That, and the
registry not changing between election and payment, is why no block is appended unpaid.
-/
import StakeChain.Election.Basic

namespace StakeChain

/-- Everything that producing a block touches. -/
structure Mint (σ : Type) extends Urn σ where
  terms : ProductionTerms
  registry : Registry

namespace Mint

variable {σ : Type} [DrawSource σ]

/-- One attempt at a block on top of `parent`. -/
def attempt (m : Mint σ) (parent : Block) (transactions : List Transaction) (now : Time) :
    Except LedgerError Block × Mint σ :=
  let (elected, urn) := m.toUrn.elect (m.registry.live now)
  let m := { m with toUrn := urn }
  match elected with
  | .error e => (.error e, m)
  | .ok leader =>
    match leader.stake.add m.terms.reward with
    | .error e => (.error e, m)
    | .ok _ =>
      let candidate := parent.next now transactions leader.identifier
      match m.chain.append candidate with
      | .error e => (.error e, m)
      | .ok chain =>
        let m := { m with chain }
        match m.registry.credit leader.identifier m.terms.reward with
        | .error e => (.error e, m)
        | .ok (_, registry) => (.ok candidate, { m with registry })

/-- Attempts, each on the head it finds, until one does not meet a moved head or none are left;
`limit` is the number reported then. -/
def produceWithin (limit : UInt32) (transactions : List Transaction) (now : Time) :
    (attempts : Nat) → Mint σ → Except LedgerError Block × Mint σ
  | 0, m => (.error (.headKeptMoving limit), m)
  | attempts + 1, m =>
    match m.attempt m.chain.head transactions now with
    | (.ok b, m) => (.ok b, m)
    | (.error e, m) =>
      if e.isAppendRace then produceWithin limit transactions now attempts m else (.error e, m)

/-- The number of attempts that the terms allow, at least one. -/
def attemptLimit (m : Mint σ) : UInt32 := max m.terms.maxAttempts 1

/-- Produce a block of these transactions and pay its producer. -/
def produce (m : Mint σ) (transactions : List Transaction) (now : Time) :
    Except LedgerError Block × Mint σ :=
  m.produceWithin m.attemptLimit transactions now m.attemptLimit.toNat

end Mint

end StakeChain

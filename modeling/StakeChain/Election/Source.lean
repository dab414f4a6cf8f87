/-
# Sources of draws

An election asks a source for a number below a bound.  A source is anything with a state that
answers: a script, a generator, or a model of somebody else who works on the chain meanwhile,
since a draw may also offer blocks to the chain (`Draw.offers`).  Nothing is assumed of the
number; that an honest source stays below the bound is for a statement to ask.
-/
import StakeChain.Chain.Basic

namespace StakeChain

/-- What one draw gives. -/
structure Draw (σ : Type) where
  value : Nat
  /-- Blocks that were offered to the chain before the draw was answered. -/
  offers : List Block
  /-- The source after the draw. -/
  next : σ

/-- A source that answers with a number, given the bound and the chain it can see. -/
class DrawSource (σ : Type) where
  draw : σ → (upper : Nat) → Chain → Draw σ

/-- A source, and the chain that others may extend while it is asked. -/
structure Urn (σ : Type) where
  chain : Chain
  source : σ

namespace Urn

variable {σ : Type} [DrawSource σ]

/-- Ask the source; each block it offers is appended if it can be. -/
def draw (u : Urn σ) (upper : Nat) : Nat × Urn σ :=
  let d := DrawSource.draw u.source upper u.chain
  (d.value, ⟨d.offers.foldl Chain.offer u.chain, d.next⟩)

end Urn

/-! ## Keeping a record -/

/-- A source with a record of the draws made from it: bounds and numbers, in order. -/
structure Recorded (σ : Type) where
  source : σ
  draws : List (Nat × Nat)

instance {σ : Type} [DrawSource σ] : DrawSource (Recorded σ) where
  draw r upper chain :=
    let d := DrawSource.draw r.source upper chain
    ⟨d.value, d.offers, ⟨d.next, r.draws ++ [(upper, d.value)]⟩⟩

end StakeChain

/-
# Production is all or nothing

Producing a block is a loop of attempts.  An attempt stops without a live validator, on a reward
that does not fit, or on a candidate that the chain refuses, and the blocks of others that came
in while it drew stay on the chain either way.  `Mint.Attempted` says once what an attempt can
do; `Mint.Produced` says it of the loop, whose failed attempts change nothing but the urn.

Main statement: `Mint.produce_all_or_nothing`.  A production that fails leaves the registry as it
was; one that succeeds appends one block and pays its producer once.  There is no third outcome:
the reward is added up before the block exists, and the registry does not change between the
election and the payment.
-/
import StakeChain.Mint
import StakeChain.Proofs.Chain.Growth

namespace StakeChain

/-- A live validator stands in the registry, so paying it cannot fail once the sum fits. -/
theorem Registry.credit_live {r : Registry} {now : Time} {leader : Validator}
    {reward stake : Amount} (hlive : leader ∈ r.live now)
    (hstake : leader.stake.add reward = .ok stake) :
    r.credit leader.identifier reward = .ok ({ leader with stake }, r.put { leader with stake }) :=
  credit_eq_ok_iff.mpr
    ⟨leader, stake, (mem_live_iff.mp hlive).1, Amount.add_eq_ok_iff.mp hstake, rfl, rfl⟩

namespace Mint

variable {σ : Type} [DrawSource σ]

/-! ## 1. One attempt -/

/-- The mint once a block was appended to the chain that the draws left, and the leader's stake
was raised to `stake`. -/
def paid (m : Mint σ) (u : Urn σ) (b : Block) (leader : Validator) (stake : Amount) : Mint σ :=
  { m with
    chain := u.chain.push b
    source := u.source
    registry := m.registry.put { leader with stake } }

@[simp] theorem chain_paid {τ : Type} (m : Mint τ) (u : Urn τ) (b : Block) (leader : Validator)
    (stake : Amount) : (m.paid u b leader stake).chain = u.chain.push b := rfl

@[simp] theorem registry_paid {τ : Type} (m : Mint τ) (u : Urn τ) (b : Block) (leader : Validator)
    (stake : Amount) :
    (m.paid u b leader stake).registry = m.registry.put { leader with stake } := rfl

/-- The draws that productions at `now` make, all below the stake that is live then. -/
abbrev Drawn (m : Mint σ) (now : Time) (foreign : List Block) (u : Urn σ) : Prop :=
  m.toUrn.Drawn (totalStake (m.registry.live now)) foreign u

/-- What an attempt on top of `parent` can do, one case for each way it can end. -/
inductive Attempted (m : Mint σ) (parent : Block) (transactions : List Transaction) (now : Time) :
    Except LedgerError Block → Mint σ → Prop where
  /-- Nobody is live. -/
  | nobody : m.registry.live now = [] →
      Attempted m parent transactions now (.error .noLiveValidator) m
  /-- The leader's stake has no room for the reward. -/
  | overflow {leader : Validator} {foreign : List Block} {u : Urn σ} {e : LedgerError} :
      leader ∈ m.registry.live now → m.Drawn now foreign u →
      leader.stake.add m.terms.reward = .error e →
      Attempted m parent transactions now (.error e) { m with toUrn := u }
  /-- The chain refuses the candidate. -/
  | refused {leader : Validator} {foreign : List Block} {u : Urn σ} {e : LedgerError} :
      leader ∈ m.registry.live now → m.Drawn now foreign u →
      u.chain.append (parent.next now transactions leader.identifier) = .error e →
      Attempted m parent transactions now (.error e) { m with toUrn := u }
  /-- The candidate is appended and its producer paid. -/
  | appended {leader : Validator} {foreign : List Block} {u : Urn σ} {stake : Amount} :
      leader ∈ m.registry.live now → m.Drawn now foreign u →
      leader.stake.add m.terms.reward = .ok stake →
      u.chain.append (parent.next now transactions leader.identifier) =
        .ok (u.chain.push (parent.next now transactions leader.identifier)) →
      Attempted m parent transactions now
        (.ok (parent.next now transactions leader.identifier))
        (m.paid u (parent.next now transactions leader.identifier) leader stake)

theorem attempt_attempted (m : Mint σ) (parent : Block) (transactions : List Transaction)
    (now : Time) :
    m.Attempted parent transactions now (m.attempt parent transactions now).1
      (m.attempt parent transactions now).2 := by
  rcases m.toUrn.elect_cases (m.registry.live now) with
    ⟨hnone, hfail⟩ | ⟨leader, hlive, foreign, u, hdrawn, helect⟩
  · simpa [attempt, hfail] using Attempted.nobody hnone
  · cases hstake : leader.stake.add m.terms.reward with
    | error e => simpa [attempt, helect, hstake] using Attempted.overflow hlive hdrawn hstake
    | ok stake =>
      cases happend : u.chain.append (parent.next now transactions leader.identifier) with
      | error e =>
        simpa [attempt, helect, hstake, happend] using Attempted.refused hlive hdrawn happend
      | ok chain =>
        obtain ⟨-, rfl⟩ := (Chain.append_eq_ok_iff _ _ _).mp happend
        have hcredit := Registry.credit_live hlive hstake
        simpa [attempt, helect, hstake, happend, hcredit, paid] using
          Attempted.appended hlive hdrawn hstake happend

/-- A failed attempt changes the urn and nothing else. -/
theorem Attempted.of_error {m m' : Mint σ} {parent : Block} {transactions : List Transaction}
    {now : Time} {e : LedgerError} (h : m.Attempted parent transactions now (.error e) m') :
    ∃ foreign u, m.Drawn now foreign u ∧ m' = { m with toUrn := u } := by
  cases h with
  | nobody _ => exact ⟨[], m.toUrn, .start, rfl⟩
  | overflow _ hdrawn _ => exact ⟨_, _, hdrawn, rfl⟩
  | refused _ hdrawn _ => exact ⟨_, _, hdrawn, rfl⟩

/-! ## 2. The loop -/

/-- What a production can do: fail, with the blocks of others as the only change, or append a
block on top of those and pay its producer. -/
inductive Produced (m : Mint σ) (transactions : List Transaction) (now : Time) :
    Except LedgerError Block → Mint σ → Prop where
  | failed {e : LedgerError} {foreign : List Block} {u : Urn σ} : m.Drawn now foreign u →
      Produced m transactions now (.error e) { m with toUrn := u }
  | succeeded {leader : Validator} {foreign : List Block} {u : Urn σ} {stake : Amount}
      {parent : Block} :
      leader ∈ m.registry.live now → m.Drawn now foreign u →
      leader.stake.add m.terms.reward = .ok stake →
      u.chain.append (parent.next now transactions leader.identifier) =
        .ok (u.chain.push (parent.next now transactions leader.identifier)) →
      Produced m transactions now
        (.ok (parent.next now transactions leader.identifier))
        (m.paid u (parent.next now transactions leader.identifier) leader stake)

/-- Draws before a production do not show in what it can do. -/
theorem Produced.after_draws {m : Mint σ} {transactions : List Transaction} {now : Time}
    {early : List Block} {u : Urn σ} {result : Except LedgerError Block} {m' : Mint σ}
    (hdrawn : m.Drawn now early u)
    (h : Produced { m with toUrn := u } transactions now result m') :
    m.Produced transactions now result m' := by
  cases h with
  | failed hlate => exact .failed (hdrawn.trans hlate)
  | succeeded hlive hlate hstake happend =>
    exact .succeeded hlive (hdrawn.trans hlate) hstake happend

theorem produceWithin_produced (limit : UInt32) (transactions : List Transaction) (now : Time) :
    ∀ (attempts : Nat) (m : Mint σ),
      m.Produced transactions now (m.produceWithin limit transactions now attempts).1
        (m.produceWithin limit transactions now attempts).2
  | 0, _ => .failed .start
  | attempts + 1, m => by
    have hattempt := m.attempt_attempted m.chain.head transactions now
    unfold produceWithin
    generalize m.attempt m.chain.head transactions now = outcome at hattempt
    obtain ⟨result, m'⟩ := outcome
    -- a failed attempt leaves a mint that differs from `m` in its urn, so the rest of the loop
    -- elects from the same registry
    have retry : ∀ {early : List Block} {u : Urn σ}, m.Drawn now early u →
        m.Produced transactions now
          (produceWithin limit transactions now attempts { m with toUrn := u }).1
          (produceWithin limit transactions now attempts { m with toUrn := u }).2 :=
      fun hdrawn => (produceWithin_produced limit transactions now attempts _).after_draws hdrawn
    cases result with
    | error e =>
      obtain ⟨_, u, hdrawn, rfl⟩ := hattempt.of_error
      cases hrace : e.isAppendRace with
      | true => simpa [hrace] using retry hdrawn
      | false => simpa [hrace] using Produced.failed hdrawn
    | ok b =>
      cases hattempt with
      | appended hlive hdrawn hstake happend => exact .succeeded hlive hdrawn hstake happend

theorem produce_produced (m : Mint σ) (transactions : List Transaction) (now : Time) :
    m.Produced transactions now (m.produce transactions now).1 (m.produce transactions now).2 :=
  produceWithin_produced _ transactions now _ m

/-- A production appends blocks and does nothing else to the chain. -/
theorem Produced.extends {m m' : Mint σ} {transactions : List Transaction} {now : Time}
    {result : Except LedgerError Block} (h : m.Produced transactions now result m') :
    m.chain.Extends m'.chain := by
  cases h with
  | failed hdrawn => exact hdrawn.extends
  | succeeded _ hdrawn _ happend => exact hdrawn.extends.append happend

theorem Produced.terms {m m' : Mint σ} {transactions : List Transaction} {now : Time}
    {result : Except LedgerError Block} (h : m.Produced transactions now result m') :
    m'.terms = m.terms := by
  cases h with
  | failed _ => rfl
  | succeeded _ _ _ _ => rfl

/-- A failed production changes the urn and nothing else. -/
theorem Produced.of_error {m m' : Mint σ} {transactions : List Transaction} {now : Time}
    {e : LedgerError} (h : m.Produced transactions now (.error e) m') :
    ∃ foreign u, m.Drawn now foreign u ∧ m' = { m with toUrn := u } := by
  cases h with
  | failed hdrawn => exact ⟨_, _, hdrawn, rfl⟩

/-- **A production that succeeds puts its block behind the blocks of others**, with exactly the
transactions that it was given. -/
theorem Produced.of_ok {m m' : Mint σ} {transactions : List Transaction} {now : Time} {b : Block}
    (h : m.Produced transactions now (.ok b) m') :
    b.transactions = transactions ∧
      ∃ foreign, m'.chain.blocks = m.chain.blocks ++ foreign ++ [b] := by
  cases h with
  | @succeeded leader foreign u stake parent _ hdrawn _ _ =>
    refine ⟨rfl, foreign, ?_⟩
    rw [← hdrawn.blocks]
    exact Chain.blocks_push _ _

/-! ## 3. The outcome -/

/-- **A production seals one block and pays for it, or does nothing.**  Whatever the source
answers and whatever it brings onto the chain meanwhile, a production that fails changes nothing
else.  One that succeeds appends its block behind the blocks of others, once and as the head;
the producer was live in the registry as it was at the start, its stake grows by the reward, and
no other validator and no other field changes. -/
theorem produce_all_or_nothing (m : Mint σ) (transactions : List Transaction) (now : Time) :
    ∃ (foreign : List Block) (u : Urn σ), m.Drawn now foreign u ∧
      u.chain.blocks = m.chain.blocks ++ foreign ∧
      match m.produce transactions now with
      | (.error _, m') =>
        m'.registry = m.registry ∧ m'.terms = m.terms ∧ m'.source = u.source ∧
          m'.chain.blocks = m.chain.blocks ++ foreign
      | (.ok b, m') =>
        m'.chain.blocks = m.chain.blocks ++ foreign ++ [b] ∧ m'.chain.head = b ∧
          b.transactions = transactions ∧ b.timestamp = now ∧
          m'.terms = m.terms ∧ m'.source = u.source ∧ m'.registry.terms = m.registry.terms ∧
          ∃ leader ∈ m.registry.live now, b.producer = leader.identifier ∧
            m.registry.validators.get? b.producer = some leader ∧
            ∃ stake : Amount, stake.toNat = leader.stake.toNat + m.terms.reward.toNat ∧
              ∀ identifier, m'.registry.validators.get? identifier =
                if identifier = b.producer then some { leader with stake }
                else m.registry.validators.get? identifier := by
  have hproduced := m.produce_produced transactions now
  generalize m.produce transactions now = outcome at hproduced
  obtain ⟨result, m'⟩ := outcome
  cases hproduced with
  | failed hdrawn => exact ⟨_, _, hdrawn, hdrawn.blocks, rfl, rfl, rfl, hdrawn.blocks⟩
  | @succeeded leader foreign u stake parent hlive hdrawn hstake _ =>
    refine ⟨foreign, u, hdrawn, hdrawn.blocks, ?_, Chain.head_push _ _, rfl, rfl, rfl, rfl, rfl,
      leader, hlive, rfl, (Registry.mem_live_iff.mp hlive).1, stake,
      Amount.add_eq_ok_iff.mp hstake, fun identifier => Registry.get?_put _ _ _⟩
    show (u.chain.push _).blocks = _
    rw [Chain.blocks_push, hdrawn.blocks]

end Mint

end StakeChain

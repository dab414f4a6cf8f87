/-
# Every unit of stake is accounted for

The ledger keeps no record of rewards: a validator has a stake and nothing that says where it comes
from.  What an outsider can write down from the operations and their answers does say it.  A
`Tenure` is that record for one registration: the stake it began with, the credits that succeeded
since, and the blocks that productions returned with the validator as their producer.  A removal
ends it and a new registration begins another.

The stake of a validator is what its tenure is worth (`Ledger.run_accounted`), after any history.
Failed productions and given-up attempts leave no trace in a tenure, nor do blocks from elsewhere
that bear the validator's name.

Main statement: `Ledger.stake_accounted_for`, for each validator and for all of them together.
-/
import StakeChain.Election.Sources
import StakeChain.Proofs.Mint.Production
import StakeChain.Proofs.Registry.Operations

namespace StakeChain

/-! ## 1. What is written down -/

/-- What a validator's stake has come from since its registration. -/
structure Tenure where
  /-- The stake at the registration. -/
  deposit : Amount
  /-- The credits that succeeded, in order. -/
  credits : List Amount
  /-- The blocks that productions returned and that name the validator, in order. -/
  blocks : List Block
deriving DecidableEq, Repr

namespace Tenure

/-- A tenure that begins. -/
def begun (deposit : Amount) : Tenure := ⟨deposit, [], []⟩

/-- One credit more. -/
def credited (amount : Amount) (k : Tenure) : Tenure := { k with credits := k.credits ++ [amount] }

/-- One block more. -/
def produced (b : Block) (k : Tenure) : Tenure := { k with blocks := k.blocks ++ [b] }

/-- What a tenure is worth: the deposit, the credits, and the reward for each block. -/
def worth (reward : Amount) (k : Tenure) : Nat :=
  k.deposit.toNat + Amount.total k.credits + reward.toNat * k.blocks.length

@[simp] theorem worth_begun (reward deposit : Amount) :
    (begun deposit).worth reward = deposit.toNat := by
  simp [worth, begun, Amount.total]

@[simp] theorem worth_credited (reward amount : Amount) (k : Tenure) :
    (k.credited amount).worth reward = k.worth reward + amount.toNat := by
  simp only [worth, credited, Amount.total_append, Amount.total]
  omega

@[simp] theorem worth_produced (reward : Amount) (b : Block) (k : Tenure) :
    (k.produced b).worth reward = k.worth reward + reward.toNat := by
  simp only [worth, produced, List.length_append, List.length_singleton, Nat.mul_succ]
  omega

/-- The tenure of a validator after an operation and its answer.  Productions count by the block
that they return; a block that was looked up or appended does not. -/
def note (identifier : String) (tenure? : Option Tenure) :
    Operation × Except LedgerError Answer → Option Tenure
  | (.validator (.register name deposit _), .ok _) =>
    if name = identifier then some (.begun deposit) else tenure?
  | (.validator (.credit name amount), .ok _) =>
    if name = identifier then tenure?.map (credited amount) else tenure?
  | (.validator (.remove name), .ok _) => if name = identifier then none else tenure?
  | (.produce _ _, .ok (.block b)) | (.producePending _, .ok (.block b)) =>
    if b.producer = identifier then tenure?.map (produced b) else tenure?
  | _ => tenure?

/-- A refusal leaves no trace. -/
theorem note_refused (identifier : String) (tenure? : Option Tenure) (op : Operation)
    (e : LedgerError) : note identifier tenure? (op, .error e) = tenure? := by
  cases op with
  | validator op => cases op <;> rfl
  | _ => rfl

/-- A production from the mempool counts as any other. -/
theorem note_producePending (identifier : String) (tenure? : Option Tenure)
    (transactions : List Transaction) (now : Time) (answer : Except LedgerError Answer) :
    note identifier tenure? (.producePending now, answer) =
      note identifier tenure? (.produce transactions now, answer) := by
  cases answer with
  | error e => rfl
  | ok answer => cases answer <;> rfl

end Tenure

/-- The present tenure of a validator, by a transcript that begins without validators. -/
def Transcript.tenure? (t : Transcript) (identifier : String) : Option Tenure :=
  t.foldl (Tenure.note identifier) none

/-! ## 2. One operation -/

namespace Registry

variable {r r' : Registry} {reward : Amount} {identifier : String} {tenure? : Option Tenure}

/-- **The invariant**: there is a validator if there is a tenure, and its stake is what the tenure
is worth. -/
def AccountedFor (r : Registry) (reward : Amount) (identifier : String)
    (tenure? : Option Tenure) : Prop :=
  r.stakeOf? identifier = tenure?.map (Tenure.worth reward)

/-- **A stake that is raised stays accounted for** when its tenure is worth as much more. -/
theorem AccountedFor.raised {v w : Validator} {n : Nat} {more : Tenure → Tenure}
    (h : r.AccountedFor reward identifier tenure?)
    (hv : r.validators.get? w.identifier = some v) (hstake : w.stake.toNat = v.stake.toNat + n)
    (hmore : ∀ k, (more k).worth reward = k.worth reward + n) :
    (r.put w).AccountedFor reward identifier
      (if w.identifier = identifier then tenure?.map more else tenure?) := by
  refine Tracked.changed h hv fun k hk => ?_
  rw [hmore, hk, hstake]

theorem AccountedFor.performed {op : ValidatorOperation} {answer : Except LedgerError Answer}
    (h : r.AccountedFor reward identifier tenure?) (hp : r.Performed op answer r') :
    r'.AccountedFor reward identifier
      (Tenure.note identifier tenure? (.validator op, answer)) := by
  cases hp with
  | refused =>
    rw [Tenure.note_refused]
    exact h
  | found _ => exact h
  | registered hr =>
    obtain ⟨-, rfl, rfl⟩ := register_eq_ok_iff.mp hr
    exact Tracked.begun h (Tenure.worth_begun reward _)
  | heard hr =>
    obtain ⟨v, hv, ⟨⟩, rfl⟩ := update_eq_ok_iff.mp hr
    have hname := r.keyed hv
    subst hname
    exact Tracked.kept h hv rfl
  | switched hr =>
    obtain ⟨v, hv, ⟨⟩, rfl⟩ := update_eq_ok_iff.mp hr
    have hname := r.keyed hv
    subst hname
    exact Tracked.kept h hv rfl
  | @credited name amount _ _ hr =>
    obtain ⟨v, stake, hv, hstake, rfl, rfl⟩ := credit_eq_ok_iff.mp hr
    have hname := r.keyed hv
    subst hname
    exact h.raised hv hstake (Tenure.worth_credited reward amount)
  | removed hr =>
    obtain ⟨-, rfl⟩ := remove_eq_ok_iff.mp hr
    exact Tracked.ended h _

/-- All stakes that are accounted for are, together, the deposits, the credits, and the reward for
each block. -/
theorem totalStake_of_accountedFor {tenure? : String → Option Tenure} :
    ∀ {validators : List Validator},
      (∀ v ∈ validators, some v.stake.toNat = (tenure? v.identifier).map (Tenure.worth reward)) →
      let tenures := validators.filterMap fun v => tenure? v.identifier
      totalStake validators =
        Amount.total (tenures.map (·.deposit)) + Amount.total (tenures.flatMap (·.credits)) +
          reward.toNat * (tenures.flatMap (·.blocks)).length
  | [], _ => rfl
  | v :: rest, h => by
    have hrest := totalStake_of_accountedFor fun w hw => h w (List.mem_cons_of_mem v hw)
    obtain ⟨k, hk, hworth⟩ := Option.map_eq_some_iff.mp (h v List.mem_cons_self).symm
    unfold Tenure.worth at hworth
    have hcons : totalStake (v :: rest) = v.stake.toNat + totalStake rest := rfl
    simp only [hcons, hrest, ← hworth, List.filterMap_cons, hk, List.map_cons, List.flatMap_cons,
      Amount.total, Amount.total_append, List.length_append, Nat.mul_add]
    omega

end Registry

/-- A production pays the producer of the block that it returns, and nobody else. -/
theorem Mint.Produced.accountedFor {σ : Type} [DrawSource σ] {m m' : Mint σ}
    {transactions : List Transaction} {now : Time} {result : Except LedgerError Block}
    {identifier : String} {tenure? : Option Tenure} (h : m.Produced transactions now result m')
    (haccounted : m.registry.AccountedFor m.terms.reward identifier tenure?) :
    m'.registry.AccountedFor m.terms.reward identifier
      (Tenure.note identifier tenure? (.produce transactions now, result.map .block)) := by
  cases h with
  | failed _ => exact haccounted
  | succeeded hlive _ hstake _ =>
    exact haccounted.raised (Registry.mem_live_iff.mp hlive).1 (Amount.add_eq_ok_iff.mp hstake)
      (Tenure.worth_produced _ _)

/-! ## 3. Histories -/

namespace Ledger

variable {σ : Type} [DrawSource σ]

theorem terms_perform (l : Ledger σ) (op : Operation) : (l.perform op).2.terms = l.terms := by
  cases op with
  | append b => cases h : l.chain.append b <;> simp [perform, h]
  | produce transactions now => exact (l.toMint.produce_produced transactions now).terms
  | producePending now => exact (l.toMint.produce_produced l.mempool.pending now).terms
  | _ => rfl

theorem perform_accounted {l : Ledger σ} {identifier : String} {tenure? : Option Tenure}
    (h : l.registry.AccountedFor l.terms.reward identifier tenure?) (op : Operation) :
    (l.perform op).2.registry.AccountedFor l.terms.reward identifier
      (Tenure.note identifier tenure? (op, (l.perform op).1)) := by
  cases op with
  | stake _ => exact h
  | validator op => exact h.performed (l.registry.perform_performed op)
  | append b =>
    cases happend : l.chain.append b <;> simp only [perform, happend] <;> exact h
  | block _ => exact h
  | submit _ => exact h
  | produce transactions now => exact (l.toMint.produce_produced transactions now).accountedFor h
  | producePending now =>
    rw [Tenure.note_producePending _ _ l.mempool.pending]
    exact (l.toMint.produce_produced l.mempool.pending now).accountedFor h

/-- **Stakes are accounted for at the end of a history.** -/
theorem run_accounted (l : Ledger σ) (ops : List Operation) {identifier : String}
    (hnone : l.registry.stakeOf? identifier = none) :
    (l.run ops).2.registry.AccountedFor l.terms.reward identifier
      ((l.transcript ops).tenure? identifier) := by
  have hrun : (l.run ops).2.terms = l.terms ∧
      (l.run ops).2.registry.AccountedFor l.terms.reward identifier
        ((l.transcript ops).foldl (Tenure.note identifier) none) := by
    refine run_invariant (motive := fun (m : Ledger σ) tenure? => m.terms = l.terms ∧
      m.registry.AccountedFor l.terms.reward identifier tenure?) ?_ ops ⟨rfl, hnone⟩
    rintro m tenure? op ⟨hterms, haccounted⟩
    refine ⟨(m.terms_perform op).trans hterms, ?_⟩
    rw [← hterms] at haccounted ⊢
    exact perform_accounted haccounted op
  exact hrun.2

/-- **A stake is its deposit, its credits and its rewards, to the unit.**  After any history there
is a validator with an identifier exactly if there is a tenure, and its stake is the deposit at its
latest registration, the credits since, and the reward times the number of blocks that productions
since have returned with it as their producer.  The stake of all validators together is the same
sum over their tenures, so that nothing is lost and nothing is paid twice. -/
theorem stake_accounted_for (config : Config) (clock : Time) (source : σ) (ops : List Operation) :
    let l := Ledger.new config clock source
    let registry := (l.run ops).2.registry
    let t := l.transcript ops
    let reward := config.production.reward
    let tenures := registry.list.filterMap fun v => t.tenure? v.identifier
    (∀ identifier, registry.stakeOf? identifier = (t.tenure? identifier).map fun k =>
        k.deposit.toNat + Amount.total k.credits + reward.toNat * k.blocks.length) ∧
      totalStake registry.list =
        Amount.total (tenures.map (·.deposit)) + Amount.total (tenures.flatMap (·.credits)) +
          reward.toNat * (tenures.flatMap (·.blocks)).length := by
  intro l registry t reward tenures
  have haccounted : ∀ identifier, registry.AccountedFor reward identifier (t.tenure? identifier) :=
    fun _ => l.run_accounted ops rfl
  refine ⟨haccounted, ?_⟩
  refine Registry.totalStake_of_accountedFor fun v hv => ?_
  rw [← haccounted v.identifier, Registry.stakeOf?, Registry.mem_list_iff.mp hv]
  rfl

/-- The tenure begins with the second registration.  The first production takes two attempts,
because a block from elsewhere comes in, and counts once; the second finds nobody live. -/
example :
    let t := (Ledger.new default 0 (Source.interloper 1)).transcript
      [.validator (.register "A" ⟨100000000000⟩ 0), .validator (.remove "A"),
        .validator (.register "A" ⟨200000000000⟩ 0), .validator (.credit "A" ⟨7⟩),
        .produce [] 1, .produce [] 1000]
    (t.tenure? "A").map (fun k => (k.deposit, k.credits, k.blocks.map (·.index))) =
      some (⟨200000000000⟩, [⟨7⟩], [2]) := by
  decide +kernel

end Ledger

end StakeChain

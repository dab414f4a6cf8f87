/-
# How often a production tries

An attempt that elects on a chain which stays as it is seals its block on the head that it found;
an attempt under which others append something is refused by the chain, because the head is then
further on than the block that was built (`Chain.append_next_of_extends`).  So a production whose
attempts can fail for no other reason (`Mint.Ready`) ends at the first attempt that is left alone,
and gives up when none of them is (`Mint.Ready.produceWithin_cases`).

Whether an attempt is left alone depends on the draws before it and on nothing else.  It is
therefore said without the production, of the urn after so many elections (`Mint.Calm`).

Main statement: `Ledger.production_retries_exactly`.  The head's index is counted in 64 bits; an
index that came round to where it was would make a moved head look like the old one, so the
indices have to stay within the range.
-/
import StakeChain.Proofs.Election.Share
import StakeChain.Proofs.Ledger.Delivery
import StakeChain.Proofs.Mint.Attempts

namespace StakeChain

/-! ## 1. Heads that move -/

namespace Chain

variable {c d : Chain}

/-- The index at the head counts the appends, as long as it fits. -/
theorem Extends.toNat_index_head (h : c.Extends d)
    (hfits : c.head.index.toNat + (d.length - c.length) < UInt64.size) :
    d.head.index.toNat = c.head.index.toNat + (d.length - c.length) := by
  induction h with
  | refl => omega
  | @append d d' b hd hb ih =>
    obtain ⟨⟨hindex, -⟩, rfl⟩ := (append_eq_ok_iff _ _ _).mp hb
    have hle := hd.length_le
    rw [length_push] at hfits ⊢
    have hbefore := ih (by omega)
    rw [head_push, hindex, UInt64.toNat_add, hbefore, UInt64.toNat_one]
    rw [UInt64.size] at hfits
    omega

/-- **A block built on a head that has moved is refused for its index.** -/
theorem append_next_of_extends (h : c.Extends d) (hmoved : d ≠ c) (now : Time)
    (transactions : List Transaction) (producer : String)
    (hfits : c.head.index.toNat + (d.length - c.length) < UInt64.size) :
    d.append (c.head.next now transactions producer) =
      .error (.wrongIndex (d.head.index + 1) (c.head.index + 1)) := by
  have hlonger : d.length ≠ c.length := fun hlength => hmoved (h.eq_of_length_eq hlength)
  have hle := h.length_le
  have hindex := h.toNat_index_head hfits
  have hother : c.head.index + 1 ≠ d.head.index + 1 := by
    intro heq
    have hsame : c.head.index = d.head.index := (UInt64.add_left_inj 1).mp heq
    rw [← hsame] at hindex
    omega
  exact if_pos hother

/-- **What a chain can object to in a block that was sealed on some other block**: that its head is
another one, or a transaction. -/
theorem error_of_append_next {parent : Block} {now : Time} {transactions : List Transaction}
    {producer : String} {e : LedgerError}
    (h : c.append (parent.next now transactions producer) = .error e) :
    e.isAppendRace = true ∨ ∃ tx ∈ transactions, tx.isConsistent = false ∧
      e = .forgedTransaction (parent.index + 1) tx.txid := by
  have hsealed : (parent.next now transactions producer).hash =
      (parent.next now transactions producer).digest := Block.hash_sealed _ _ _ _ _
  simp only [append] at h
  split at h
  · cases h
    exact Or.inl rfl
  · split at h
    · cases h
      exact Or.inl rfl
    · rw [if_neg (not_not.mpr hsealed)] at h
      split at h
      · rename_i tx hforged
        cases h
        have hfalse := List.find?_some hforged
        exact Or.inr ⟨tx, List.mem_of_find?_eq_some hforged, by simpa using hfalse, rfl⟩
      · cases h

end Chain

namespace Mint

variable {σ : Type} [DrawSource σ] {m : Mint σ} {transactions : List Transaction} {now : Time}

/-! ## 2. One attempt after another -/

/-- The urn after so many elections among the validators that are live. -/
def urnAfter (m : Mint σ) (now : Time) (elections : Nat) : Urn σ :=
  (m.toUrn.electTimes (m.registry.live now) elections).2

/-- The election of attempt `k`, counted from zero, leaves the chain as it is. -/
def Calm (m : Mint σ) (now : Time) (k : Nat) : Prop :=
  (m.urnAfter now (k + 1)).chain = (m.urnAfter now k).chain

/-- The states in which the first attempts begin, while none of them succeeds. -/
def beginnings (m : Mint σ) (now : Time) (attempts : Nat) : List (Mint σ) :=
  (List.range attempts).map fun k => { m with toUrn := m.urnAfter now k }

/-- The mint after an election. -/
def elected (m : Mint σ) (now : Time) : Mint σ := { m with toUrn := m.urnAfter now 1 }

theorem extends_elected (m : Mint σ) (now : Time) :
    m.chain.Extends (m.elected now).chain := by
  have hchain : (m.elected now).chain = (m.toUrn.elect (m.registry.live now)).2.chain := rfl
  rw [hchain]
  rcases m.toUrn.elect_cases (m.registry.live now) with ⟨-, helect⟩ | ⟨_, -, _, u, hdrawn, helect⟩
  · rw [helect]
    exact .refl
  · rw [helect]
    exact hdrawn.extends

theorem extends_urnAfter_succ (m : Mint σ) (now : Time) : ∀ k,
    (m.urnAfter now k).chain.Extends (m.urnAfter now (k + 1)).chain
  | 0 => m.extends_elected now
  | k + 1 => (m.elected now).extends_urnAfter_succ now k

/-- Whether an attempt is left alone shows in the length of the chain. -/
instance (m : Mint σ) (now : Time) (k : Nat) : Decidable (m.Calm now k) :=
  decidable_of_iff
    ((m.urnAfter now (k + 1)).chain.length = (m.urnAfter now k).chain.length)
    ⟨(m.extends_urnAfter_succ now k).eq_of_length_eq, congrArg Chain.length⟩

theorem beginnings_succ (m : Mint σ) (now : Time) (attempts : Nat) :
    m.beginnings now (attempts + 1) = m :: (m.elected now).beginnings now attempts := by
  rw [beginnings, List.range_succ_eq_map, List.map_cons, List.map_map]
  rfl

/-- An attempt draws as its election does, and appends one block at most. -/
theorem attempt_urn (m : Mint σ) (parent : Block) (transactions : List Transaction) (now : Time) :
    (m.attempt parent transactions now).2.source = (m.elected now).source ∧
      (m.elected now).chain.Extends (m.attempt parent transactions now).2.chain := by
  have hurn : (m.elected now).toUrn = (m.toUrn.elect (m.registry.live now)).2 := rfl
  rw [hurn, attempt]
  obtain ⟨outcome, u⟩ := m.toUrn.elect (m.registry.live now)
  cases outcome with
  | error e => exact ⟨rfl, .refl⟩
  | ok leader =>
    dsimp only
    cases leader.stake.add m.terms.reward with
    | error e => exact ⟨rfl, .refl⟩
    | ok stake =>
      cases happend : u.chain.append (parent.next now transactions leader.identifier) with
      | error e => exact ⟨rfl, .refl⟩
      | ok chain =>
        dsimp only
        cases m.registry.credit leader.identifier m.terms.reward with
        | error e => exact ⟨rfl, Chain.Extends.refl.append happend⟩
        | ok credited => exact ⟨rfl, Chain.Extends.refl.append happend⟩

theorem extends_produceWithin (limit : UInt32) (transactions : List Transaction) (now : Time)
    (attempts : Nat) (m : Mint σ) :
    (m.elected now).chain.Extends
      (m.produceWithin limit transactions now (attempts + 1)).2.chain := by
  obtain ⟨-, hattempt⟩ := m.attempt_urn m.chain.head transactions now
  cases h : m.attempt m.chain.head transactions now with
  | mk result m' =>
    rw [h] at hattempt
    cases result with
    | ok b => simpa [produceWithin, h] using hattempt
    | error e =>
      cases hrace : e.isAppendRace with
      | false => simpa [produceWithin, h, hrace] using hattempt
      | true =>
        have hrest := (produceWithin_produced limit transactions now attempts m').extends
        simpa [produceWithin, h, hrace] using hattempt.trans hrest

/-- No attempt can fail but by losing a race. -/
structure Ready (m : Mint σ) (transactions : List Transaction) (now : Time) : Prop where
  somebody : m.registry.live now ≠ []
  room : ∀ v ∈ m.registry.live now, v.stake.toNat + m.terms.reward.toNat < UInt64.size
  consistent : ∀ tx ∈ transactions, tx.isConsistent = true

/-- The next attempt finds the same validators. -/
theorem Ready.elected (h : m.Ready transactions now) : (m.elected now).Ready transactions now :=
  ⟨h.somebody, h.room, h.consistent⟩

/-- The election finds a leader who can be paid. -/
theorem Ready.exists_leader (h : m.Ready transactions now) :
    ∃ leader ∈ m.registry.live now, ∃ stake : Amount,
      m.toUrn.elect (m.registry.live now) = (.ok leader, m.urnAfter now 1) ∧
        leader.stake.add m.terms.reward = .ok stake := by
  rcases m.toUrn.elect_cases (m.registry.live now) with
    ⟨hnone, -⟩ | ⟨leader, hlive, foreign, u, -, helect⟩
  · exact absurd hnone h.somebody
  · have hurn : m.urnAfter now 1 = u := congrArg Prod.snd helect
    cases hstake : leader.stake.add m.terms.reward with
    | ok stake => exact ⟨leader, hlive, stake, hurn ▸ helect, hstake⟩
    | error e =>
      have hlarge := (Amount.add_eq_error_iff.mp hstake).1
      have hroom := h.room leader hlive
      omega

/-- **An attempt that is left alone seals its block on the head that it found.** -/
theorem Ready.attempt_of_calm (h : m.Ready transactions now) (hcalm : m.Calm now 0) :
    ∃ b m', m.attempt m.chain.head transactions now = (.ok b, m') ∧
      b.index = m.chain.head.index + 1 ∧ b.previousHash = m.chain.head.hash ∧
      m'.chain = m.chain.push b := by
  obtain ⟨leader, hlive, stake, helect, hstake⟩ := h.exists_leader
  have hchain : (m.urnAfter now 1).chain = m.chain := hcalm
  refine ⟨_, _, attempt_of_chain_eq hlive helect hchain hstake h.consistent, rfl, rfl, ?_⟩
  rw [chain_paid, hchain]

/-- **An attempt under which the head has moved loses the race**, and changes the urn only. -/
theorem Ready.attempt_of_not_calm (h : m.Ready transactions now) (hcalm : ¬ m.Calm now 0)
    (hfits : m.chain.head.index.toNat + ((m.elected now).chain.length - m.chain.length) <
      UInt64.size) :
    ∃ e, m.attempt m.chain.head transactions now = (.error e, m.elected now) ∧
      e.isAppendRace = true := by
  obtain ⟨leader, hlive, stake, helect, hstake⟩ := h.exists_leader
  have hrefused := Chain.append_next_of_extends (m.extends_elected now) hcalm now transactions
    leader.identifier hfits
  refine ⟨.wrongIndex ((m.elected now).chain.head.index + 1) (m.chain.head.index + 1), ?_, rfl⟩
  have hurn : (m.urnAfter now 1).chain = (m.elected now).chain := rfl
  simp only [attempt, helect, hstake, hurn, hrefused]
  rfl

/-! ## 3. The loop -/

/-- **A production ends at the first attempt that is left alone, or gives up.**  The induction is on
the number of attempts that are left; behind an attempt that lost its race stands the same mint with
another urn, whose attempts are counted from one later. -/
theorem Ready.produceWithin_cases (limit : UInt32) (attempts : Nat) {m : Mint σ}
    (h : m.Ready transactions now)
    (hfits : m.chain.head.index.toNat +
      ((m.produceWithin limit transactions now attempts).2.chain.length - m.chain.length) <
        UInt64.size) :
    (∃ k < attempts, (∀ j < k, ¬ m.Calm now j) ∧ m.Calm now k ∧
        m.tries transactions now attempts = m.beginnings now (k + 1) ∧
        ∃ b m', m.produceWithin limit transactions now attempts = (.ok b, m') ∧
          b.index = (m.urnAfter now k).chain.head.index + 1 ∧
          b.previousHash = (m.urnAfter now k).chain.head.hash ∧
          m'.chain = (m.urnAfter now k).chain.push b) ∨
      ((∀ k < attempts, ¬ m.Calm now k) ∧
        m.tries transactions now attempts = m.beginnings now attempts ∧
        m.produceWithin limit transactions now attempts =
          (.error (.headKeptMoving limit), { m with toUrn := m.urnAfter now attempts })) := by
  induction attempts generalizing m with
  | zero => exact Or.inr ⟨fun k hk => absurd hk (Nat.not_lt_zero k), rfl, rfl⟩
  | succ attempts ih =>
    by_cases hcalm : m.Calm now 0
    · obtain ⟨b, m', hattempt, hb⟩ := h.attempt_of_calm hcalm
      refine Or.inl ⟨0, Nat.succ_pos attempts, fun j hj => absurd hj (Nat.not_lt_zero j), hcalm,
        ?_, b, m', ?_, hb⟩
      · simp only [tries, hattempt]
        rfl
      · simp only [produceWithin, hattempt]
    · have hextends := m.extends_produceWithin limit transactions now attempts
      have hlonger := hextends.length_le
      obtain ⟨e, hattempt, hrace⟩ := h.attempt_of_not_calm hcalm (by omega)
      have htries : m.tries transactions now (attempts + 1) =
          m :: (m.elected now).tries transactions now attempts := by
        simp only [tries, hattempt, hrace, if_true]
      have hresult : m.produceWithin limit transactions now (attempts + 1) =
          (m.elected now).produceWithin limit transactions now attempts := by
        simp only [produceWithin, hattempt, hrace, if_true]
      have hmore := (m.extends_elected now).length_le
      have hindex := (m.extends_elected now).toNat_index_head (by omega)
      rw [hresult] at hfits hlonger ⊢
      rw [htries]
      rcases ih h.elected (by omega) with
        ⟨k, hk, hbefore, hcalm', htries', b, m', hb⟩ | ⟨hnever, htries', hgaveUp⟩
      · refine Or.inl ⟨k + 1, Nat.succ_lt_succ hk, fun j hj => ?_, hcalm', ?_, b, m', hb⟩
        · cases j with
          | zero => exact hcalm
          | succ j => exact hbefore j (Nat.lt_of_succ_lt_succ hj)
        · rw [htries', beginnings_succ m]
      · refine Or.inr ⟨fun k hk => ?_, ?_, hgaveUp⟩
        · cases k with
          | zero => exact hcalm
          | succ k => exact hnever k (Nat.lt_of_succ_lt_succ hk)
        · rw [htries', beginnings_succ m]

/-! ## 4. Errors -/

/-- **Why an attempt fails**: nobody is live, the reward does not fit, the head has moved, or a
transaction is forged. -/
theorem Attempted.error_cases {parent : Block} {e : LedgerError} {m' : Mint σ}
    (h : m.Attempted parent transactions now (.error e) m') :
    e = .noLiveValidator ∨ e = .amountOverflow ∨ e.isAppendRace = true ∨
      ∃ tx ∈ transactions, tx.isConsistent = false ∧
        e = .forgedTransaction (parent.index + 1) tx.txid := by
  cases h with
  | nobody _ => exact Or.inl rfl
  | overflow _ _ hstake => exact Or.inr (Or.inl (Amount.add_eq_error_iff.mp hstake).2)
  | refused _ _ happend => exact Or.inr (Or.inr (Chain.error_of_append_next happend))

/-- **Why a production fails.**  A lost race is reported as a head that kept moving, so it is never
itself among the reasons. -/
theorem produce_error_cases {e : LedgerError} (h : (m.produce transactions now).1 = .error e) :
    e.isAppendRace = false ∧
      (e = .noLiveValidator ∨ e = .amountOverflow ∨ e = .headKeptMoving m.attemptLimit ∨
        ∃ tx ∈ transactions, tx.isConsistent = false ∧
          ∃ index, e = .forgedTransaction index tx.txid) := by
  obtain ⟨t, -, hproduce⟩ := m.produce_eq_conclude transactions now
  have hattempted := t.attempt_attempted t.chain.head transactions now
  rw [hproduce, conclude] at h
  generalize t.attempt t.chain.head transactions now = outcome at h hattempted
  obtain ⟨result, t'⟩ := outcome
  cases result with
  | ok b => cases h
  | error e' =>
    cases hrace : e'.isAppendRace with
    | true =>
      simp only [hrace, if_true, Except.error.injEq] at h
      subst h
      exact ⟨rfl, Or.inr (Or.inr (Or.inl rfl))⟩
    | false =>
      simp only [hrace, Bool.false_eq_true, if_false, Except.error.injEq] at h
      subst h
      refine ⟨hrace, ?_⟩
      rcases hattempted.error_cases with hnobody | hoverflow | hlost | ⟨tx, htx, hforged, he⟩
      · exact Or.inl hnobody
      · exact Or.inr (Or.inl hoverflow)
      · rw [hrace] at hlost
        cases hlost
      · exact Or.inr (Or.inr (Or.inr ⟨tx, htx, hforged, _, he⟩))

/-! ## 5. Draws -/

/-- Draws below `upper` only, so many at most, were added to the record. -/
def DrewWithin {τ : Type} (upper limit : Nat) (before after : Mint (Recorded τ)) : Prop :=
  ∃ numbers : List Nat, numbers.length ≤ limit ∧
    after.source.draws = before.source.draws ++ numbers.map (upper, ·)

theorem DrewWithin.trans {τ : Type} {upper limit limit' : Nat} {m m' m'' : Mint (Recorded τ)}
    (h : DrewWithin upper limit m m') (h' : DrewWithin upper limit' m' m'') :
    DrewWithin upper (limit + limit') m m'' := by
  obtain ⟨early, hearly, hdraws⟩ := h
  obtain ⟨late, hlate, hdraws'⟩ := h'
  refine ⟨early ++ late, ?_, ?_⟩
  · rw [List.length_append]
    omega
  · rw [hdraws', hdraws, List.map_append, List.append_assoc]

/-- An attempt makes one draw at most, below the live stake. -/
theorem attempt_drewWithin (m : Mint (Recorded σ)) (parent : Block)
    (transactions : List Transaction) (now : Time) :
    DrewWithin (totalStake (m.registry.live now)) 1 m (m.attempt parent transactions now).2 := by
  obtain ⟨hsource, -⟩ := m.attempt_urn parent transactions now
  have hdraws := m.toUrn.draws_elect (m.registry.live now)
  unfold DrewWithin
  rw [hsource]
  by_cases htotal : totalStake (m.registry.live now) = 0
  · rw [if_pos htotal] at hdraws
    exact ⟨[], Nat.zero_le 1, hdraws⟩
  · rw [if_neg htotal] at hdraws
    exact ⟨[_], Nat.le_refl 1, hdraws⟩

/-- **All draws of a production have the same bound**, and there are no more of them than
attempts. -/
theorem produceWithin_drewWithin (limit : UInt32) (transactions : List Transaction) (now : Time)
    (attempts : Nat) (m : Mint (Recorded σ)) :
    DrewWithin (totalStake (m.registry.live now)) (m.tries transactions now attempts).length m
      (m.produceWithin limit transactions now attempts).2 := by
  induction attempts generalizing m with
  | zero => exact ⟨[], Nat.zero_le _, (List.append_nil _).symm⟩
  | succ attempts ih =>
    have hfirst := m.attempt_drewWithin m.chain.head transactions now
    rcases m.tries_succ_cases transactions now attempts with
      ⟨htries, hresult⟩ | ⟨e, m', hattempt, -, htries, hresult⟩
    · rw [htries, hresult, conclude_snd]
      exact hfirst
    · have hattempted := m.attempt_attempted m.chain.head transactions now
      rw [hattempt] at hattempted hfirst
      have hlive : m'.registry.live now = m.registry.live now := by
        obtain ⟨_, u, -, rfl⟩ := hattempted.of_error
        rfl
      have hrest := ih m'
      rw [hlive] at hrest
      rw [htries, hresult, List.length_cons, Nat.add_comm]
      exact hfirst.trans hrest

end Mint

/-! ## 6. In a ledger -/

namespace Ledger

variable {σ : Type} [DrawSource σ]

/-- What waits in the mempool of a ledger was submitted to it, so it is consistent. -/
theorem isConsistent_of_mem_pending (config : Config) (clock : Time) (source : σ)
    (ops : List Operation) {tx : Transaction}
    (h : tx ∈ ((Ledger.new config clock source).run ops).2.mempool.pending) :
    tx.isConsistent = true := by
  have hdelivered := (run_delivered ops (Ledger.new config clock source)).inOrder
  rw [submitted_transcript] at hdelivered
  have hmem : tx ∈ (ops.filterMap Operation.payload?).map Transaction.ofPayload := by
    have hnone : (Ledger.new config clock source).mempool.pending = [] := rfl
    rw [hnone, List.nil_append] at hdelivered
    rw [← hdelivered]
    exact List.mem_append_right _ h
  obtain ⟨payload, -, rfl⟩ := List.mem_map.mp hmem
  exact Transaction.isConsistent_ofPayload payload

/-- **A production tries until it is left alone, so often and no oftener.**  Take any ledger and any
production in it that can fail for no other reason than a head that moves, while indices stay
within their range.  It succeeds if and only if one of its first `n` attempts is left alone by its
draw, where `n` is the limit of the terms, or one.  The block then stands on the chain that the
first such attempt found, with everything that came in before, and no further attempt is made.
Otherwise the head is reported to have kept moving, after exactly `n` attempts.

Of every production, whatever is asked for: an index or a previous hash that does not fit the head
is never its answer; its draws all have one bound, and an attempt makes one at most.  And what waits
in the mempool can always be sealed but for three reasons. -/
theorem production_retries_exactly (l : Ledger σ) (transactions : List Transaction) (now : Time) :
    let n := l.attemptLimit.toNat
    let outcome := l.produce transactions now
    n = max 1 l.terms.maxAttempts.toNat ∧
      (l.Ready transactions now →
        l.chain.head.index.toNat + (outcome.2.chain.length - l.chain.length) < UInt64.size →
          ((∃ b, outcome.1 = .ok b) ↔ ∃ k < n, l.Calm now k) ∧
          (∀ b, outcome.1 = .ok b → ∃ k < n, (∀ j < k, ¬ l.Calm now j) ∧ l.Calm now k ∧
            l.tries transactions now n = l.beginnings now (k + 1) ∧
            b.index = (l.urnAfter now k).chain.head.index + 1 ∧
            b.previousHash = (l.urnAfter now k).chain.head.hash ∧
            outcome.2.chain = (l.urnAfter now k).chain.push b) ∧
          ((∀ b, outcome.1 ≠ .ok b) → outcome.1 = .error (.headKeptMoving l.attemptLimit) ∧
            l.tries transactions now n = l.beginnings now n ∧
            outcome.2.chain = (l.urnAfter now n).chain)) ∧
      (∀ e, outcome.1 = .error e → e.isAppendRace = false) ∧
      (∀ m : Mint (Recorded σ),
        (∀ t ∈ m.tries transactions now m.attemptLimit.toNat,
          Mint.DrewWithin (totalStake (m.registry.live now)) 1 t
            (t.attempt t.chain.head transactions now).2) ∧
        Mint.DrewWithin (totalStake (m.registry.live now))
          (m.tries transactions now m.attemptLimit.toNat).length m
          (m.produce transactions now).2) ∧
      ∀ (config : Config) (clock : Time) (source : σ) (ops : List Operation) (later : Time)
        (e : LedgerError),
        let r := ((Ledger.new config clock source).run ops).2
        (r.producePending later).1 = .error e →
          e = .noLiveValidator ∨ e = .amountOverflow ∨ e = .headKeptMoving r.attemptLimit := by
  intro n outcome
  refine ⟨l.toNat_attemptLimit, fun hready hfits => ?_, fun e he => (Mint.produce_error_cases he).1,
    fun m => ⟨fun t ht => ?_, m.produceWithin_drewWithin _ transactions now _⟩, ?_⟩
  · rcases hready.produceWithin_cases l.attemptLimit n hfits with
      ⟨k, hk, hbefore, hcalm, htries, b, m', hresult, hb⟩ | ⟨hnever, htries, hresult⟩
    · have hok : outcome.1 = .ok b := congrArg Prod.fst hresult
      have hchain : outcome.2.chain = m'.chain := congrArg (·.2.chain) hresult
      refine ⟨iff_of_true ⟨b, hok⟩ ⟨k, hk, hcalm⟩, fun b' hb' => ?_,
        fun hnone => absurd hok (hnone b)⟩
      cases hok.symm.trans hb'
      exact ⟨k, hk, hbefore, hcalm, htries, hb.1, hb.2.1, hchain.trans hb.2.2⟩
    · have herror : outcome.1 = .error (.headKeptMoving l.attemptLimit) :=
        congrArg Prod.fst hresult
      have hnone : ∀ b, outcome.1 ≠ .ok b := by
        intro b hb
        rw [herror] at hb
        cases hb
      refine ⟨iff_of_false ?_ ?_, fun b hb => absurd hb (hnone b), fun _ =>
        ⟨herror, htries, congrArg (·.2.chain) hresult⟩⟩
      · rintro ⟨b, hb⟩
        exact hnone b hb
      · rintro ⟨k, hk, hcalm⟩
        exact hnever k hk hcalm
  · obtain ⟨foreign, u, -, rfl⟩ := Mint.mem_tries ht
    exact Mint.attempt_drewWithin _ _ transactions now
  · intro config clock source ops later e r he
    rcases (Mint.produce_error_cases he).2 with
      hnobody | hoverflow | hmoving | ⟨tx, htx, hforged, -⟩
    · exact Or.inl hnobody
    · exact Or.inr (Or.inl hoverflow)
    · exact Or.inr (Or.inr hmoving)
    · rw [isConsistent_of_mem_pending config clock source ops htx] at hforged
      cases hforged

/-- The first attempt loses its race against an interloper, and the second one seals. -/
theorem production_retries_exactly_under_interloper :
    let l := ((Ledger.new Config.default 0 (Source.interloper 1)).run
      [.validator (.register "A" ⟨100000000000⟩ 0)]).2
    l.Ready [] 10 ∧ ¬ l.Calm 10 0 ∧ l.Calm 10 1 ∧ ∃ b, (l.produce [] 10).1 = .ok b := by
  intro l
  have hready : l.Ready [] 10 := ⟨by decide, by decide, by simp⟩
  obtain ⟨hfits, hmoved, hcalm⟩ : l.chain.head.index.toNat +
      ((l.produce [] 10).2.chain.length - l.chain.length) < UInt64.size ∧
        ¬ l.Calm 10 0 ∧ l.Calm 10 1 := by
    decide +kernel
  have hlimit : 1 < l.attemptLimit.toNat := by decide
  obtain ⟨-, hexactly, -⟩ := production_retries_exactly l [] 10
  exact ⟨hready, hmoved, hcalm, (hexactly hready hfits).1.mpr ⟨1, hlimit, hcalm⟩⟩

end Ledger

end StakeChain

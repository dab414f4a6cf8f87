/-
# The attempts of a production

A production that meets a moved head tries again, on the head that it finds then.  `Mint.tries`
lists the states in which its attempts begin, one behind the other.  What the production answers
is what its last attempt answers (`Mint.produce_eq_conclude`), and its attempts differ in
what draws have done to chain and source, in nothing else (`Mint.mem_tries`): all of them elect
among the same validators.

Where the draw leaves the chain alone the first attempt is the last one
(`Mint.produce_of_chain_eq`): its block is sealed on the head that is still there.
-/
import StakeChain.Proofs.Mint.Production

namespace StakeChain

/-- A block of consistent transactions that was sealed on top of the head is appended. -/
theorem Chain.append_next (c : Chain) (now : Time) {transactions : List Transaction}
    (producer : String) (h : ∀ tx ∈ transactions, tx.isConsistent = true) :
    c.append (c.head.next now transactions producer) =
      .ok (c.push (c.head.next now transactions producer)) := by
  rw [append_eq_ok_iff]
  exact ⟨⟨rfl, rfl, Block.hash_sealed _ _ _ _ _, Block.forged?_eq_none_iff.mpr h⟩, rfl⟩

namespace Mint

variable {σ : Type} [DrawSource σ] {m t : Mint σ} {transactions : List Transaction} {now : Time}

/-! ## 1. Attempts, one behind the other -/

/-- The states in which the attempts of a production begin, where at most so many are made. -/
def tries (transactions : List Transaction) (now : Time) : (attempts : Nat) → Mint σ → List (Mint σ)
  | 0, _ => []
  | attempts + 1, m =>
    m :: match m.attempt m.chain.head transactions now with
      | (.ok _, _) => []
      | (.error e, m) => if e.isAppendRace then tries transactions now attempts m else []

/-- How a production ends whose last attempt begins in `t`: a race that was lost by then is
reported as such. -/
def conclude (limit : UInt32) (t : Mint σ) (transactions : List Transaction) (now : Time) :
    Except LedgerError Block × Mint σ :=
  match t.attempt t.chain.head transactions now with
  | (.ok b, m) => (.ok b, m)
  | (.error e, m) => (.error (if e.isAppendRace then .headKeptMoving limit else e), m)

/-- **An attempt settles the production, or it loses a race** and the other attempts follow. -/
theorem tries_succ_cases (m : Mint σ) (transactions : List Transaction) (now : Time)
    (attempts : Nat) :
    (m.tries transactions now (attempts + 1) = [m] ∧ ∀ limit,
        m.produceWithin limit transactions now (attempts + 1) =
          m.conclude limit transactions now) ∨
      ∃ e m', m.attempt m.chain.head transactions now = (.error e, m') ∧
        e.isAppendRace = true ∧
        m.tries transactions now (attempts + 1) = m :: m'.tries transactions now attempts ∧
        ∀ limit, m.produceWithin limit transactions now (attempts + 1) =
          m'.produceWithin limit transactions now attempts := by
  cases hattempt : m.attempt m.chain.head transactions now with
  | mk result m' =>
    cases result with
    | ok b =>
      refine Or.inl ⟨?_, fun limit => ?_⟩
      · simp [tries, hattempt]
      · simp [produceWithin, conclude, hattempt]
    | error e =>
      cases hrace : e.isAppendRace with
      | false =>
        refine Or.inl ⟨?_, fun limit => ?_⟩
        · simp [tries, hattempt, hrace]
        · simp [produceWithin, conclude, hattempt, hrace]
      | true =>
        refine Or.inr ⟨e, m', rfl, hrace, ?_, fun limit => ?_⟩
        · simp [tries, hattempt, hrace]
        · simp [produceWithin, hattempt, hrace]

/-- **A production ends as its last attempt does.** -/
theorem produceWithin_eq_conclude (limit : UInt32) (attempts : Nat) (m : Mint σ) :
    ∃ t, (m.tries transactions now (attempts + 1)).getLast? = some t ∧
      m.produceWithin limit transactions now (attempts + 1) =
        t.conclude limit transactions now := by
  induction attempts generalizing m with
  | zero =>
    rcases m.tries_succ_cases transactions now 0 with
      ⟨htries, hresult⟩ | ⟨e, m', hattempt, hrace, htries, hresult⟩
    · exact ⟨m, by rw [htries]; rfl, hresult limit⟩
    · refine ⟨m, by rw [htries]; rfl, ?_⟩
      rw [hresult limit]
      simp [produceWithin, conclude, hattempt, hrace]
  | succ attempts ih =>
    rcases m.tries_succ_cases transactions now (attempts + 1) with
      ⟨htries, hresult⟩ | ⟨e, m', hattempt, hrace, htries, hresult⟩
    · exact ⟨m, by rw [htries]; rfl, hresult limit⟩
    · obtain ⟨t, hlast, hconclude⟩ := ih m'
      refine ⟨t, ?_, (hresult limit).trans hconclude⟩
      rw [htries, List.getLast?_cons, hlast]
      rfl

/-- As many attempts as the terms say, but at least one. -/
theorem toNat_attemptLimit {τ : Type} (m : Mint τ) :
    m.attemptLimit.toNat = max 1 m.terms.maxAttempts.toNat := by
  show (if m.terms.maxAttempts ≤ 1 then 1 else m.terms.maxAttempts).toNat = _
  split
  · rename_i hle
    exact (Nat.max_eq_left (UInt32.le_iff_toNat_le.mp hle)).symm
  · rename_i hmore
    have hlt := UInt32.lt_iff_toNat_lt.mp (UInt32.not_le.mp hmore)
    exact (Nat.max_eq_right (Nat.le_of_lt hlt)).symm

theorem exists_attemptLimit_eq {τ : Type} (m : Mint τ) :
    ∃ more, m.attemptLimit.toNat = more + 1 := by
  rw [toNat_attemptLimit]
  exact ⟨max 1 m.terms.maxAttempts.toNat - 1, by omega⟩

theorem conclude_snd (limit : UInt32) (t : Mint σ) (transactions : List Transaction) (now : Time) :
    (t.conclude limit transactions now).2 = (t.attempt t.chain.head transactions now).2 := by
  unfold conclude
  split <;> simp [*]

theorem produce_eq_conclude (m : Mint σ) (transactions : List Transaction) (now : Time) :
    ∃ t, (m.tries transactions now m.attemptLimit.toNat).getLast? = some t ∧
      m.produce transactions now = t.conclude m.attemptLimit transactions now := by
  obtain ⟨more, hmore⟩ := m.exists_attemptLimit_eq
  unfold produce
  rw [hmore]
  exact produceWithin_eq_conclude m.attemptLimit more m

/-- **Attempts differ in what draws have done**, and elect among the same validators. -/
theorem mem_tries {attempts : Nat} (h : t ∈ m.tries transactions now attempts) :
    ∃ foreign u, m.Drawn now foreign u ∧ t = { m with toUrn := u } := by
  induction attempts generalizing m with
  | zero => simp [tries] at h
  | succ attempts ih =>
    have hfirst : ∃ foreign u, m.Drawn now foreign u ∧ m = { m with toUrn := u } :=
      ⟨[], m.toUrn, .start, rfl⟩
    rcases m.tries_succ_cases transactions now attempts with
      ⟨htries, -⟩ | ⟨e, m', hattempt, -, htries, -⟩
    · rw [htries, List.mem_singleton] at h
      rw [h]
      exact hfirst
    · rw [htries, List.mem_cons] at h
      rcases h with rfl | h
      · exact hfirst
      · have hattempted := m.attempt_attempted m.chain.head transactions now
        rw [hattempt] at hattempted
        obtain ⟨early, u, hdrawn, rfl⟩ := hattempted.of_error
        obtain ⟨late, v, hlate, rfl⟩ := ih h
        exact ⟨early ++ late, v, hdrawn.trans hlate, rfl⟩

/-! ## 2. Productions of one attempt -/

/-- A production answers what its first attempt does, if that loses no race. -/
theorem produce_of_attempt {result : Except LedgerError Block} {m' : Mint σ}
    (hattempt : m.attempt m.chain.head transactions now = (result, m'))
    (hsettled : ∀ e, result = .error e → e.isAppendRace = false) :
    m.produce transactions now = (result, m') := by
  obtain ⟨more, hmore⟩ := m.exists_attemptLimit_eq
  unfold produce
  rw [hmore]
  cases result with
  | ok b => simp [produceWithin, hattempt]
  | error e => simp [produceWithin, hattempt, hsettled e rfl]

theorem produce_of_nobody (transactions : List Transaction) (hnobody : m.registry.live now = []) :
    m.produce transactions now = (.error .noLiveValidator, m) := by
  refine produce_of_attempt ?_ ?_
  · simp [attempt, hnobody, Urn.elect]
  · rintro e ⟨⟩
    rfl

/-- An attempt succeeds when its draw leaves the chain alone and the reward fits the stake of whom
it elects. -/
theorem attempt_of_chain_eq {leader : Validator} {stake : Amount} {u : Urn σ}
    (hlive : leader ∈ m.registry.live now)
    (helect : m.toUrn.elect (m.registry.live now) = (.ok leader, u)) (hchain : u.chain = m.chain)
    (hstake : leader.stake.add m.terms.reward = .ok stake)
    (hconsistent : ∀ tx ∈ transactions, tx.isConsistent = true) :
    m.attempt m.chain.head transactions now =
      (.ok (m.chain.head.next now transactions leader.identifier),
        m.paid u (m.chain.head.next now transactions leader.identifier) leader stake) := by
  have happend := u.chain.append_next now leader.identifier hconsistent
  rw [hchain] at happend
  have hcredit := Registry.credit_live hlive hstake
  simp [attempt, helect, hstake, hchain, happend, hcredit, paid]

/-- **A production succeeds at once when its draw leaves the chain alone** and the reward fits the
stake of whom it elects. -/
theorem produce_of_chain_eq {leader : Validator} {stake : Amount} {u : Urn σ}
    (hlive : leader ∈ m.registry.live now)
    (helect : m.toUrn.elect (m.registry.live now) = (.ok leader, u)) (hchain : u.chain = m.chain)
    (hstake : leader.stake.add m.terms.reward = .ok stake)
    (hconsistent : ∀ tx ∈ transactions, tx.isConsistent = true) :
    m.produce transactions now =
      (.ok (m.chain.head.next now transactions leader.identifier),
        m.paid u (m.chain.head.next now transactions leader.identifier) leader stake) := by
  refine produce_of_attempt (attempt_of_chain_eq hlive helect hchain hstake hconsistent) ?_
  rintro e ⟨⟩

end Mint

end StakeChain

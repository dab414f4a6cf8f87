/-
# Who is in the registry

The minimum stake and the identifier are looked at once, when a validator registers.  They hold
of it ever after (`Validator.Admitted`): a stake only grows, by credits and by rewards, a
heartbeat only moves forwards, and an identifier stays.

An election may rely on that.  Where the minimum is above zero everybody live has a stake, so
there is something to draw for, and an honest draw falls into somebody's stretch: neither of the
two special branches of an election is ever taken.

Main statement: `Ledger.admitted_and_drawn`.
-/
import StakeChain.Ledger.Operation
import StakeChain.Proofs.Election.Draws
import StakeChain.Proofs.Mint.Attempts
import StakeChain.Proofs.Registry.Attendance

namespace StakeChain

/-! ## 1. Validators -/

/-- **A validator that was let in** under these terms. -/
structure Validator.Admitted (terms : RegistryTerms) (v : Validator) : Prop where
  named : Text.allBlank v.identifier = false
  staked : terms.minimumStake ≤ v.stake
  heard : v.registeredAt ≤ v.lastActiveAt

namespace Validator.Admitted

variable {terms : RegistryTerms} {v : Validator}

theorem heartbeat (h : v.Admitted terms) (now : Time) : (v.heartbeat now).Admitted terms := by
  refine ⟨h.named, h.staked, ?_⟩
  have hheard := Int64.le_iff_toInt_le.mp h.heard
  simp only [Validator.heartbeat, Int64.le_iff_toInt_le, Time.toInt_max]
  omega

/-- More stake is enough stake. -/
theorem raised (h : v.Admitted terms) {stake amount : Amount}
    (hstake : stake.toNat = v.stake.toNat + amount.toNat) :
    Admitted terms { v with stake } := by
  refine ⟨h.named, ?_, h.heard⟩
  have hstaked := Amount.le_iff_toNat.mp h.staked
  simp only [Amount.le_iff_toNat, hstake]
  omega

end Validator.Admitted

/-! ## 2. The registry -/

namespace Registry

variable {r r' : Registry} {v : Validator}

/-- **The invariant**: whoever is in the registry was let in. -/
def Admits (r : Registry) : Prop :=
  ∀ identifier v, r.validators.get? identifier = some v → v.Admitted r.terms

theorem Admits.put (h : r.Admits) (hv : v.Admitted r.terms) : (r.put v).Admits := by
  intro identifier w hw
  rw [get?_put] at hw
  split at hw
  · cases hw
    exact hv
  · exact h identifier w hw

theorem Admits.drop (h : r.Admits) (identifier : String) : (r.drop identifier).Admits := by
  intro key w hw
  rw [get?_drop] at hw
  split at hw
  · cases hw
  · exact h key w hw

/-- A change that lets nobody out of the terms. -/
theorem Admits.updated {identifier : String} {change : Validator → Except LedgerError Validator}
    (h : r.Admits) (hr : r.update identifier change = .ok (v, r'))
    (hchange : ∀ u w, change u = .ok w → u.Admitted r.terms → w.Admitted r.terms) :
    r'.Admits := by
  obtain ⟨u, hu, hv, rfl⟩ := update_eq_ok_iff.mp hr
  exact h.put (hchange u v hv (h identifier u hu))

/-- **An operation keeps the invariant.** -/
theorem Admits.performed {op : ValidatorOperation} {answer : Except LedgerError Answer}
    (h : r.Admits) (hp : r.Performed op answer r') : r'.Admits := by
  cases hp with
  | refused => exact h
  | found _ => exact h
  | @registered identifier stake now v r' hr =>
    obtain ⟨⟨hnamed, hstaked, -⟩, rfl, rfl⟩ := register_eq_ok_iff.mp hr
    exact h.put ⟨hnamed, hstaked, Int64.le_refl now⟩
  | @heard identifier now v r' hr =>
    refine h.updated hr ?_
    rintro u w ⟨⟩ hu
    exact hu.heartbeat now
  | switched hr =>
    refine h.updated hr ?_
    rintro u w ⟨⟩ hu
    exact ⟨hu.named, hu.staked, hu.heard⟩
  | credited hr =>
    obtain ⟨u, stake, hu, hstake, rfl, rfl⟩ := credit_eq_ok_iff.mp hr
    exact h.put ((h _ u hu).raised hstake)
  | removed hr =>
    obtain ⟨-, rfl⟩ := remove_eq_ok_iff.mp hr
    exact h.drop _

/-- **The listing is in strict order of the identifiers.** -/
theorem pairwise_list (r : Registry) :
    r.list.Pairwise (fun v w => v.identifier < w.identifier) :=
  Table.pairwise_values r.keyed

theorem live_sublist (r : Registry) (now : Time) : (r.live now).Sublist r.list :=
  List.filter_sublist

/-- Under a minimum above zero everybody live has a stake, and an honest draw decides. -/
theorem Admits.drawDecides {σ : Type} [DrawSource σ] {u : Urn σ} {now : Time} (h : r.Admits)
    (hminimum : .zero < r.terms.minimumStake) (hhonest : DrawSource.Honest u.source)
    (hlive : r.live now ≠ []) : u.DrawDecides (r.live now) := by
  obtain ⟨v, hv⟩ := List.exists_mem_of_ne_nil _ hlive
  have hstaked := (h _ v (mem_live_iff.mp hv).1).staked
  rw [Amount.lt_iff_toNat] at hminimum
  rw [Amount.le_iff_toNat] at hstaked
  refine u.drawDecides_of_honest hhonest hv ?_
  rw [Amount.lt_iff_toNat]
  omega

end Registry

/-! ## 3. Productions -/

namespace Mint

variable {σ : Type} [DrawSource σ] {m m' : Mint σ} {transactions : List Transaction} {now : Time}
  {result : Except LedgerError Block}

theorem Produced.admits (h : m.Produced transactions now result m') (hm : m.registry.Admits) :
    m'.registry.Admits := by
  cases h with
  | failed _ => exact hm
  | @succeeded leader foreign u stake parent hlive _ hstake _ =>
    have hleader := hm _ leader (Registry.mem_live_iff.mp hlive).1
    exact hm.put (hleader.raised (Amount.add_eq_ok_iff.mp hstake))

theorem Produced.reaches (h : m.Produced transactions now result m') :
    DrawSource.Reaches m.source m'.source := by
  cases h with
  | failed hdrawn => exact hdrawn.reaches
  | succeeded _ hdrawn _ _ => exact hdrawn.reaches

end Mint

/-! ## 4. Histories -/

namespace Ledger

variable {σ : Type} [DrawSource σ]

theorem admits_perform {l : Ledger σ} (h : l.registry.Admits) (op : Operation) :
    (l.perform op).2.registry.Admits := by
  cases op with
  | validator op => exact h.performed (l.registry.perform_performed op)
  | append b => cases happend : l.chain.append b <;> simp only [perform, happend] <;> exact h
  | produce transactions now => exact (l.toMint.produce_produced transactions now).admits h
  | producePending now => exact (l.toMint.produce_produced l.mempool.pending now).admits h
  | _ => exact h

theorem reaches_perform (l : Ledger σ) (op : Operation) :
    DrawSource.Reaches l.source (l.perform op).2.source := by
  cases op with
  | append b => cases happend : l.chain.append b <;> simp only [perform, happend] <;> exact .start
  | produce transactions now => exact (l.toMint.produce_produced transactions now).reaches
  | producePending now => exact (l.toMint.produce_produced l.mempool.pending now).reaches
  | _ => exact .start

theorem admits_run (ops : List Operation) {l : Ledger σ} (h : l.registry.Admits) :
    (l.run ops).2.registry.Admits := by
  refine run_keeps (motive := fun m => m.registry.Admits) ?_ ops h
  intro m op h
  exact admits_perform h op

theorem registry_terms_run (ops : List Operation) (l : Ledger σ) :
    (l.run ops).2.registry.terms = l.registry.terms := by
  refine run_keeps (motive := fun m => m.registry.terms = l.registry.terms) ?_ ops rfl
  intro m op h
  exact (m.registry_terms_perform op).trans h

theorem reaches_run (ops : List Operation) (l : Ledger σ) :
    DrawSource.Reaches l.source (l.run ops).2.source := by
  refine run_keeps (motive := fun m => DrawSource.Reaches l.source m.source) ?_ ops .start
  intro m op h
  exact h.trans (m.reaches_perform op)

/-- **Whoever is in the registry was let in, and where that takes a stake, elections are decided
by the draw.**  After any history, at whatever times: each validator stands under its own
identifier, which is not blank, holds the minimum stake at least, and was heard from no earlier
than it registered; the listing is in strict order of the identifiers, and the live validators
are those of the listing that are live, in the same order.  If the minimum stake is above zero
and somebody is live, an honest draw decides the election, whoever makes it, and it decides each
attempt of a production. -/
theorem admitted_and_drawn (config : Config) (clock : Time) (source : σ) (ops : List Operation) :
    let l := ((Ledger.new config clock source).run ops).2
    (∀ identifier v, l.registry.validators.get? identifier = some v →
        v.identifier = identifier ∧ v.Admitted config.registry) ∧
      l.registry.list.Pairwise (fun v w => v.identifier < w.identifier) ∧
      (∀ now, (l.registry.live now).Pairwise (fun v w => v.identifier < w.identifier) ∧
        (l.registry.live now).Sublist l.registry.list ∧
        ∀ v, v ∈ l.registry.live now ↔
          v ∈ l.registry.list ∧ v.isLive now config.registry.activityWindow = true) ∧
      (.zero < config.registry.minimumStake → ∀ now, l.registry.live now ≠ [] →
        (∀ {τ : Type} [DrawSource τ] (u : Urn τ), DrawSource.Honest u.source →
          u.DrawDecides (l.registry.live now)) ∧
        (DrawSource.Honest source → ∀ transactions,
          ∀ t ∈ l.toMint.tries transactions now l.attemptLimit.toNat,
            t.toUrn.DrawDecides (t.registry.live now))) := by
  intro l
  have hadmits : l.registry.Admits := admits_run ops fun _ _ h => nomatch h
  have hterms : l.registry.terms = config.registry := registry_terms_run ops _
  have hreaches : DrawSource.Reaches source l.source :=
    reaches_run ops (Ledger.new config clock source)
  have hlist := l.registry.pairwise_list
  refine ⟨fun identifier v hv => ⟨l.registry.keyed hv, hterms ▸ hadmits identifier v hv⟩, hlist,
    fun now => ⟨hlist.sublist (l.registry.live_sublist now), l.registry.live_sublist now, ?_⟩, ?_⟩
  · intro v
    rw [← hterms]
    exact List.mem_filter
  · intro hminimum now hlive
    rw [← hterms] at hminimum
    refine ⟨fun u hhonest => hadmits.drawDecides hminimum hhonest hlive, ?_⟩
    intro hhonest transactions t ht
    obtain ⟨foreign, u, hdrawn, rfl⟩ := Mint.mem_tries ht
    have hreached : DrawSource.Reaches l.source u.source := hdrawn.reaches
    exact hadmits.drawDecides hminimum (hhonest.of_reaches (hreaches.trans hreached)) hlive

/-- An interloper moves the head under the first of two attempts, after one validator was
credited and the other came back. -/
theorem admitted_and_drawn_under_interloper :
    let l := ((Ledger.new Config.default 0 (Source.interloper 1)).run
      [.validator (.register "B" ⟨100000000000⟩ 5), .validator (.register "A" ⟨100000000000⟩ 7),
        .validator (.credit "A" ⟨1⟩), .validator (.remove "B"),
        .validator (.register "B" ⟨200000000000⟩ 3), .validator (.heartbeat "A" 2)]).2
    .zero < Config.default.registry.minimumStake ∧ l.registry.live 10 ≠ [] ∧
      (l.toMint.tries [] 10 l.attemptLimit.toNat).length = 2 ∧
      ∀ t ∈ l.toMint.tries [] 10 l.attemptLimit.toNat,
        t.toUrn.DrawDecides (t.registry.live 10) := by
  intro l
  have hminimum : .zero < Config.default.registry.minimumStake := by decide
  have hlive : l.registry.live 10 ≠ [] := by decide +kernel
  have htwice : (l.toMint.tries [] 10 l.attemptLimit.toNat).length = 2 := by decide +kernel
  obtain ⟨-, -, -, hdrawn⟩ := admitted_and_drawn Config.default 0 (Source.interloper 1)
    [.validator (.register "B" ⟨100000000000⟩ 5), .validator (.register "A" ⟨100000000000⟩ 7),
      .validator (.credit "A" ⟨1⟩), .validator (.remove "B"),
      .validator (.register "B" ⟨200000000000⟩ 3), .validator (.heartbeat "A" 2)]
  exact ⟨hminimum, hlive, htwice, (hdrawn hminimum 10 hlive).2 (Source.honest_interloper 1) []⟩

end Ledger

end StakeChain

/-
# A refusal leaves no trace

Every change of a ledger is made at the end, after all that could go wrong has been looked at: a
stake is put back into its pool once its sums are known to fit, a body is read before the registry
is asked, and a block is appended once the reward for it fits.  So an operation that is refused has
changed nothing (`Ledger.perform_of_error`), and neither has a request that is not answered with
success, whatever its method, path and body (`Http.respond_of_failure`).

There is one thing that a failure cannot take back.  A production draws before it learns that it
will fail, and a draw moves the source on; a source may even bring blocks of others onto the chain
(`Ledger.DrawnTo`).  From a quiet source there are none, and then the chain stays as well.

Main statement: `Http.refusal_leaves_no_trace`, for operations and requests together, with the
requests that only look.
-/
import Mathlib.Control.Monad.Basic
import StakeChain.Http.Service
import StakeChain.Proofs.Election.Draws
import StakeChain.Proofs.Mint.Production
import StakeChain.Proofs.Registry.Operations
import StakeChain.Proofs.Staking.Operations

namespace StakeChain

/-! ## 1. Operations -/

namespace Ledger

variable {σ : Type} [DrawSource σ] {l l' : Ledger σ}

/-- `l.DrawnTo l'`: draws lead from `l` to `l'`, and nothing else was done. -/
def DrawnTo (l l' : Ledger σ) : Prop :=
  ∃ (upper : Nat) (foreign : List Block) (u : Urn σ), l.toUrn.Drawn upper foreign u ∧
    l' = { l with chain := u.chain, source := u.source }

theorem DrawnTo.refl (l : Ledger σ) : l.DrawnTo l := ⟨0, [], l.toUrn, .start, rfl⟩

/-- Draws from a quiet source change the source and nothing else. -/
theorem DrawnTo.of_quiet (h : l.DrawnTo l') (hquiet : DrawSource.Quiet l.source) :
    ∃ source, l' = { l with source } := by
  obtain ⟨upper, foreign, ⟨chain, source⟩, hdrawn, rfl⟩ := h
  obtain rfl : chain = l.chain := hdrawn.chain_of_quiet hquiet
  exact ⟨source, rfl⟩

theorem drawnTo_produce {transactions : List Transaction} {now : Time} {e : LedgerError}
    (h : (l.produce transactions now).1 = .error e) :
    l.DrawnTo (l.produce transactions now).2 := by
  have hproduced := l.toMint.produce_produced transactions now
  rw [show (l.toMint.produce transactions now).1 = .error e from h] at hproduced
  obtain ⟨_, u, hdrawn, hmint⟩ := hproduced.of_error
  show l.DrawnTo { l with toMint := (l.toMint.produce transactions now).2 }
  rw [hmint]
  exact ⟨_, _, u, hdrawn, rfl⟩

/-- The mempool is not drained by a production that fails. -/
theorem drawnTo_producePending {now : Time} {e : LedgerError}
    (h : (l.producePending now).1 = .error e) : l.DrawnTo (l.producePending now).2 := by
  have hproduce : (l.produce l.mempool.pending now).1 = .error e := h
  rw [producePending_of_error hproduce]
  exact drawnTo_produce hproduce

/-- **An operation that is refused leaves the ledger as it was**, draws apart. -/
theorem perform_of_error {op : Operation} {e : LedgerError} (h : (l.perform op).1 = .error e) :
    l.DrawnTo (l.perform op).2 := by
  cases op with
  | stake op =>
    have hperformed := l.stakes.perform_performed op
    rw [show (l.stakes.perform op).1 = .error e from h] at hperformed
    have hsame : (l.perform (.stake op)).2 = l := by
      show { l with stakes := (l.stakes.perform op).2 } = l
      rw [hperformed.of_error]
    rw [hsame]
    exact .refl l
  | validator op =>
    have hperformed := l.registry.perform_performed op
    rw [show (l.registry.perform op).1 = .error e from h] at hperformed
    have hsame : (l.perform (.validator op)).2 = l := by
      show { l with registry := (l.registry.perform op).2 } = l
      rw [hperformed.of_error]
    rw [hsame]
    exact .refl l
  | append b =>
    cases happend : l.chain.append b with
    | ok c => simp [perform, happend] at h
    | error _ =>
      simp only [perform, happend]
      exact .refl l
  | block _ => exact .refl l
  | submit _ => cases h
  | produce transactions now =>
    cases hproduce : (l.produce transactions now).1 with
    | ok b => simp [perform, hproduce, Except.map] at h
    | error _ => exact drawnTo_produce hproduce
  | producePending now =>
    cases hproduce : (l.producePending now).1 with
    | ok b => simp [perform, hproduce, Except.map] at h
    | error _ => exact drawnTo_producePending hproduce

end Ledger

/-! ## 2. Requests -/

namespace Http

/-- The questions that only look. -/
def Route.isView : Route → Bool
  | .produce | .submit | .register | .heartbeat _ | .setActive _ | .remove _ | .openStake
  | .claim _ | .increase _ | .closeStake _ => false
  | _ => true

theorem Route.isView_of_ofGet? {segments : List String} {route : Route}
    (h : ofGet? segments = some route) : route.isView = true := by
  unfold ofGet? at h
  split at h <;> cases h <;> rfl

section

variable {σ α : Type} {l : Ledger σ} {accept : Ledger σ → α → Response}

/-- Where every accepted change of the registry is answered with success, an answer without success
comes from a refusal, and the ledger is as it was. -/
theorem changeRegistry_of_failure {change : Except LedgerError (α × Registry)}
    (haccept : ∀ l a, (accept l a).isSuccess = true)
    (h : (changeRegistry l accept change).1.isSuccess = false) :
    (changeRegistry l accept change).2 = l := by
  cases change with
  | error e => rfl
  | ok x => exact absurd (haccept _ x.1) (Bool.eq_false_iff.mp h)

theorem changeStakes_of_failure {change : Except LedgerError (α × StakePool)}
    (haccept : ∀ l a, (accept l a).isSuccess = true)
    (h : (changeStakes l accept change).1.isSuccess = false) :
    (changeStakes l accept change).2 = l := by
  cases change with
  | error e => rfl
  | ok x => exact absurd (haccept _ x.1) (Bool.eq_false_iff.mp h)

end

variable {σ : Type} [DrawSource σ] {l : Ledger σ} {request : Request}

/-- A question that only looks leaves the ledger as it is, whatever the answer. -/
theorem ask_of_isView {route : Route} (hview : route.isView = true) :
    (ask l request route).2 = l := by
  cases route with
  | block index =>
    simp only [ask]
    split <;> rfl
  | checkBlock =>
    simp only [ask]
    split <;> rfl
  | quorum =>
    simp only [ask]
    split <;> rfl
  | produce | submit | register | heartbeat _ | setActive _ | remove _ | openStake | claim _
  | increase _ | closeStake _ => cases hview
  | _ => rfl

/-- **A question that is not answered with success leaves the ledger as it was**, unless it asks for
a block. -/
theorem ask_of_failure {route : Route} (hne : route ≠ .produce)
    (h : (ask l request route).1.isSuccess = false) : (ask l request route).2 = l := by
  by_cases hview : route.isView = true
  · exact ask_of_isView hview
  · cases route with
    | produce => exact absurd rfl hne
    | submit =>
      simp only [ask] at h ⊢
      split at h
      · rfl
      · cases h
    | register =>
      simp only [ask] at h ⊢
      split at h
      · rfl
      · exact changeRegistry_of_failure (fun _ _ => rfl) h
    | heartbeat identifier => exact changeRegistry_of_failure (fun _ _ => rfl) h
    | setActive identifier =>
      simp only [ask] at h ⊢
      split at h
      · rfl
      · exact changeRegistry_of_failure (fun _ _ => rfl) h
    | remove identifier => exact changeRegistry_of_failure (fun _ _ => rfl) h
    | openStake =>
      simp only [ask] at h ⊢
      split at h
      · rfl
      · exact changeStakes_of_failure (fun _ _ => rfl) h
    | claim owner => exact changeStakes_of_failure (fun _ _ => rfl) h
    | increase owner =>
      simp only [ask] at h ⊢
      split at h
      · rfl
      · exact changeStakes_of_failure (fun _ _ => rfl) h
    | closeStake owner => exact changeStakes_of_failure (fun _ _ => rfl) h
    | _ => exact absurd rfl hview

/-- A request for a block that is not answered with one has drawn in vain, and that is all. -/
theorem drawnTo_ask_produce (h : (ask l request .produce).1.isSuccess = false) :
    l.DrawnTo (ask l request .produce).2 := by
  have hfailed : ∀ result : Except LedgerError Block,
      (Response.ofResult (fun b => .created b.toJson) result).isSuccess = false →
        ∃ e, result = .error e := by
    intro result hresult
    cases result with
    | ok b => cases hresult
    | error e => exact ⟨e, rfl⟩
  simp only [ask] at h ⊢
  obtain ⟨e, he⟩ := hfailed _ h
  split at he
  · exact Ledger.drawnTo_produce he
  · exact Ledger.drawnTo_producePending he

/-- **A request that is not answered with success leaves the ledger as it was**, draws apart. -/
theorem respond_of_failure (h : (respond l request).1.isSuccess = false) :
    l.DrawnTo (respond l request).2 := by
  unfold respond at h ⊢
  split at h
  · exact .refl l
  · split at h
    · exact .refl l
    · rename_i route hroute
      by_cases hproduce : route = .produce
      · subst hproduce
        exact drawnTo_ask_produce h
      · rw [ask_of_failure hproduce h]
        exact .refl l

/-- A request by the method of looking leaves the ledger as it is, whatever its answer. -/
theorem respond_get (hmethod : request.method = "GET") : (respond l request).2 = l := by
  unfold respond
  split
  · rfl
  · split
    · rfl
    · rename_i hroute
      rw [Route.of?, if_pos hmethod] at hroute
      exact ask_of_isView (Route.isView_of_ofGet? hroute)

/-- **A refusal leaves no trace.**  Take any ledger whose source offers no blocks.  An operation
that is refused, with whatever arguments, and a request that is not answered with success, whatever
its method, path, content type and body, leave the registry, the stakes, the chain, the mempool and
everything else as they were; only the source may have moved on.  A request by `GET` leaves even
that as it was, whether it succeeds or not. -/
theorem refusal_leaves_no_trace (l : Ledger σ) (hquiet : DrawSource.Quiet l.source) :
    (∀ op e, (l.perform op).1 = .error e → ∃ source, (l.perform op).2 = { l with source }) ∧
      (∀ request, (respond l request).1.isSuccess = false →
        ∃ source, (respond l request).2 = { l with source }) ∧
      ∀ request, request.method = "GET" → (respond l request).2 = l :=
  ⟨fun _ _ h => (Ledger.perform_of_error h).of_quiet hquiet,
    fun _ h => (respond_of_failure h).of_quiet hquiet,
    fun _ hmethod => respond_get hmethod⟩

/-- A draw is made, and the leader's stake has no room for the reward. -/
theorem refusal_leaves_no_trace_of_overflow :
    let l := ((Ledger.new default 0 (Source.script [7])).run
      [.validator (.register "A" ⟨18446744073709551615⟩ 0), .submit "pay bob 5"]).2
    (l.perform (.producePending 0)).1 = .error .amountOverflow ∧
      ∃ source, (l.perform (.producePending 0)).2 = { l with source } := by
  intro l
  have hrefused : (l.perform (.producePending 0)).1 = .error .amountOverflow := by decide +kernel
  obtain ⟨hperform, -, -⟩ := refusal_leaves_no_trace l (Source.quiet_script [7])
  exact ⟨hrefused, hperform _ _ hrefused⟩

end Http

end StakeChain

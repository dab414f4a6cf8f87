/-
# What a production request seals

A request for a block either brings payloads or leaves it to the mempool what the block holds.  The
body is optional, so one that cannot be read counts as one that is not there: such a request is not
refused, it is answered as if it had no body (`Http.respond_produce`), and the next block takes
what waits in the mempool.

Main statement: `Http.unreadable_production_declined_iff`.  A request whose body cannot be read is
declined, with nothing sealed and nothing changed, exactly when sealing the mempool fails as well.
That a truncated body seals the mempool is `Http.truncated_production_seals_mempool`.
-/
import StakeChain.Election.Sources
import StakeChain.Http.Service
import StakeChain.Proofs.Ledger.Delivery

namespace StakeChain.Http

variable {σ : Type} [DrawSource σ]

/-- A request for a block. -/
structure Request.IsProduction (request : Request) : Prop where
  method : request.method = "POST"
  path : segments? (splitTarget request.path).1 = some ["blocks"]

/-- The same request without a body. -/
def Request.withoutBody (request : Request) : Request :=
  { request with contentType := none, body := "" }

/-- The answer to a production. -/
def answerProduction (outcome : Except LedgerError Block × Ledger σ) : Response × Ledger σ :=
  (Response.ofResult (fun b => .created b.toJson) outcome.1, outcome.2)

/-- **A request for a block** produces one of the payloads that can be read from its body, and
otherwise one of what waits in the mempool. -/
theorem respond_produce {l : Ledger σ} {request : Request} (h : request.IsProduction) :
    respond l request =
      answerProduction (match (request.payload? Payload.production?).join with
        | some payloads => l.produce (payloads.map .ofPayload) l.clock
        | none => l.producePending l.clock) := by
  have hroute : Route.of? request.method ["blocks"] = some .produce := by
    rw [h.method]
    rfl
  rw [respond_eq_ask h.path hroute]
  rfl

/-- The client is to blame, and nothing is sealed or changed. -/
structure Declined (l : Ledger σ) (outcome : Response × Ledger σ) : Prop where
  clientError : 400 ≤ outcome.1.status ∧ outcome.1.status < 500
  chain : outcome.2.chain = l.chain
  registry : outcome.2.registry = l.registry
  mempool : outcome.2.mempool = l.mempool

/-- Sealing the mempool is declined exactly when it fails and no block of others came in. -/
theorem declined_producePending_iff (l : Ledger σ) :
    Declined l (answerProduction (l.producePending l.clock)) ↔
      ∃ e, (l.producePending l.clock).1 = .error e ∧
        (l.producePending l.clock).2.chain = l.chain := by
  rcases l.producePending_cases l.clock with
    ⟨e, l', hproduce, hregistry, hmempool⟩ | ⟨b, l', hproduce, -⟩
  · rw [hproduce]
    constructor
    · intro h
      exact ⟨e, rfl, h.chain⟩
    · rintro ⟨_, -, hchain⟩
      exact ⟨Response.status_refused e, hchain, hregistry, hmempool⟩
  · rw [hproduce]
    constructor
    · intro h
      exact absurd h.clientError (by simp [answerProduction, Response.ofResult, Response.created])
    · rintro ⟨e, he, -⟩
      cases he

/-- **A request for a block whose body cannot be read is answered as one without a body.**  So it
is declined exactly when sealing the mempool fails and the source brings no block of others;
when that succeeds, it is answered with a block of all that waited, which stands on the chain,
and the mempool is empty.  A readable body without payloads asks for the same, and only a body from
which payloads are read leaves the mempool out of it. -/
theorem unreadable_production_declined_iff (l : Ledger σ) (request : Request)
    (h : request.IsProduction) :
    (request.payload? Payload.production? = none →
        respond l request = respond l request.withoutBody ∧
        (Declined l (respond l request) ↔
          ∃ e, (l.producePending l.clock).1 = .error e ∧
            (l.producePending l.clock).2.chain = l.chain) ∧
        ∀ b, (l.producePending l.clock).1 = .ok b →
          (respond l request).1 = .created b.toJson ∧ b.transactions = l.mempool.pending ∧
            (respond l request).2.mempool = .empty ∧
            ∃ foreign, (respond l request).2.chain.blocks = l.chain.blocks ++ foreign ++ [b]) ∧
      (request.payload? Payload.production? = some none →
        respond l request = respond l request.withoutBody) ∧
      ∀ payloads, request.payload? Payload.production? = some (some payloads) →
        respond l request = answerProduction (l.produce (payloads.map .ofPayload) l.clock) ∧
          (respond l request).2.mempool = l.mempool := by
  have hrespond := respond_produce (l := l) h
  have hwithout : respond l request.withoutBody = answerProduction (l.producePending l.clock) :=
    respond_produce ⟨h.method, h.path⟩
  refine ⟨fun hbody => ?_, fun hbody => ?_, fun payloads hbody => ?_⟩
  · rw [hbody] at hrespond
    refine ⟨hrespond.trans hwithout.symm, ?_, fun b hb => ?_⟩
    · rw [hrespond]
      exact declined_producePending_iff l
    · rw [hrespond]
      simp only [Option.join_none]
      rcases l.producePending_cases l.clock with
        ⟨e, l', hproduce, -⟩ | ⟨b', l', hproduce, htransactions, hmempool, hblocks⟩
      · rw [hproduce] at hb
        cases hb
      · rw [hproduce] at hb ⊢
        cases hb
        exact ⟨rfl, htransactions, hmempool, hblocks⟩
  · rw [hbody] at hrespond
    exact hrespond.trans hwithout.symm
  · rw [hbody] at hrespond
    rw [hrespond]
    exact ⟨rfl, rfl⟩

/-- A truncated body, sent to a ledger without validators. -/
theorem unreadable_production_declined_without_validators :
    let l := Ledger.new default 0 (Source.script [0])
    let request : Request :=
      ⟨"POST", "/blocks/", some "application/json", "\x7b\"transactions\":[\"pay carol 7\""⟩
    request.payload? Payload.production? = none ∧ Declined l (respond l request) := by
  intro l request
  have hbody : request.payload? Payload.production? = none := by decide +kernel
  have hproduction : request.IsProduction := ⟨rfl, by decide +kernel⟩
  obtain ⟨hunreadable, -⟩ := unreadable_production_declined_iff l request hproduction
  have hfails : (l.producePending l.clock).1 = .error .noLiveValidator := rfl
  exact ⟨hbody, (hunreadable hbody).2.1.mpr ⟨_, hfails, rfl⟩⟩

/-- **A truncated body seals the mempool.**  The same request, sent to a ledger with a validator and
a transaction that waits, is answered with a block. -/
theorem truncated_production_seals_mempool :
    let l := ((Ledger.new default 0 (Source.script [0])).run
      [.validator (.register "A" ⟨100000000000⟩ 0), .submit "pay bob 5"]).2
    let request : Request :=
      ⟨"POST", "/blocks/", some "application/json", "\x7b\"transactions\":[\"pay carol 7\""⟩
    request.IsProduction ∧ request.body ≠ "" ∧ request.payload? Payload.production? = none ∧
      ¬ Declined l (respond l request) := by
  intro l request
  have hbody : request.payload? Payload.production? = none := by decide +kernel
  have hproduction : request.IsProduction := ⟨rfl, by decide +kernel⟩
  have hcreated : (respond l request).1.status = 201 := by decide +kernel
  refine ⟨hproduction, by decide, hbody, fun h => ?_⟩
  have := h.clientError
  omega

end StakeChain.Http

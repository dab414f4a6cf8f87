/-
# The service

One request to the ledger, and the answer with the ledger after it.  The clock of the ledger
gives the time.  A request is routed, its names and its body are read, and only then is the
ledger asked; so a request that cannot be read never reaches it.

Producing a block is the exception: its body is optional, and one that cannot be read counts as
absent, which seals what waits in the mempool.
-/
import StakeChain.Http.MediaType
import StakeChain.Http.Payload
import StakeChain.Http.Request
import StakeChain.Http.Route
import StakeChain.Http.View
import StakeChain.Json.Reader
import StakeChain.Ledger.Operation

namespace StakeChain.Http

/-- The text of the health page. -/
def healthText : String := "API is up and running 🦀"

/-- The JSON value of the body, under a content type that says JSON. -/
def Request.json? (r : Request) : Option Json :=
  if r.contentType.any MediaType.isJson then Json.read r.body else none

/-- What the body asks for, when it can be read. -/
def Request.payload? {α : Type} (r : Request) (read? : Json → Option α) : Option α := do
  read? (← r.json?)

section

variable {σ : Type} [DrawSource σ]

/-- A change of the registry, shown in the ledger after it; a refused one leaves the ledger as it
was. -/
def changeRegistry {α : Type} (l : Ledger σ) (accept : Ledger σ → α → Response) :
    Except LedgerError (α × Registry) → Response × Ledger σ
  | .ok (a, registry) => (accept { l with registry } a, { l with registry })
  | .error e => (.refused e, l)

/-- A change of the staking pool, shown in the ledger after it; a refused one leaves the ledger as
it was. -/
def changeStakes {α : Type} (l : Ledger σ) (accept : Ledger σ → α → Response) :
    Except LedgerError (α × StakePool) → Response × Ledger σ
  | .ok (a, stakes) => (accept { l with stakes } a, { l with stakes })
  | .error e => (.refused e, l)

/-- Answer a question, given the request that asked it. -/
def ask (l : Ledger σ) (request : Request) : Route → Response × Ledger σ
  | .health => (⟨200, .text healthText⟩, l)
  | .stats => (.ok l.showStats, l)
  | .chain =>
    (.ok (.record [
      ("length", .nat l.chain.length),
      ("chain", .list Block.toJson l.chain.blocks)]), l)
  | .block index =>
    match Text.uint64? index.toList with
    | none => (.notFound, l)
    | some i => (Response.ofResult (fun b => .ok b.toJson) (l.chain.block i), l)
  | .validate =>
    let faults := l.chain.faults
    (.ok (.record [
      ("valid", .bool faults.isEmpty),
      ("length", .nat l.chain.length),
      ("faults", .list Fault.toJson faults)]), l)
  | .produce =>
    let (result, l) := match (request.payload? Payload.production?).join with
      | some payloads => l.produce (payloads.map .ofPayload) l.clock
      | none => l.producePending l.clock
    (Response.ofResult (fun b => .created b.toJson) result, l)
  | .checkBlock =>
    match request.payload? Block.ofJson? with
    | none => (.badRequest, l)
    | some b =>
      (Response.ofResult (fun _ => .ok (.record [
        ("index", .nat b.index.toNat),
        ("hash", .text b.hash),
        ("valid", .bool true)])) (l.registry.checkBlock b l.clock), l)
  | .submit =>
    match request.payload? Payload.submission? with
    | none => (.badRequest, l)
    | some payload =>
      let (tx, mempool) := l.mempool.submit payload
      (.created (.record [
        ("txid", .text tx.txid),
        ("pending", .nat mempool.pending.length)]), { l with mempool })
  | .pending =>
    (.ok (.record [
      ("size", .nat l.mempool.pending.length),
      ("transactions", .list Transaction.toJson l.mempool.pending)]), l)
  | .validators =>
    let validators := l.registry.list
    (.ok (.record [
      ("count", .nat validators.length),
      ("validators", .list l.showValidator validators)]), l)
  | .register =>
    match request.payload? Payload.registration? with
    | none => (.badRequest, l)
    | some (identifier, stake) =>
      changeRegistry l (fun l v => .created (l.showValidator v))
        (l.registry.register (Text.trimmed identifier) stake l.clock)
  | .quorum =>
    match number? "min" (splitTarget request.path).2 with
    | none => (.badRequest, l)
    | some minimum =>
      (.ok (l.registry.quorum l.clock ((minimum.map UInt64.toNat).getD 1)).toJson, l)
  | .validator identifier =>
    (Response.ofResult (fun v => .ok (l.showValidator v)) (l.registry.find identifier), l)
  | .heartbeat identifier =>
    changeRegistry l (fun l v => .ok (l.showValidator v)) (l.registry.heartbeat identifier l.clock)
  | .setActive identifier =>
    match request.payload? Payload.activation? with
    | none => (.badRequest, l)
    | some active =>
      changeRegistry l (fun l v => .ok (l.showValidator v)) (l.registry.setActive identifier active)
  | .remove identifier =>
    changeRegistry l (fun _ v => .ok v.toJson) (l.registry.remove identifier)
  | .stakes =>
    (.ok (.record [
      ("pool", (l.stakes.summary l.clock).toJson),
      ("stakes", .list Stake.toJson l.stakes.list)]), l)
  | .openStake =>
    match request.payload? Payload.opening? with
    | none => (.badRequest, l)
    | some (owner, amount) =>
      changeStakes l (fun l s => .created (l.showStake s))
        (l.stakes.openStake (Text.trimmed owner) amount l.clock)
  | .stake owner =>
    (Response.ofResult (fun s => .ok (l.showStake s)) (l.stakes.find owner), l)
  | .claim owner =>
    changeStakes l
      (fun _ claimed => .ok (.record [("owner", .text owner), ("claimed", claimed.toJson)]))
      (l.stakes.claim owner l.clock)
  | .increase owner =>
    match request.payload? Payload.increase? with
    | none => (.badRequest, l)
    | some delta =>
      changeStakes l (fun l s => .ok (l.showStake s)) (l.stakes.increase owner delta l.clock)
  | .closeStake owner =>
    changeStakes l (fun _ w => .ok w.toJson) (l.stakes.close owner l.clock)

/-- Answer a request. -/
def respond (l : Ledger σ) (request : Request) : Response × Ledger σ :=
  match segments? (splitTarget request.path).1 with
  | none => (.notFound, l)
  | some segments =>
    match Route.of? request.method segments with
    | none => (.notFound, l)
    | some route => ask l request route

/-- A request whose route is known asks what the route asks. -/
theorem respond_eq_ask {l : Ledger σ} {request : Request} {segments : List String} {route : Route}
    (hpath : segments? (splitTarget request.path).1 = some segments)
    (hroute : Route.of? request.method segments = some route) :
    respond l request = ask l request route := by
  simp only [respond, hpath, hroute]

end

end StakeChain.Http

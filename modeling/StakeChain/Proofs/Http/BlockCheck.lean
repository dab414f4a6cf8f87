/-
# Checking a block and appending it

A block from elsewhere can be checked without being appended.  The check looks at the carried hash
and asks whether the producer is live (`Registry.checkBlock_eq_ok_iff`); the chain looks at the
hash as well, but otherwise at the index, the link and the transactions.  Of what the chain asks,
index and link depend on where its head is, and the transactions do not.  They are part of what is
hashed, so a block may carry the hash that its content calls for and a forged transaction at once.

Main statement: `Http.checked_block_appended_iff`.  A block that passes the check and extends the
head is appended exactly when none of its transactions is forged.  That the check lets a forged one
pass is `Http.checked_block_refused`.
-/
import StakeChain.Election.Sources
import StakeChain.Http.Service

namespace StakeChain

/-! ## 1. The two checks -/

/-- **The check asks for a sealed block of a live producer**, and for nothing else. -/
theorem Registry.checkBlock_eq_ok_iff {r : Registry} {b : Block} {now : Time} :
    r.checkBlock b now = .ok () ↔ b.hash = b.digest ∧ r.isLive b.producer now = true := by
  by_cases hhash : b.hash = b.digest
  · rw [checkBlock, if_neg (not_not_intro hhash), bind_eq_ok_iff]
    constructor
    · rintro ⟨v, -, hlive⟩
      split at hlive
      · exact ⟨hhash, ‹_›⟩
      · cases hlive
    · rintro ⟨-, hlive⟩
      -- a live producer is registered
      cases hv : r.validators.get? b.producer with
      | none => simp [isLive, hv] at hlive
      | some v => exact ⟨v, find_eq_ok_iff.mpr hv, if_pos hlive⟩
  · simp [checkBlock, hhash]

namespace Ledger

variable {σ : Type} [DrawSource σ]

/-- What the chain asks of a block that extends its head and is sealed. -/
theorem perform_append_of_sealed {l : Ledger σ} {b : Block}
    (hindex : b.index = l.chain.head.index + 1) (hprevious : b.previousHash = l.chain.head.hash)
    (hhash : b.hash = b.digest) :
    l.perform (.append b) =
      match b.forged? with
      | some tx => (.error (.forgedTransaction b.index tx.txid), l)
      | none => (.ok .done, { l with chain := l.chain.push b }) := by
  cases hforged : b.forged? <;>
    simp [perform, Chain.append, hindex, hprevious, hhash, hforged]

end Ledger

/-! ## 2. Over HTTP -/

namespace Http

variable {σ : Type} [DrawSource σ]

/-- The answer that a block is valid. -/
def validAnswer (b : Block) : Response :=
  .ok (.record [
    ("index", .nat b.index.toNat),
    ("hash", .text b.hash),
    ("valid", .bool true)])

/-- A request to check a block is answered that it is valid exactly when the check passes, and
changes nothing either way. -/
theorem respond_checkBlock_eq_iff {l : Ledger σ} {request : Request} {b : Block}
    (hmethod : request.method = "POST")
    (hpath : segments? (splitTarget request.path).1 = some ["blocks", "validate"])
    (hbody : request.payload? Block.ofJson? = some b) :
    respond l request = (validAnswer b, l) ↔ l.registry.checkBlock b l.clock = .ok () := by
  have hroute : Route.of? request.method ["blocks", "validate"] = some .checkBlock := by
    rw [hmethod]
    rfl
  rw [respond_eq_ask hpath hroute]
  simp only [ask, hbody]
  cases hcheck : l.registry.checkBlock b l.clock with
  | ok => exact iff_of_true rfl rfl
  | error e =>
    refine iff_of_false (fun hsame => ?_) (by simp)
    have hstatus : (Response.refused e).status = 200 :=
      congrArg (fun outcome => outcome.1.status) hsame
    have := (Response.status_refused e).1
    omega

/-- **A block that passes the check and extends the head is appended exactly when none of its
transactions is forged.**  Otherwise the chain refuses it for a transaction that is, and nothing
changes.  The check is the one that a request to check the block is answered by. -/
theorem checked_block_appended_iff (l : Ledger σ) (b : Block) (now : Time)
    (hcheck : l.registry.checkBlock b now = .ok ())
    (hindex : b.index = l.chain.head.index + 1) (hprevious : b.previousHash = l.chain.head.hash) :
    ((l.perform (.append b)).1 = .ok .done ↔ ∀ tx ∈ b.transactions, tx.isConsistent = true) ∧
      ((l.perform (.append b)).1 ≠ .ok .done → ∃ tx ∈ b.transactions, tx.isConsistent = false ∧
        l.perform (.append b) = (.error (.forgedTransaction b.index tx.txid), l)) ∧
      ∀ request : Request, request.method = "POST" →
        segments? (splitTarget request.path).1 = some ["blocks", "validate"] →
        request.payload? Block.ofJson? = some b →
        (respond l request = (validAnswer b, l) ↔ l.registry.checkBlock b l.clock = .ok ()) := by
  have hhash := (Registry.checkBlock_eq_ok_iff.mp hcheck).1
  have happend := Ledger.perform_append_of_sealed hindex hprevious hhash
  rw [happend, ← Block.forged?_eq_none_iff]
  refine ⟨?_, ?_, fun _ => respond_checkBlock_eq_iff⟩
  · cases b.forged? <;> simp
  · cases hforged : b.forged? with
    | none => exact fun hne => absurd rfl hne
    | some tx =>
      intro _
      exact ⟨tx, List.mem_of_find?_eq_some hforged, by simpa using List.find?_some hforged, rfl⟩

/-- A block on top of the first one, by the only validator. -/
theorem checked_block_appended_with_payment :
    let l := ((Ledger.new default 0 (Source.script [0])).run
      [.validator (.register "A" ⟨100000000000⟩ 0)]).2
    let b := l.chain.head.next 10 [.ofPayload "pay bob 5"] "A"
    l.registry.checkBlock b 10 = .ok () ∧ (l.perform (.append b)).1 = .ok .done := by
  intro l b
  have hlive : l.registry.isLive b.producer 10 = true := by decide +kernel
  have hcheck : l.registry.checkBlock b 10 = .ok () :=
    Registry.checkBlock_eq_ok_iff.mpr ⟨Block.hash_sealed .., hlive⟩
  have hconsistent : ∀ tx ∈ b.transactions, tx.isConsistent = true := by
    intro tx htx
    rw [List.mem_singleton.mp htx]
    exact Transaction.isConsistent_ofPayload _
  exact ⟨hcheck, (checked_block_appended_iff l b 10 hcheck rfl rfl).1.mpr hconsistent⟩

/-- **The check is not as strict as the chain.**  The block is sealed, extends the head and names a
live producer, and the identifier of its transaction is made up. -/
theorem checked_block_refused :
    let l := ((Ledger.new default 0 (Source.script [0])).run
      [.validator (.register "A" ⟨100000000000⟩ 0)]).2
    let b := l.chain.head.next 0 [⟨"deadbeef", "pay bob 5"⟩] "A"
    ¬ (l.registry.checkBlock b 0 = .ok () → b.index = l.chain.head.index + 1 →
      b.previousHash = l.chain.head.hash → (l.perform (.append b)).1 = .ok .done) := by
  intro l b happended
  have hlive : l.registry.isLive b.producer 0 = true := by decide +kernel
  have hforged : b.forged? = some ⟨"deadbeef", "pay bob 5"⟩ := by decide +kernel
  have hhash : b.hash = b.digest := Block.hash_sealed ..
  have hindex : b.index = l.chain.head.index + 1 := rfl
  have hprevious : b.previousHash = l.chain.head.hash := rfl
  have hdone := happended (Registry.checkBlock_eq_ok_iff.mpr ⟨hhash, hlive⟩) hindex hprevious
  rw [Ledger.perform_append_of_sealed hindex hprevious hhash, hforged] at hdone
  cases hdone

end Http

end StakeChain

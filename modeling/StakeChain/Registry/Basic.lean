/-
# The registry of validators

Validators by identifier.  Whoever registers brings at least the minimum stake and an identifier
that is not blank; after that a validator sends heartbeats, is switched on and off, earns
rewards and may be removed.  A refused operation gives a cause and no new registry.

Each validator stands under its own identifier (`Registry.keyed`): the only way into the table is
`Registry.put`, which takes the key from the validator.
-/
import StakeChain.Block.Basic
import StakeChain.Config
import StakeChain.Error
import StakeChain.Registry.Validator
import StakeChain.Table
import StakeChain.Text.Blank

namespace StakeChain

/-- The validators and the terms they are kept under. -/
structure Registry where
  terms : RegistryTerms
  validators : Table Validator
  /-- Each validator stands under its own identifier. -/
  keyed : ∀ {key : String} {v : Validator}, validators.get? key = some v → v.identifier = key

namespace Registry

/-- A registry without validators. -/
def new (terms : RegistryTerms) : Registry := ⟨terms, .empty, by simp⟩

/-! ## Questions -/

/-- The validator with this identifier. -/
def find (r : Registry) (identifier : String) : Except LedgerError Validator :=
  match r.validators.get? identifier with
  | some v => .ok v
  | none => .error (.unknownValidator identifier)

/-- All validators in the order of their identifiers. -/
def list (r : Registry) : List Validator := r.validators.values

/-- The number of validators. -/
def size (r : Registry) : Nat := r.validators.size

/-- The live validators in the order of their identifiers. -/
def live (r : Registry) (now : Time) : List Validator :=
  r.list.filter fun v => v.isLive now r.terms.activityWindow

/-- There is a validator with this identifier and it is live. -/
def isLive (r : Registry) (identifier : String) (now : Time) : Bool :=
  match r.validators.get? identifier with
  | some v => v.isLive now r.terms.activityWindow
  | none => false

theorem find_eq_ok_iff {r : Registry} {identifier : String} {v : Validator} :
    r.find identifier = .ok v ↔ r.validators.get? identifier = some v := by
  unfold find
  cases r.validators.get? identifier <;> simp

/-- The listing holds each validator as it stands under its own identifier. -/
theorem mem_list_iff {r : Registry} {v : Validator} :
    v ∈ r.list ↔ r.validators.get? v.identifier = some v := by
  rw [list, Table.mem_values_iff]
  exact ⟨fun ⟨_, h⟩ => r.keyed h ▸ h, fun h => ⟨_, h⟩⟩

theorem mem_live_iff {r : Registry} {v : Validator} {now : Time} :
    v ∈ r.live now ↔
      r.validators.get? v.identifier = some v ∧ v.isLive now r.terms.activityWindow = true := by
  rw [live, List.mem_filter, mem_list_iff]

/-- Whether a block from elsewhere may be believed: its hash is the one that its content calls
for, and its producer is registered and live. -/
def checkBlock (r : Registry) (b : Block) (now : Time) : Except LedgerError Unit :=
  if b.hash ≠ b.digest then .error (.wrongBlockHash b.index b.hash b.digest)
  else do
    let _ ← r.find b.producer
    if r.isLive b.producer now then .ok () else .error (.validatorNotLive b.producer)

/-! ## Changes -/

/-- The registry with this validator under its identifier. -/
def put (r : Registry) (v : Validator) : Registry where
  terms := r.terms
  validators := r.validators.insert v.identifier v
  keyed := by
    intro key w h
    rw [Table.get?_insert] at h
    split at h
    · rename_i hkey
      cases h
      exact hkey.symm
    · exact r.keyed h

@[simp] theorem terms_put (r : Registry) (v : Validator) : (r.put v).terms = r.terms := rfl

theorem get?_put (r : Registry) (v : Validator) (key : String) :
    (r.put v).validators.get? key =
      if key = v.identifier then some v else r.validators.get? key :=
  Table.get?_insert _ _ _ _

/-- A new validator, live from now on. -/
def register (r : Registry) (identifier : String) (stake : Amount) (now : Time) :
    Except LedgerError (Validator × Registry) :=
  if Text.allBlank identifier then .error .blankIdentifier
  else if stake < r.terms.minimumStake then
    .error (.validatorStakeTooSmall r.terms.minimumStake stake)
  else if (r.validators.get? identifier).isSome then .error (.validatorExists identifier)
  else
    let v : Validator := ⟨identifier, stake, now, now, true⟩
    .ok (v, r.put v)

/-- Change the validator with this identifier; the change leaves the identifier alone. -/
def update (r : Registry) (identifier : String)
    (change : Validator → Except LedgerError Validator) :
    Except LedgerError (Validator × Registry) := do
  let v ← r.find identifier
  let v ← change v
  .ok (v, r.put v)

/-- A heartbeat. -/
def heartbeat (r : Registry) (identifier : String) (now : Time) :
    Except LedgerError (Validator × Registry) :=
  r.update identifier fun v => .ok (v.heartbeat now)

/-- Set the administrative flag. -/
def setActive (r : Registry) (identifier : String) (active : Bool) :
    Except LedgerError (Validator × Registry) :=
  r.update identifier fun v => .ok { v with isActive := active }

/-- Add to the stake.  Rewards land here, so that winners weigh more in later elections. -/
def credit (r : Registry) (identifier : String) (amount : Amount) :
    Except LedgerError (Validator × Registry) :=
  r.update identifier fun v => do
    let stake ← v.stake.add amount
    .ok { v with stake }

/-- **A credit raises one stake by the amount and changes nothing else**; it needs the validator
to be registered and the sum to fit. -/
theorem credit_eq_ok_iff {r r' : Registry} {identifier : String} {amount : Amount}
    {w : Validator} :
    r.credit identifier amount = .ok (w, r') ↔
      ∃ v stake, r.validators.get? identifier = some v ∧
        stake.toNat = v.stake.toNat + amount.toNat ∧ w = { v with stake } ∧ r' = r.put w := by
  simp only [credit, update, bind_eq_ok_iff, find_eq_ok_iff, Amount.add_eq_ok_iff,
    Except.ok.injEq, Prod.mk.injEq]
  constructor
  · rintro ⟨v, hv, w', ⟨stake, hstake, rfl⟩, rfl, rfl⟩
    exact ⟨v, stake, hv, hstake, rfl, rfl⟩
  · rintro ⟨v, stake, hv, hstake, rfl, rfl⟩
    exact ⟨v, hv, _, ⟨stake, hstake, rfl⟩, rfl, rfl⟩

/-- The registry without the validator with this identifier. -/
def drop (r : Registry) (identifier : String) : Registry where
  terms := r.terms
  validators := r.validators.erase identifier
  keyed := by
    intro key w h
    rw [Table.get?_erase] at h
    split at h
    · cases h
    · exact r.keyed h

/-- Remove a validator, with its final stake. -/
def remove (r : Registry) (identifier : String) : Except LedgerError (Validator × Registry) := do
  let v ← r.find identifier
  .ok (v, r.drop identifier)

end Registry

end StakeChain

/-
# Principal is conserved

What goes into the pool as principal comes out of it as principal or is still locked in it: the
amounts of openings and the deltas of increases on the one side, the principals of closings and the
amounts of active stakes on the other.  A closed record keeps its amount until its owner opens
another stake, but it locks nothing, so replacing it loses nothing.

An operation that changes the pool changes one record, and that record balances
(`StakePool.Performed.balance`).  From this follow the law for each owner and the law for the pool,
side by side in `StakePool.Conserved`.

Main statement: `Ledger.principal_conserved`.
-/
import StakeChain.Election.Sources
import StakeChain.Proofs.Staking.Operations

namespace StakeChain

/-! ## 1. What is locked -/

/-- What a record locks: its amount while it is active, and nothing once it is closed. -/
def Stake.locked (s : Stake) : Amount := if s.isActive then s.amount else .zero

theorem Stake.locked_of_active {s : Stake} (h : s.isActive = true) : s.locked = s.amount := if_pos h

theorem Stake.locked_of_closed {s : Stake} (h : s.isActive = false) : s.locked = .zero := by
  rw [locked, h]
  rfl

namespace Table

variable {α : Type} (f : α → Amount)

theorem total_insertEntry (key : String) (value : α) {l : List (String × α)}
    (h : l.Pairwise (fun a b => a.1 < b.1)) :
    Amount.total ((insertEntry key value l).map fun e => f e.2) +
        ((l.find? fun e => e.1 = key).map (·.2)).elim 0 (fun a => (f a).toNat) =
      Amount.total (l.map fun e => f e.2) + (f value).toNat := by
  induction l with
  | nil => exact (Nat.zero_add _).symm
  | cons d rest ih =>
    obtain ⟨hd, hrest⟩ := List.pairwise_cons.mp h
    unfold insertEntry
    split
    · rename_i hlt
      -- a key before the first entry is before all of them, so nothing is replaced
      have hnone : ((d :: rest).find? fun e => e.1 = key) = none := find?_eq_none_of_lt (by
        intro e he
        rcases List.mem_cons.mp he with rfl | he
        · exact hlt
        · exact String.lt_trans hlt (hd e he))
      rw [hnone, List.map_cons]
      simp only [Amount.total, Option.map_none, Option.elim_none]
      omega
    · split
      · rename_i heq
        simp only [List.map_cons, Amount.total, List.find?_cons, heq, decide_true,
          Option.map_some, Option.elim_some]
        omega
      · rename_i hne
        have := ih hrest
        simp only [List.map_cons, Amount.total, List.find?_cons, Ne.symm hne, decide_false]
        omega

/-- **Binding a key changes a total over the values** by the new value less the one it replaces. -/
theorem total_values_insert (t : Table α) (key : String) (value : α) :
    Amount.total ((t.insert key value).values.map f) +
        (t.get? key).elim 0 (fun a => (f a).toNat) =
      Amount.total (t.values.map f) + (f value).toNat := by
  have h := total_insertEntry f key value t.sorted
  simpa [values, insert, get?, Function.comp_def] using h

end Table

namespace StakePool

/-- What one owner has locked. -/
def lockedBy (p : StakePool) (owner : String) : Nat :=
  (p.stakes.get? owner).elim 0 fun s => s.locked.toNat

/-- What all owners together have locked: the exact total of the amounts of the active stakes. -/
def locked (p : StakePool) : Nat := Amount.total (p.list.map Stake.locked)

theorem lockedBy_put (p : StakePool) (owner key : String) (s : Stake) :
    (p.put owner s).lockedBy key = if key = owner then s.locked.toNat else p.lockedBy key := by
  unfold lockedBy
  rw [get?_put]
  split <;> rfl

/-- One record makes way for another, in the total as well. -/
theorem locked_put (p : StakePool) (owner : String) (s : Stake) :
    (p.put owner s).locked + p.lockedBy owner = p.locked + s.locked.toNat :=
  Table.total_values_insert Stake.locked p.stakes owner s

theorem lockedBy_of_active {p : StakePool} {owner : String} {s : Stake}
    (h : p.active owner = .ok s) : p.lockedBy owner = s.amount.toNat := by
  obtain ⟨hget, hactive⟩ := active_eq_ok_iff.mp h
  rw [lockedBy, hget]
  exact congrArg Amount.toNat (Stake.locked_of_active hactive)

/-- Where no active stake stands in the way of an opening, nothing is locked. -/
theorem lockedBy_of_none_active {p : StakePool} {owner : String}
    (h : ∀ s, p.stakes.get? owner = some s → s.isActive = false) : p.lockedBy owner = 0 := by
  unfold lockedBy
  cases hget : p.stakes.get? owner with
  | none => rfl
  | some s => exact congrArg Amount.toNat (Stake.locked_of_closed (h s hget))

end StakePool

/-! ## 2. What a transcript says -/

namespace Transcript

/-- The principal that an operation put in, by its answer. -/
def deposit : Operation × Except LedgerError Answer → Amount
  | (.stake (.openStake _ amount _), .ok _) => amount
  | (.stake (.increase _ delta _), .ok _) => delta
  | _ => .zero

/-- The principal that an operation took out, by its answer. -/
def release : Operation × Except LedgerError Answer → Amount
  | (.stake (.close _ _), .ok (.withdrawal released)) => released.principal
  | _ => .zero

/-- All that was put in, exactly. -/
def deposited (t : Transcript) : Nat := Amount.total (t.map deposit)

/-- All that was taken out, exactly. -/
def released (t : Transcript) : Nat := Amount.total (t.map release)

/-- The operations on the stakes of one owner. -/
def ofOwner (t : Transcript) (owner : String) : Transcript :=
  t.filter fun
    | (.stake op, _) => op.owner = owner
    | _ => false

theorem deposited_append (t u : Transcript) :
    (t ++ u : Transcript).deposited = t.deposited + u.deposited := by
  rw [deposited, List.map_append, Amount.total_append, deposited, deposited]

theorem released_append (t u : Transcript) :
    (t ++ u : Transcript).released = t.released + u.released := by
  rw [released, List.map_append, Amount.total_append, released, released]

theorem ofOwner_append (t u : Transcript) (owner : String) :
    (t ++ u : Transcript).ofOwner owner = t.ofOwner owner ++ u.ofOwner owner :=
  List.filter_append ..

theorem deposited_singleton (x : Operation × Except LedgerError Answer) :
    deposited [x] = (deposit x).toNat := rfl

theorem released_singleton (x : Operation × Except LedgerError Answer) :
    released [x] = (release x).toNat := rfl

theorem ofOwner_singleton (op : StakeOperation) (answer : Except LedgerError Answer)
    (owner : String) :
    ofOwner [(.stake op, answer)] owner =
      if op.owner = owner then [(.stake op, answer)] else [] := by
  simp [ofOwner, List.filter_cons]

end Transcript

/-! ## 3. One operation -/

namespace StakePool

variable {p p' p'' : StakePool}

/-- **An operation changes nothing and moves no principal, or it changes one record, and that
balances**: what was locked there and what was put in is what was taken out and what is locked. -/
theorem Performed.balance {op : StakeOperation} {answer : Except LedgerError Answer}
    (h : p.Performed op answer p') :
    (p' = p ∧ Transcript.deposit (.stake op, answer) = .zero ∧
        Transcript.release (.stake op, answer) = .zero) ∨
      ∃ s, p' = p.put op.owner s ∧
        p.lockedBy op.owner + (Transcript.deposit (.stake op, answer)).toNat =
          (Transcript.release (.stake op, answer)).toNat + s.locked.toNat := by
  cases h with
  | refused => cases op <;> exact Or.inl ⟨rfl, rfl, rfl⟩
  | accrued _ => exact Or.inl ⟨rfl, rfl, rfl⟩
  | found _ => exact Or.inl ⟨rfl, rfl, rfl⟩
  | @opened owner amount now s _ ho =>
    obtain ⟨⟨-, -, -, hnone⟩, rfl, hput⟩ := openStake_eq_ok_iff.mp ho
    refine Or.inr ⟨_, hput, ?_⟩
    show p.lockedBy owner + amount.toNat = 0 + (p.opening owner amount now).locked.toNat
    rw [lockedBy_of_none_active hnone, Stake.locked_of_active rfl]
    rfl
  | @claimed owner now reward _ hc =>
    obtain ⟨s, claimed, hs, -, -, hput⟩ := claim_eq_ok_iff.mp hc
    have hactive := (active_eq_ok_iff.mp hs).2
    refine Or.inr ⟨_, hput, ?_⟩
    show p.lockedBy owner + 0 = 0 + _
    simp only [lockedBy_of_active hs, Stake.locked, hactive, if_true, Nat.add_comm]
  | @increased owner delta now s _ hi =>
    obtain ⟨-, t, amount, ht, hamount, rfl, hput⟩ := increase_eq_ok_iff.mp hi
    have hactive := (active_eq_ok_iff.mp ht).2
    refine Or.inr ⟨_, hput, ?_⟩
    show p.lockedBy owner + delta.toNat = 0 + _
    simp only [lockedBy_of_active ht, Stake.locked, hactive, if_true, Nat.zero_add]
    exact hamount.symm
  | @closed owner now released _ hc =>
    obtain ⟨s, claimed, hs, -, rfl, -, hput⟩ := close_eq_ok_iff.mp hc
    refine Or.inr ⟨_, hput, ?_⟩
    show p.lockedBy owner + 0 = s.amount.toNat + _
    rw [lockedBy_of_active hs, Stake.locked_of_closed rfl, Amount.toNat_zero]

/-- **The invariant**: between `p` and `p'` lies the transcript `t`, and principal is conserved, for
each owner and for all together. -/
structure Conserved (p : StakePool) (t : Transcript) (p' : StakePool) : Prop where
  eachOwner : ∀ owner, p.lockedBy owner + (t.ofOwner owner).deposited =
    (t.ofOwner owner).released + p'.lockedBy owner
  together : p.locked + t.deposited = t.released + p'.locked

namespace Conserved

/-- Whatever is not about stakes moves no principal. -/
theorem idle {t : Transcript} (howner : ∀ owner, t.ofOwner owner = [])
    (hdeposited : t.deposited = 0) (hreleased : t.released = 0) : Conserved p t p where
  eachOwner owner := by
    rw [howner]
    exact (Nat.zero_add _).symm
  together := by rw [hdeposited, hreleased, Nat.zero_add, Nat.add_zero]

theorem trans {t u : Transcript} (h : Conserved p t p') (h' : Conserved p' u p'') :
    Conserved p (t ++ u) p'' where
  eachOwner owner := by
    have hfirst := h.eachOwner owner
    have hthen := h'.eachOwner owner
    rw [Transcript.ofOwner_append, Transcript.deposited_append, Transcript.released_append]
    omega
  together := by
    have hfirst := h.together
    have hthen := h'.together
    rw [Transcript.deposited_append, Transcript.released_append]
    omega

theorem performed {op : StakeOperation} {answer : Except LedgerError Answer}
    (h : p.Performed op answer p') : Conserved p [(.stake op, answer)] p' where
  eachOwner owner := by
    rw [Transcript.ofOwner_singleton]
    split
    · rename_i howner
      subst howner
      rw [Transcript.deposited_singleton, Transcript.released_singleton]
      rcases h.balance with ⟨rfl, hdeposit, hrelease⟩ | ⟨s, rfl, hbalance⟩
      · rw [hdeposit, hrelease, Amount.toNat_zero, Nat.zero_add, Nat.add_zero]
      · rw [lockedBy_put, if_pos rfl]
        exact hbalance
    · rename_i howner
      have hsame : p'.lockedBy owner = p.lockedBy owner := by
        rw [lockedBy, h.get?_of_ne howner, ← lockedBy]
      rw [hsame]
      exact (Nat.zero_add _).symm
  together := by
    rw [Transcript.deposited_singleton, Transcript.released_singleton]
    rcases h.balance with ⟨rfl, hdeposit, hrelease⟩ | ⟨s, rfl, hbalance⟩
    · rw [hdeposit, hrelease, Amount.toNat_zero, Nat.zero_add, Nat.add_zero]
    · have hput := p.locked_put op.owner s
      omega

end Conserved

/-! ## 4. The reported total -/

/-- What closed records keep is not locked, so only the active ones count. -/
theorem total_locked : ∀ records : List Stake,
    Amount.total (records.map Stake.locked) =
      Amount.total ((records.filter (·.isActive)).map (·.amount))
  | [] => rfl
  | s :: rest => by
    rw [List.map_cons, Amount.total, total_locked rest]
    cases hactive : s.isActive with
    | true =>
      rw [Stake.locked_of_active hactive, List.filter_cons_of_pos hactive, List.map_cons,
        Amount.total]
    | false =>
      rw [Stake.locked_of_closed hactive, List.filter_cons_of_neg (by simp [hactive]),
        Amount.toNat_zero, Nat.zero_add]

/-- **The reported total is what is locked**, or the largest amount. -/
theorem toNat_totalStaked_summary (p : StakePool) (now : Time) :
    (p.summary now).totalStaked.toNat = min p.locked (UInt64.size - 1) := by
  rw [summary, PoolSummary.foldl_add, PoolSummary.blank, Amount.foldl_addClamped_zero,
    Amount.toNat_clamp, locked, total_locked]

end StakePool

/-! ## 5. Histories -/

namespace Ledger

variable {σ : Type} [DrawSource σ]

theorem perform_conserved (l : Ledger σ) (op : Operation) :
    l.stakes.Conserved [(op, (l.perform op).1)] (l.perform op).2.stakes := by
  rw [stakes_perform]
  cases op with
  | stake op => exact .performed (l.stakes.perform_performed op)
  | _ => exact .idle (fun _ => rfl) rfl rfl

theorem run_conserved : ∀ (ops : List Operation) (l : Ledger σ),
    l.stakes.Conserved (l.transcript ops) (l.run ops).2.stakes
  | [], _ => .idle (fun _ => rfl) rfl rfl
  | op :: rest, l => (l.perform_conserved op).trans (run_conserved rest (l.perform op).2)

/-- **Principal is conserved.**  In any history, and however often an owner closes a stake and opens
another, what an owner has put in by openings and increases is what the owner got back by closings
and what the owner has locked; so it is for all owners together.  The total that the pool reports
is what is locked, held within an amount, whatever the time. -/
theorem principal_conserved (config : Config) (clock : Time) (source : σ) (ops : List Operation) :
    let l := Ledger.new config clock source
    let pool := (l.run ops).2.stakes
    let t := l.transcript ops
    (∀ owner, (t.ofOwner owner).deposited = (t.ofOwner owner).released + pool.lockedBy owner) ∧
      t.deposited = t.released + pool.locked ∧
      ∀ now, (pool.summary now).totalStaked.toNat = min pool.locked (UInt64.size - 1) := by
  intro l pool t
  have hconserved : l.stakes.Conserved t pool := run_conserved ops l
  refine ⟨?_, ?_, pool.toNat_totalStaked_summary⟩
  · intro owner
    have hnothing : l.stakes.lockedBy owner = 0 := rfl
    rw [← hconserved.eachOwner owner, hnothing, Nat.zero_add]
  · have hnothing : l.stakes.locked = 0 := rfl
    rw [← hconserved.together, hnothing, Nat.zero_add]

/-- A closing that comes too early releases nothing, and the stake opened after the second closing
is still locked. -/
example :
    let t := (Ledger.new default 0 (Source.script [])).transcript
      [.stake (.openStake "bob" ⟨10000000000⟩ 0), .stake (.increase "bob" ⟨5⟩ 10),
        .stake (.close "bob" 10), .stake (.close "bob" 2592000),
        .stake (.openStake "bob" ⟨20000000000⟩ 2592000)]
    (t.ofOwner "bob").deposited = 30000000005 ∧ (t.ofOwner "bob").released = 10000000005 := by
  decide +kernel

end Ledger

end StakeChain

/-
# What an operation on validators can do

One statement for each change of the registry, as for the pool: it succeeds exactly under these
conditions and leaves that registry (`register_eq_ok_iff`, `update_eq_ok_iff`, `remove_eq_ok_iff`,
and `credit_eq_ok_iff` beside the definition).  `Registry.Performed` lists the ways in which an
operation can end.

Somebody who writes down operations and answers can keep a record of each validator.
`Registry.Tracked` says that what is read off the validator is what is read off the record; a
registration begins one, a removal ends one, and any other change has to go along with a change of
the record (`Tracked.changed`).

`Registry.run` carries out several operations, one after another, on the registry alone.
-/
import StakeChain.Ledger.Operation

namespace StakeChain

/-- The identifier that an operation on validators names. -/
def ValidatorOperation.identifier : ValidatorOperation → String
  | .register identifier _ _ | .heartbeat identifier _ | .setActive identifier _
  | .credit identifier _ | .remove identifier | .find identifier => identifier

namespace Registry

variable {r r' : Registry} {identifier : String} {v : Validator}

/-! ## 1. One change of the registry -/

theorem get?_drop (r : Registry) (identifier key : String) :
    (r.drop identifier).validators.get? key =
      if key = identifier then none else r.validators.get? key :=
  Table.get?_erase _ _ _

/-- **The terms and the look-ups are all there is to a registry.** -/
theorem ext_get? {s : Registry} (hterms : r.terms = s.terms)
    (hget : ∀ key, r.validators.get? key = s.validators.get? key) : r = s := by
  have hvalidators : r.validators = s.validators := Table.ext_get? hget
  cases r
  cases s
  simp_all

theorem register_eq_ok_iff {stake : Amount} {now : Time} :
    r.register identifier stake now = .ok (v, r') ↔
      (Text.allBlank identifier = false ∧ r.terms.minimumStake ≤ stake ∧
        r.validators.get? identifier = none) ∧
      v = ⟨identifier, stake, now, now, true⟩ ∧ r' = r.put v := by
  have hminimum : ¬ stake < r.terms.minimumStake ↔ r.terms.minimumStake ≤ stake := by
    rw [Amount.lt_iff_toNat, Amount.le_iff_toNat, Nat.not_lt]
  have habsent : ¬ (r.validators.get? identifier).isSome = true ↔
      r.validators.get? identifier = none := by
    cases r.validators.get? identifier <;> simp
  rw [← hminimum, ← habsent, ← Bool.not_eq_true]
  constructor
  · intro h
    unfold register at h
    iterate 3
      split at h
      · cases h
    cases h
    exact ⟨⟨‹_›, ‹_›, ‹_›⟩, rfl, rfl⟩
  · rintro ⟨⟨hblank, hm, ha⟩, rfl, rfl⟩
    rw [register, if_neg hblank, if_neg hm, if_neg ha]

theorem update_eq_ok_iff {change : Validator → Except LedgerError Validator} :
    r.update identifier change = .ok (v, r') ↔
      ∃ w, r.validators.get? identifier = some w ∧ change w = .ok v ∧ r' = r.put v := by
  simp only [update, bind_eq_ok_iff, find_eq_ok_iff, Except.ok.injEq, Prod.mk.injEq]
  constructor
  · rintro ⟨w, hw, _, hchange, rfl, rfl⟩
    exact ⟨w, hw, hchange, rfl⟩
  · rintro ⟨w, hw, hchange, rfl⟩
    exact ⟨w, hw, v, hchange, rfl, rfl⟩

theorem remove_eq_ok_iff :
    r.remove identifier = .ok (v, r') ↔
      r.validators.get? identifier = some v ∧ r' = r.drop identifier := by
  simp only [remove, bind_eq_ok_iff, find_eq_ok_iff, Except.ok.injEq, Prod.mk.injEq]
  constructor
  · rintro ⟨_, hv, rfl, rfl⟩
    exact ⟨hv, rfl⟩
  · rintro ⟨hv, rfl⟩
    exact ⟨v, hv, rfl, rfl⟩

/-! ## 2. Any operation -/

/-- **What an operation can do**, one case for each way it can end. -/
inductive Performed (r : Registry) :
    ValidatorOperation → Except LedgerError Answer → Registry → Prop where
  | refused {op : ValidatorOperation} {e : LedgerError} : Performed r op (.error e) r
  | found {identifier : String} {v : Validator} :
      r.find identifier = .ok v → Performed r (.find identifier) (.ok (.validator v)) r
  | registered {identifier : String} {stake : Amount} {now : Time} {v : Validator}
      {r' : Registry} :
      r.register identifier stake now = .ok (v, r') →
      Performed r (.register identifier stake now) (.ok (.validator v)) r'
  | heard {identifier : String} {now : Time} {v : Validator} {r' : Registry} :
      r.heartbeat identifier now = .ok (v, r') →
      Performed r (.heartbeat identifier now) (.ok .done) r'
  | switched {identifier : String} {active : Bool} {v : Validator} {r' : Registry} :
      r.setActive identifier active = .ok (v, r') →
      Performed r (.setActive identifier active) (.ok (.validator v)) r'
  | credited {identifier : String} {amount : Amount} {v : Validator} {r' : Registry} :
      r.credit identifier amount = .ok (v, r') →
      Performed r (.credit identifier amount) (.ok (.amount v.stake)) r'
  | removed {identifier : String} {v : Validator} {r' : Registry} :
      r.remove identifier = .ok (v, r') →
      Performed r (.remove identifier) (.ok (.validator v)) r'

theorem perform_performed (r : Registry) (op : ValidatorOperation) :
    r.Performed op (r.perform op).1 (r.perform op).2 := by
  cases op with
  | register identifier stake now =>
    exact settle_cases (motive := r.Performed _) (fun _ => .refused) fun _ _ h => .registered h
  | heartbeat identifier now =>
    exact settle_cases (motive := r.Performed _) (fun _ => .refused) fun _ _ h => .heard h
  | setActive identifier active =>
    exact settle_cases (motive := r.Performed _) (fun _ => .refused) fun _ _ h => .switched h
  | credit identifier amount =>
    exact settle_cases (motive := r.Performed _) (fun _ => .refused) fun _ _ h => .credited h
  | remove identifier =>
    exact settle_cases (motive := r.Performed _) (fun _ => .refused) fun _ _ h => .removed h
  | find identifier =>
    exact answer_cases (motive := (r.Performed _ · r)) (fun _ => .refused) fun _ h => .found h

/-- A refusal changes nothing. -/
theorem Performed.of_error {op : ValidatorOperation} {e : LedgerError}
    (h : r.Performed op (.error e) r') : r' = r := by
  cases h with
  | refused => rfl

/-- The terms stay. -/
theorem Performed.terms {op : ValidatorOperation} {answer : Except LedgerError Answer}
    (h : r.Performed op answer r') : r'.terms = r.terms := by
  cases h with
  | refused => rfl
  | found _ => rfl
  | registered h =>
    obtain ⟨-, -, rfl⟩ := register_eq_ok_iff.mp h
    rfl
  | heard h =>
    obtain ⟨-, -, -, rfl⟩ := update_eq_ok_iff.mp h
    rfl
  | switched h =>
    obtain ⟨-, -, -, rfl⟩ := update_eq_ok_iff.mp h
    rfl
  | credited h =>
    obtain ⟨-, -, -, rfl⟩ := update_eq_ok_iff.mp h
    rfl
  | removed h =>
    obtain ⟨-, rfl⟩ := remove_eq_ok_iff.mp h
    rfl

/-- **An operation writes under the identifier that it names**, if it writes at all: it puts a
validator there, or takes away the one that is there. -/
theorem Performed.same_or_put_or_drop {op : ValidatorOperation} {answer : Except LedgerError Answer}
    (h : r.Performed op answer r') :
    r' = r ∨ (∃ v, v.identifier = op.identifier ∧ r' = r.put v) ∨ r' = r.drop op.identifier := by
  have hupdate : ∀ {name : String} {v : Validator}
      {change : Validator → Except LedgerError Validator},
      r.update name change = .ok (v, r') →
      (∀ u w, change u = .ok w → w.identifier = u.identifier) →
      ∃ v, v.identifier = name ∧ r' = r.put v := by
    intro name v change hr hchange
    obtain ⟨u, hu, hv, rfl⟩ := update_eq_ok_iff.mp hr
    exact ⟨v, (hchange u v hv).trans (r.keyed hu), rfl⟩
  cases h with
  | refused => exact Or.inl rfl
  | found _ => exact Or.inl rfl
  | registered hr =>
    obtain ⟨-, rfl, rfl⟩ := register_eq_ok_iff.mp hr
    exact Or.inr (Or.inl ⟨_, rfl, rfl⟩)
  | heard hr =>
    refine Or.inr (Or.inl (hupdate hr ?_))
    rintro u _ ⟨⟩
    rfl
  | switched hr =>
    refine Or.inr (Or.inl (hupdate hr ?_))
    rintro u _ ⟨⟩
    rfl
  | credited hr =>
    obtain ⟨u, stake, hu, -, rfl, rfl⟩ := credit_eq_ok_iff.mp hr
    have hname := r.keyed hu
    exact Or.inr (Or.inl ⟨{ u with stake }, hname, rfl⟩)
  | removed hr =>
    obtain ⟨-, rfl⟩ := remove_eq_ok_iff.mp hr
    exact Or.inr (Or.inr rfl)

/-- Under every other identifier all stays as it is. -/
theorem Performed.get?_of_ne {op : ValidatorOperation} {answer : Except LedgerError Answer}
    {identifier : String} (h : r.Performed op answer r') (hne : op.identifier ≠ identifier) :
    r'.validators.get? identifier = r.validators.get? identifier := by
  rcases h.same_or_put_or_drop with rfl | ⟨v, hv, rfl⟩ | rfl
  · rfl
  · rw [get?_put, if_neg]
    rintro rfl
    exact hne hv.symm
  · rw [get?_drop, if_neg (Ne.symm hne)]

/-! ## 3. Several operations -/

/-- Carry out operations one after another: the answers in order, and the registry at the end. -/
def run (r : Registry) : List ValidatorOperation → List (Except LedgerError Answer) × Registry
  | [] => ([], r)
  | op :: rest =>
    let (answer, r) := r.perform op
    let (answers, r) := r.run rest
    (answer :: answers, r)

theorem run_cons (r : Registry) (op : ValidatorOperation) (rest : List ValidatorOperation) :
    (r.run (op :: rest)).2 = ((r.perform op).2.run rest).2 := rfl

/-! ## 4. Keeping track of a validator -/

/-- The exact stake of the validator with this identifier, if there is one. -/
def stakeOf? (r : Registry) (identifier : String) : Option Nat :=
  (r.validators.get? identifier).map (·.stake.toNat)

section Tracked

variable {α β : Type} {f : Validator → β} {g : α → β} {record? : Option α}

/-- A record is kept of the validator with this identifier: there is one if there is the other, and
what `f` reads off the validator is what `g` reads off the record. -/
def Tracked (r : Registry) (f : Validator → β) (g : α → β) (identifier : String)
    (record? : Option α) : Prop :=
  (r.validators.get? identifier).map f = record?.map g

/-- A validator comes in, and its record begins. -/
theorem Tracked.begun {record : α} (h : r.Tracked f g identifier record?)
    (hrecord : g record = f v) :
    (r.put v).Tracked f g identifier
      (if v.identifier = identifier then some record else record?) := by
  unfold Tracked at h ⊢
  rw [get?_put]
  by_cases hname : identifier = v.identifier
  · rw [if_pos hname, if_pos hname.symm]
    exact congrArg some hrecord.symm
  · rw [if_neg hname, if_neg (Ne.symm hname)]
    exact h

/-- **A validator is replaced, and its record goes along.** -/
theorem Tracked.changed {w : Validator} {more : α → α} (h : r.Tracked f g identifier record?)
    (hv : r.validators.get? w.identifier = some v)
    (hmore : ∀ record, g record = f v → g (more record) = f w) :
    (r.put w).Tracked f g identifier
      (if w.identifier = identifier then record?.map more else record?) := by
  unfold Tracked at h ⊢
  rw [get?_put]
  by_cases hname : identifier = w.identifier
  · subst hname
    rw [hv, Option.map_some] at h
    obtain ⟨record, rfl, hrecord⟩ := Option.map_eq_some_iff.mp h.symm
    rw [if_pos rfl, if_pos rfl]
    exact congrArg some (hmore record hrecord).symm
  · rw [if_neg hname, if_neg (Ne.symm hname)]
    exact h

/-- What cannot be read off a validator changes no record. -/
theorem Tracked.kept {w : Validator} (h : r.Tracked f g identifier record?)
    (hv : r.validators.get? w.identifier = some v) (hw : f w = f v) :
    (r.put w).Tracked f g identifier record? := by
  have hsame : ∀ record, g record = f v → g (id record) = f w := fun _ h => h.trans hw.symm
  simpa using h.changed hv hsame

/-- A change of the validator with an identifier that leaves the identifier alone. -/
theorem Tracked.updated {change : Validator → Except LedgerError Validator} {name : String}
    {more : α → α} (h : r.Tracked f g identifier record?)
    (hr : r.update name change = .ok (v, r'))
    (hchange : ∀ u w, change u = .ok w → w.identifier = u.identifier ∧
      ∀ record, g record = f u → g (more record) = f w) :
    r'.Tracked f g identifier (if name = identifier then record?.map more else record?) := by
  obtain ⟨u, hu, hv, rfl⟩ := update_eq_ok_iff.mp hr
  obtain ⟨hidentifier, hmore⟩ := hchange u v hv
  obtain rfl : v.identifier = name := hidentifier.trans (r.keyed hu)
  exact h.changed hu hmore

/-- A validator goes, and its record ends. -/
theorem Tracked.ended (h : r.Tracked f g identifier record?) (name : String) :
    (r.drop name).Tracked f g identifier (if name = identifier then none else record?) := by
  unfold Tracked at h ⊢
  rw [get?_drop]
  by_cases hname : identifier = name
  · rw [if_pos hname, if_pos hname.symm]
    rfl
  · rw [if_neg hname, if_neg (Ne.symm hname)]
    exact h

end Tracked

end Registry

end StakeChain

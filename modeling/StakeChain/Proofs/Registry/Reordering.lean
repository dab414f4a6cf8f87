/-
# The order of independent operations does not matter

Operations on validators may come in from many sides at once, and which is carried out first is
then nobody's decision.  It changes nothing as long as the operations on each single identifier
keep their order (`Reordered`).

An operation reads the terms of the registry and one validator, the one under the identifier that it
names, and writes nothing else.  So two registries that look the same under an identifier
(`Registry.AgreeOn`) answer an operation on it alike and look the same under it afterwards, and an
operation on another identifier is not seen there at all.  A sequence is therefore, to each
identifier, the part of it that names this identifier (`Registry.run_agreeOn`), and two sequences
with the same parts end in registries that look the same everywhere.  Such registries are equal,
because a table keeps no memory of the order in which it was filled.

Main statement: `Registry.reordered_operations_agree`.
-/
import Mathlib.Data.List.Count
import StakeChain.Proofs.Registry.Operations
import StakeChain.Registry.Quorum

namespace StakeChain

/-! ## 1. Another order -/

/-- **The same entries in another order**, in which those with one key come one after another as
before. -/
def Reordered {α : Type} (key : α → String) (xs ys : List α) : Prop :=
  ∀ k, (xs.filter fun x => key x = k) = ys.filter fun x => key x = k

section Reordered

variable {α : Type} [DecidableEq α] {key : α → String} {xs ys : List α}

theorem Reordered.perm (h : Reordered key xs ys) : xs.Perm ys := by
  rw [List.perm_iff_count]
  intro x
  have hcount := congrArg (List.count x) (h (key x))
  rwa [List.count_filter (by simp), List.count_filter (by simp)] at hcount

/-- It is a permutation that keeps the order under each key, and the keys of the entries are the
only ones to look at. -/
theorem reordered_iff :
    Reordered key xs ys ↔
      xs.Perm ys ∧
        ∀ x ∈ xs, (xs.filter fun y => key y = key x) = ys.filter fun y => key y = key x := by
  constructor
  · intro h
    exact ⟨h.perm, fun x _ => h (key x)⟩
  · rintro ⟨hperm, horder⟩ k
    by_cases hk : ∃ x ∈ xs, key x = k
    · obtain ⟨x, hx, rfl⟩ := hk
      exact horder x hx
    · have hxs : (xs.filter fun x => key x = k) = [] := by
        simpa using hk
      have hys : (ys.filter fun x => key x = k) = [] := by
        refine List.filter_eq_nil_iff.mpr fun y hy hkey => hk ⟨y, hperm.mem_iff.mpr hy, ?_⟩
        exact of_decide_eq_true hkey
      rw [hxs, hys]

instance : Decidable (Reordered key xs ys) := decidable_of_iff _ reordered_iff.symm

end Reordered

namespace Registry

/-! ## 2. Registries that look the same under an identifier -/

/-- The registries look the same to operations on one identifier. -/
structure AgreeOn (identifier : String) (r s : Registry) : Prop where
  terms : r.terms = s.terms
  record : r.validators.get? identifier = s.validators.get? identifier

/-- **Registries that look the same everywhere are equal.** -/
theorem eq_of_agreeOn {r s : Registry} (h : ∀ identifier, AgreeOn identifier r s) : r = s :=
  ext_get? (h "").terms fun key => (h key).record

/-- The same answer, and registries that look the same. -/
def Alike (identifier : String) (x y : Except LedgerError Answer × Registry) : Prop :=
  x.1 = y.1 ∧ AgreeOn identifier x.2 y.2

namespace AgreeOn

variable {identifier : String} {r s : Registry}

theorem put (h : AgreeOn identifier r s) (v : Validator) :
    AgreeOn identifier (r.put v) (s.put v) where
  terms := h.terms
  record := by rw [get?_put, get?_put, h.record]

theorem drop (h : AgreeOn identifier r s) (name : String) :
    AgreeOn identifier (r.drop name) (s.drop name) where
  terms := h.terms
  record := by rw [get?_drop, get?_drop, h.record]

theorem find (h : AgreeOn identifier r s) : r.find identifier = s.find identifier := by
  rw [Registry.find, Registry.find, h.record]

theorem register (h : AgreeOn identifier r s) (stake : Amount) (now : Time) :
    Alike identifier (r.perform (.register identifier stake now))
      (s.perform (.register identifier stake now)) := by
  simp only [Registry.perform, Registry.register, h.terms, h.record]
  split_ifs
  · exact ⟨rfl, h⟩
  · exact ⟨rfl, h⟩
  · exact ⟨rfl, h⟩
  · exact ⟨rfl, h.put _⟩

/-- A change of one validator, whatever it is and however it is answered. -/
theorem update (h : AgreeOn identifier r s) (change : Validator → Except LedgerError Validator)
    (wrap : Validator → Answer) :
    Alike identifier (settle r wrap (r.update identifier change))
      (settle s wrap (s.update identifier change)) := by
  rw [Registry.update, Registry.update, h.find]
  cases s.find identifier with
  | error e => exact ⟨rfl, h⟩
  | ok v =>
    cases hchange : change v with
    | error e => simp [hchange, settle, Alike, h, bind, Except.bind]
    | ok w => simp [hchange, settle, Alike, h.put w, bind, Except.bind]

theorem remove (h : AgreeOn identifier r s) :
    Alike identifier (r.perform (.remove identifier)) (s.perform (.remove identifier)) := by
  simp only [Registry.perform, Registry.remove, h.find]
  cases s.find identifier with
  | error e => exact ⟨rfl, h⟩
  | ok v => exact ⟨rfl, h.drop identifier⟩

/-- **Registries that look the same under an identifier give an operation on it the same answer**,
and still look the same under it. -/
theorem perform {op : ValidatorOperation} (h : AgreeOn op.identifier r s) :
    Alike op.identifier (r.perform op) (s.perform op) := by
  cases op with
  | register identifier stake now => exact h.register stake now
  | heartbeat identifier now => exact h.update _ _
  | setActive identifier active => exact h.update _ _
  | credit identifier amount => exact h.update _ _
  | remove identifier => exact h.remove
  | find identifier => exact ⟨congrArg (Except.map Answer.validator) h.find, h⟩

/-- An operation on another identifier is not seen. -/
theorem perform_of_ne {op : ValidatorOperation} (h : AgreeOn identifier r s)
    (hne : op.identifier ≠ identifier) : AgreeOn identifier (r.perform op).2 s where
  terms := (r.perform_performed op).terms.trans h.terms
  record := ((r.perform_performed op).get?_of_ne hne).trans h.record

end AgreeOn

/-! ## 3. Sequences -/

/-- The operations of a sequence, each with its answer. -/
def answered (r : Registry) (ops : List ValidatorOperation) :
    List (ValidatorOperation × Except LedgerError Answer) := ops.zip (r.run ops).1

theorem answered_cons (r : Registry) (op : ValidatorOperation) (rest : List ValidatorOperation) :
    r.answered (op :: rest) = (op, (r.perform op).1) :: (r.perform op).2.answered rest := rfl

/-- **A sequence and the part of it that names an identifier** are the same under that identifier:
the operations on it are answered alike, and the registries look the same under it at the end. -/
theorem run_agreeOn {identifier : String} (ops : List ValidatorOperation) {r s : Registry}
    (h : AgreeOn identifier r s) :
    let own := ops.filter fun op => op.identifier = identifier
    ((r.answered ops).filter fun entry => entry.1.identifier = identifier) = s.answered own ∧
      AgreeOn identifier (r.run ops).2 (s.run own).2 := by
  induction ops generalizing r s with
  | nil => exact ⟨rfl, h⟩
  | cons op rest ih =>
    intro own
    rw [answered_cons, run_cons]
    by_cases hname : op.identifier = identifier
    · subst hname
      obtain ⟨hanswer, hafter⟩ := h.perform
      obtain ⟨hanswers, hend⟩ := ih hafter
      have hown : own = op :: rest.filter fun o => o.identifier = op.identifier :=
        List.filter_cons_of_pos (by simp)
      rw [hown, answered_cons, run_cons, List.filter_cons_of_pos (by simp), hanswers, hanswer]
      exact ⟨rfl, hend⟩
    · have hown : own = rest.filter fun o => o.identifier = identifier :=
        List.filter_cons_of_neg (by simpa using hname)
      rw [hown, List.filter_cons_of_neg (by simpa using hname)]
      exact ih (h.perform_of_ne hname)

/-- **The order of operations on different identifiers does not matter.**  Take any registry and
two sequences of operations on validators that are the same but for their order, with the
operations on each single identifier in the same order in both.  Each operation is answered alike
in both, whether it succeeds or is refused, and both end in the same registry.  So the listing is
the same, and at any time so are the live validators, the quorum check, and whom an election takes
from the same source. -/
theorem reordered_operations_agree (r : Registry) {ops ops' : List ValidatorOperation}
    (h : Reordered ValidatorOperation.identifier ops ops') :
    let after := (r.run ops).2
    let after' := (r.run ops').2
    Reordered (fun entry => entry.1.identifier) (r.answered ops) (r.answered ops') ∧
      after = after' ∧ after.list = after'.list ∧
      ∀ now, after.live now = after'.live now ∧
        (∀ minimum, after.quorum now minimum = after'.quorum now minimum) ∧
        ∀ {σ : Type} [DrawSource σ] (u : Urn σ),
          u.elect (after.live now) = u.elect (after'.live now) := by
  intro after after'
  have hagree : ∀ identifier, AgreeOn identifier r r := fun _ => ⟨rfl, rfl⟩
  have hafter : after = after' := by
    refine eq_of_agreeOn fun identifier => ?_
    obtain ⟨-, hend⟩ := run_agreeOn ops (hagree identifier)
    obtain ⟨-, hend'⟩ := run_agreeOn ops' (hagree identifier)
    rw [h identifier] at hend
    exact ⟨hend.terms.trans hend'.terms.symm, hend.record.trans hend'.record.symm⟩
  refine ⟨?_, hafter, ?_⟩
  · intro identifier
    obtain ⟨hanswers, -⟩ := run_agreeOn ops (hagree identifier)
    obtain ⟨hanswers', -⟩ := run_agreeOn ops' (hagree identifier)
    rw [hanswers, hanswers', h identifier]
  · rw [hafter]
    exact ⟨rfl, fun _ => ⟨rfl, fun _ => rfl, fun _ => rfl⟩⟩

/-- Two validators come in, in one order and in the other.  One of them is removed and comes in
again; the other is refused a second registration and a credit that does not fit. -/
theorem reordered_operations_agree_on_two :
    let r := new Config.default.registry
    let ops : List ValidatorOperation :=
      [.register "A" ⟨100000000000⟩ 0, .heartbeat "A" 100, .remove "A",
        .register "A" ⟨300000000000⟩ 9, .register "B" ⟨200000000000⟩ 5,
        .credit "B" ⟨18446744073709551615⟩, .register "B" ⟨400000000000⟩ 6, .heartbeat "B" 50]
    let ops' : List ValidatorOperation :=
      [.register "B" ⟨200000000000⟩ 5, .credit "B" ⟨18446744073709551615⟩,
        .register "A" ⟨100000000000⟩ 0, .register "B" ⟨400000000000⟩ 6, .heartbeat "A" 100,
        .heartbeat "B" 50, .remove "A", .register "A" ⟨300000000000⟩ 9]
    Reordered ValidatorOperation.identifier ops ops' ∧ (r.run ops).1 ≠ (r.run ops').1 ∧
      Reordered (fun entry => entry.1.identifier) (r.answered ops) (r.answered ops') ∧
      (r.run ops).2 = (r.run ops').2 := by
  intro r ops ops'
  have hreordered : Reordered ValidatorOperation.identifier ops ops' := by decide +kernel
  have hne : (r.run ops).1 ≠ (r.run ops').1 := by decide +kernel
  obtain ⟨hanswers, hafter, -⟩ := reordered_operations_agree r hreordered
  exact ⟨hreordered, hne, hanswers, hafter⟩

end Registry

end StakeChain

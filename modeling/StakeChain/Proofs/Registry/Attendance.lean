/-
# Who may produce a block

The registry keeps one time and one flag of a validator: the latest heartbeat, and the last word on
whether it is switched on.  Liveness is judged by these two, with a difference that stops at the
ends of 64 bits.  What an outsider can write down is more: an `Attendance` has the time of the
latest registration, all heartbeats since and all switches since, and a removal ends it.

The two say the same (`Ledger.run_attends`), so a validator is live exactly when it was heard from
within the window, since its registration or by it, and was not last switched off
(`Ledger.isLive_iff_present`).  Clocks may go backwards: the latest of the times is what counts, not
the last to arrive.  A window of the whole range is left out, since no difference exceeds it once it
is held within 64 bits.

Main statement: `Ledger.only_present_validators_produce`.  It asks nothing of the source, which may
answer numbers past the total and bring in blocks of others.
-/
import Mathlib.Control.Monad.Basic
import StakeChain.Election.Sources
import StakeChain.Proofs.Mint.Production
import StakeChain.Proofs.Registry.Operations

namespace StakeChain

/-! ## 1. What is written down -/

/-- What was heard of a validator since its registration. -/
structure Attendance where
  registeredAt : Time
  /-- The times of the heartbeats, in the order in which they came. -/
  heartbeats : List Time
  /-- What the flag was set to, in order. -/
  switches : List Bool
deriving DecidableEq, Repr

/-- What a validator is judged by: the latest heartbeat and the flag. -/
def Validator.presence (v : Validator) : Time × Bool := (v.lastActiveAt, v.isActive)

namespace Attendance

/-- An attendance that begins. -/
def begun (now : Time) : Attendance := ⟨now, [], []⟩

/-- One heartbeat more. -/
def heard (now : Time) (a : Attendance) : Attendance :=
  { a with heartbeats := a.heartbeats ++ [now] }

/-- One switch more. -/
def switched (active : Bool) (a : Attendance) : Attendance :=
  { a with switches := a.switches ++ [active] }

/-- The latest time, a registration counting as a heartbeat, and the last word on the flag. -/
def presence (a : Attendance) : Time × Bool :=
  (a.heartbeats.foldl max a.registeredAt, a.switches.getLast?.getD true)

@[simp] theorem presence_begun (now : Time) : (begun now).presence = (now, true) := rfl

@[simp] theorem presence_heard (now : Time) (a : Attendance) :
    (a.heard now).presence = (max a.presence.1 now, a.presence.2) := by
  simp [presence, heard]

@[simp] theorem presence_switched (active : Bool) (a : Attendance) :
    (a.switched active).presence = (a.presence.1, active) := by
  simp [presence, switched]

/-- The attendance of a validator after an operation and its answer. -/
def note (identifier : String) (attendance? : Option Attendance) :
    Operation × Except LedgerError Answer → Option Attendance
  | (.validator (.register name _ now), .ok _) =>
    if name = identifier then some (.begun now) else attendance?
  | (.validator (.heartbeat name now), .ok _) =>
    if name = identifier then attendance?.map (heard now) else attendance?
  | (.validator (.setActive name active), .ok _) =>
    if name = identifier then attendance?.map (switched active) else attendance?
  | (.validator (.remove name), .ok _) => if name = identifier then none else attendance?
  | _ => attendance?

/-- A refusal leaves no trace. -/
theorem note_refused (identifier : String) (attendance? : Option Attendance) (op : Operation)
    (e : LedgerError) : note identifier attendance? (op, .error e) = attendance? := by
  cases op with
  | validator op => cases op <;> rfl
  | _ => rfl

/-- Heard from within the window before `now`, in exact integers, and not last switched off. -/
def Present (a : Attendance) (now window : Time) : Prop :=
  (∃ t ∈ a.registeredAt :: a.heartbeats, now.toInt - t.toInt ≤ window.toInt) ∧
    ∀ active, a.switches.getLast? = some active → active = true

end Attendance

/-- The present attendance of a validator, by a transcript that begins without validators. -/
def Transcript.attendance? (t : Transcript) (identifier : String) : Option Attendance :=
  t.foldl (Attendance.note identifier) none

/-! ## 2. Judged by the latest heartbeat -/

/-- Within the window of the latest of some times is within the window of one of them. -/
theorem Time.sub_foldl_max_le_iff {now window : Int} : ∀ {times : List Time} {first : Time},
    now - (times.foldl max first).toInt ≤ window ↔
      ∃ t ∈ first :: times, now - t.toInt ≤ window
  | [], first => by simp
  | time :: rest, first => by
    have hmax : now - (max first time).toInt ≤ window ↔
        now - first.toInt ≤ window ∨ now - time.toInt ≤ window := by
      rw [Time.toInt_max]
      omega
    rw [List.foldl_cons, sub_foldl_max_le_iff]
    simp only [List.mem_cons, exists_eq_or_imp, hmax, or_assoc]

/-- **Live is present**, for a validator that stands as its attendance says. -/
theorem Attendance.isLive_iff_present {a : Attendance} {v : Validator} {now window : Time}
    (hwindow : window < Int64.maxValue) (h : v.presence = a.presence) :
    v.isLive now window = true ↔ a.Present now window := by
  obtain ⟨htime, hflag⟩ := Prod.mk.inj h
  have hswitch : a.switches.getLast?.getD true = true ↔
      ∀ active, a.switches.getLast? = some active → active = true := by
    cases a.switches.getLast? <;> simp
  rw [Validator.isLive, Bool.and_eq_true, decide_eq_true_iff, Time.since_le_iff hwindow, htime,
    hflag, Time.sub_foldl_max_le_iff, hswitch]
  exact and_comm

/-! ## 3. One operation -/

namespace Registry

variable {r r' : Registry} {identifier : String} {attendance? : Option Attendance}

/-- **The invariant**: there is a validator if there is an attendance, and it is judged by the same
time and flag. -/
def Attends (r : Registry) (identifier : String) (attendance? : Option Attendance) : Prop :=
  r.Tracked Validator.presence Attendance.presence identifier attendance?

theorem Attends.performed {op : ValidatorOperation} {answer : Except LedgerError Answer}
    (h : r.Attends identifier attendance?) (hp : r.Performed op answer r') :
    r'.Attends identifier (Attendance.note identifier attendance? (.validator op, answer)) := by
  cases hp with
  | refused =>
    rw [Attendance.note_refused]
    exact h
  | found _ => exact h
  | registered hr =>
    obtain ⟨-, rfl, rfl⟩ := register_eq_ok_iff.mp hr
    exact Tracked.begun h (Attendance.presence_begun _)
  | heard hr =>
    refine Tracked.updated h hr ?_
    rintro v _ ⟨⟩
    exact ⟨rfl, fun a ha => by rw [Attendance.presence_heard, ha]; rfl⟩
  | switched hr =>
    refine Tracked.updated h hr ?_
    rintro v _ ⟨⟩
    exact ⟨rfl, fun a ha => by rw [Attendance.presence_switched, ha]; rfl⟩
  | credited hr =>
    obtain ⟨v, stake, hv, -, rfl, rfl⟩ := credit_eq_ok_iff.mp hr
    have hname := r.keyed hv
    subst hname
    exact Tracked.kept h hv rfl
  | removed hr =>
    obtain ⟨-, rfl⟩ := remove_eq_ok_iff.mp hr
    exact Tracked.ended h _

end Registry

namespace Mint

variable {σ : Type} [DrawSource σ] {m m' : Mint σ} {transactions : List Transaction} {now : Time}

/-- A production pays its producer, which is no sign of life. -/
theorem Produced.attends {result : Except LedgerError Block} {identifier : String}
    {attendance? : Option Attendance} (h : m.Produced transactions now result m')
    (hattends : m.registry.Attends identifier attendance?) :
    m'.registry.Attends identifier attendance? := by
  cases h with
  | failed _ => exact hattends
  | succeeded hlive _ _ _ =>
    exact Registry.Tracked.kept hattends (Registry.mem_live_iff.mp hlive).1 rfl

theorem Produced.registry_terms {result : Except LedgerError Block}
    (h : m.Produced transactions now result m') : m'.registry.terms = m.registry.terms := by
  cases h with
  | failed _ => rfl
  | succeeded _ _ _ _ => rfl

/-- The producer of a block was live. -/
theorem Produced.isLive {b : Block} (h : m.Produced transactions now (.ok b) m') :
    m.registry.isLive b.producer now = true := by
  cases h with
  | succeeded hlive _ _ _ =>
    obtain ⟨hstored, hisLive⟩ := Registry.mem_live_iff.mp hlive
    rw [Registry.isLive]
    exact hstored.symm ▸ hisLive

end Mint

/-! ## 4. Histories -/

/-- When a production is asked for, if it is one. -/
def Operation.producesAt? : Operation → Option Time
  | .produce _ now => some now
  | .producePending now => some now
  | _ => none

namespace Ledger

variable {σ : Type} [DrawSource σ]

theorem perform_attends {l : Ledger σ} {identifier : String} {attendance? : Option Attendance}
    (h : l.registry.Attends identifier attendance?) (op : Operation) :
    (l.perform op).2.registry.Attends identifier
      (Attendance.note identifier attendance? (op, (l.perform op).1)) := by
  cases op with
  | validator op => exact h.performed (l.registry.perform_performed op)
  | append b => cases happend : l.chain.append b <;> simp only [perform, happend] <;> exact h
  | produce transactions now => exact (l.toMint.produce_produced transactions now).attends h
  | producePending now => exact (l.toMint.produce_produced l.mempool.pending now).attends h
  | _ => exact h

theorem registry_terms_perform (l : Ledger σ) (op : Operation) :
    (l.perform op).2.registry.terms = l.registry.terms := by
  cases op with
  | validator op => exact (l.registry.perform_performed op).terms
  | append b => cases h : l.chain.append b <;> simp [perform, h]
  | produce transactions now => exact (l.toMint.produce_produced transactions now).registry_terms
  | producePending now => exact (l.toMint.produce_produced l.mempool.pending now).registry_terms
  | _ => rfl

/-- **The registry keeps what there is to know of attendances**, and its terms, to the end of a
history. -/
theorem run_attends (l : Ledger σ) (ops : List Operation) {identifier : String}
    (hnone : l.registry.validators.get? identifier = none) :
    (l.run ops).2.registry.terms = l.registry.terms ∧
      (l.run ops).2.registry.Attends identifier ((l.transcript ops).attendance? identifier) := by
  refine run_invariant (motive := fun (m : Ledger σ) attendance? =>
    m.registry.terms = l.registry.terms ∧ m.registry.Attends identifier attendance?) ?_ ops
      ⟨rfl, by rw [Registry.Attends, Registry.Tracked, hnone]; rfl⟩
  rintro m attendance? op ⟨hterms, hattends⟩
  exact ⟨(m.registry_terms_perform op).trans hterms, perform_attends hattends op⟩

/-- **A validator is live exactly when it is present**, after any history and at any time. -/
theorem isLive_iff_present (config : Config) (clock : Time) (source : σ) (ops : List Operation)
    (hwindow : config.registry.activityWindow < Int64.maxValue) (identifier : String)
    (now : Time) :
    let l := Ledger.new config clock source
    (l.run ops).2.registry.isLive identifier now = true ↔
      ∃ a, (l.transcript ops).attendance? identifier = some a ∧
        a.Present now config.registry.activityWindow := by
  intro l
  have hnone : l.registry.validators.get? identifier = none := Table.get?_empty _
  obtain ⟨hterms, hattends⟩ := l.run_attends ops hnone
  have hconfig : (l.run ops).2.registry.terms = config.registry := hterms
  unfold Registry.Attends Registry.Tracked at hattends
  rw [Registry.isLive, hconfig]
  cases hv : (l.run ops).2.registry.validators.get? identifier with
  | none =>
    rw [hv] at hattends
    simp [Option.map_eq_none_iff.mp hattends.symm]
  | some v =>
    rw [hv] at hattends
    obtain ⟨a, ha, hpresence⟩ := Option.map_eq_some_iff.mp hattends.symm
    rw [ha]
    simpa using Attendance.isLive_iff_present hwindow hpresence.symm

/-- Whoever produces a block is live. -/
theorem isLive_of_production {l : Ledger σ} {op : Operation} {now : Time} {b : Block}
    (hop : op.producesAt? = some now) (h : (l.perform op).1 = .ok (.block b)) :
    l.registry.isLive b.producer now = true := by
  have hblock : ∀ {transactions : List Transaction},
      (l.toMint.produce transactions now).1.map Answer.block = .ok (.block b) →
        l.registry.isLive b.producer now = true := by
    intro transactions hanswer
    have hproduced := l.toMint.produce_produced transactions now
    cases hresult : (l.toMint.produce transactions now).1 with
    | error e =>
      rw [hresult] at hanswer
      cases hanswer
    | ok b' =>
      rw [hresult] at hanswer hproduced
      cases hanswer
      exact hproduced.isLive
  cases op with
  | produce transactions time =>
    cases hop
    exact hblock h
  | producePending time =>
    cases hop
    exact hblock h
  | _ => cases hop

/-- **Only validators that are present produce blocks.**  Take any history of a ledger, with any
source and at any times, and any block that a production in it returned.  Its producer was
registered before and not removed since; it was heard from, since the latest registration or by
it, at a time no further back than the window; and if it was switched on or off since, it was last
switched on. -/
theorem only_present_validators_produce (config : Config) (clock : Time) (source : σ)
    (ops : List Operation) (hwindow : config.registry.activityWindow < Int64.maxValue) :
    ∀ (before after : Transcript) (op : Operation) (now : Time) (b : Block),
      (Ledger.new config clock source).transcript ops = before ++ (op, .ok (.block b)) :: after →
      op.producesAt? = some now →
      ∃ a, before.attendance? b.producer = some a ∧
        a.Present now config.registry.activityWindow := by
  intro before after op now b htranscript hop
  obtain ⟨earlier, op, rfl, hentry⟩ := exists_of_transcript_eq_append htranscript
  obtain ⟨rfl, hanswer⟩ := Prod.mk.inj hentry
  exact (isLive_iff_present config clock source earlier hwindow b.producer now).mp
    (isLive_of_production hop hanswer.symm)

/-- The draw is past the total, and the last heartbeat to arrive is not the latest. -/
theorem only_present_validators_produce_after_switches :
    let l := Ledger.new default 0 (Source.literal [1000000000000])
    let earlier : List Operation :=
      [.validator (.register "A" ⟨100000000000⟩ 0), .validator (.setActive "A" false),
        .validator (.heartbeat "A" 900), .validator (.heartbeat "A" 100),
        .validator (.setActive "A" true)]
    let b := (Block.genesis 0).next 1000 [] "A"
    l.transcript (earlier ++ [.produce [] 1000]) =
        l.transcript earlier ++ [(.produce [] 1000, .ok (.block b))] ∧
      ∃ a, (l.transcript earlier).attendance? b.producer = some a ∧ a.Present 1000 300 := by
  intro l earlier b
  have hwindow : (default : Config).registry.activityWindow < Int64.maxValue := by decide
  have hrun : l.transcript (earlier ++ [.produce [] 1000]) =
      l.transcript earlier ++ [(.produce [] 1000, .ok (.block b))] := by decide +kernel
  have hpresent := only_present_validators_produce default 0 (Source.literal [1000000000000])
    (earlier ++ [.produce [] 1000]) hwindow (l.transcript earlier) [] (.produce [] 1000) 1000 b
  exact ⟨hrun, hpresent hrun rfl⟩

end Ledger

end StakeChain

/-
# The first block

A configuration is read setting by setting (`Config.read_eq_ok_iff`), and a ledger that runs under
one should be able to do what it is for: a first validator registers and produces a block.  Of the
seven settings only one stands in the way.  The activity window is taken over unread, and with a
window below zero nobody is live at the time of its own heartbeat.  So the first production
succeeds exactly if the window is not below zero.

Main statement: `Ledger.first_block_unless_negative_window`.  That such a window is accepted, and
the ledger then idle, is `Ledger.accepted_and_idle`.
-/
import Mathlib.Control.Monad.Basic
import StakeChain.Proofs.Election.Draws
import StakeChain.Proofs.Mint.Attempts
import StakeChain.Proofs.Registry.Operations

namespace StakeChain

/-! ## 1. Reading a configuration -/

namespace Config

variable {lookup : String → Option String} {config : Config}

/-- A setting is read if it is absent, or present with a value. -/
theorem setting_eq_ok_iff {α : Type} {key : String} {value? : List Char → Option α}
    {fallback value : α} :
    setting lookup key value? fallback = .ok value ↔
      (lookup key = none ∧ fallback = value) ∨
        ∃ raw, lookup key = some raw ∧ value? (Text.trim raw.toList) = some value := by
  unfold setting
  cases lookup key with
  | none => simp
  | some raw => cases hvalue : value? (Text.trim raw.toList) <;> simp [hvalue]

/-- **A configuration is read** if each of its terms is, and the two that are looked at
afterwards are in range. -/
theorem read_eq_ok_iff :
    read lookup = .ok config ↔
      setting lookup "POS_MIN_STAKE" Amount.ofChars? default.staking.minimumStake =
          .ok config.staking.minimumStake ∧
        setting lookup "POS_LOCK_PERIOD_SECS" Text.int64? default.staking.lockPeriod =
          .ok config.staking.lockPeriod ∧
        setting lookup "POS_ANNUAL_RATE_BPS" Text.uint32? default.staking.annualRate =
          .ok config.staking.annualRate ∧
        setting lookup "POS_MIN_VALIDATOR_STAKE" Amount.ofChars? default.registry.minimumStake =
          .ok config.registry.minimumStake ∧
        setting lookup "POS_BLOCK_REWARD" Amount.ofChars? default.production.reward =
          .ok config.production.reward ∧
        setting lookup "POS_ACTIVITY_WINDOW_SECS" Text.int64? default.registry.activityWindow =
          .ok config.registry.activityWindow ∧
        setting lookup "POS_MAX_PRODUCE_ATTEMPTS" Text.uint32? default.production.maxAttempts =
          .ok config.production.maxAttempts ∧
        ¬ config.staking.lockPeriod < 0 ∧ config.production.maxAttempts ≠ 0 := by
  unfold read
  simp only [bind_eq_ok_iff]
  constructor
  · rintro ⟨stake, hstake, lock, hlock, rate, hrate, minimum, hminimum, reward, hreward, window,
      hwindow, attempts, hattempts, h⟩
    split at h
    · cases h
    · rename_i hforward
      split at h
      · cases h
      · rename_i hsome
        cases h
        exact ⟨hstake, hlock, hrate, hminimum, hreward, hwindow, hattempts, hforward, hsome⟩
  · rintro ⟨hstake, hlock, hrate, hminimum, hreward, hwindow, hattempts, hforward, hsome⟩
    refine ⟨_, hstake, _, hlock, _, hrate, _, hminimum, _, hreward, _, hwindow, _, hattempts, ?_⟩
    rw [if_neg hforward, if_neg hsome]

/-- The setting of the activity window is a number below zero. -/
def SetsNegativeWindow (lookup : String → Option String) : Prop :=
  ∃ raw window, lookup "POS_ACTIVITY_WINDOW_SECS" = some raw ∧
    Text.int64? (Text.trim raw.toList) = some window ∧ window < 0

/-- **A window below zero comes from its setting**, and a setting below zero is taken over. -/
theorem activityWindow_neg_iff (hread : read lookup = .ok config) :
    config.registry.activityWindow < 0 ↔ SetsNegativeWindow lookup := by
  obtain ⟨-, -, -, -, -, hwindow, -⟩ := read_eq_ok_iff.mp hread
  rcases setting_eq_ok_iff.mp hwindow with ⟨hnone, hdefault⟩ | ⟨raw, hraw, hvalue⟩
  · rw [← hdefault]
    constructor
    · intro hneg
      exact absurd hneg (by decide)
    · rintro ⟨raw, -, hraw, -⟩
      rw [hnone] at hraw
      cases hraw
  · constructor
    · intro hneg
      exact ⟨raw, _, hraw, hvalue, hneg⟩
    · rintro ⟨_, window, hraw', hvalue', hneg⟩
      rw [hraw] at hraw'
      cases hraw'
      rw [hvalue] at hvalue'
      cases hvalue'
      exact hneg

end Config

/-! ## 2. One validator -/

/-- A validator that is switched on is live at the time of its latest heartbeat, if the window is
not below zero. -/
theorem Validator.isLive_self {v : Validator} {now window : Time} (hactive : v.isActive = true)
    (hheard : v.lastActiveAt = now) : v.isLive now window = true ↔ ¬ window < 0 := by
  rw [isLive, hactive, hheard, Time.since_self, Bool.true_and, decide_eq_true_iff]
  exact Int64.not_lt.symm

/-- The first validator of a registry is all that is live, if it is. -/
theorem Registry.live_put_new (terms : RegistryTerms) {v : Validator} {now : Time}
    (hactive : v.isActive = true) (hheard : v.lastActiveAt = now) :
    ((new terms).put v).live now = if terms.activityWindow < 0 then [] else [v] := by
  have hself : v.isLive now terms.activityWindow = true ↔ ¬ terms.activityWindow < 0 :=
    Validator.isLive_self hactive hheard
  show [v].filter (fun w => w.isLive now terms.activityWindow) = _
  by_cases hneg : terms.activityWindow < 0
  · simp [hneg, mt hself.mp (not_not_intro hneg)]
  · simp [hneg, hself.mpr hneg]

/-- An election with one candidate. -/
theorem Urn.elect_singleton {σ : Type} [DrawSource σ] (u : Urn σ) (v : Validator) :
    ∃ foreign w, u.Drawn (totalStake [v]) foreign w ∧ u.elect [v] = (.ok v, w) := by
  rcases u.elect_cases [v] with ⟨hnone, -⟩ | ⟨leader, hleader, foreign, w, hdrawn, helect⟩
  · cases hnone
  · obtain rfl := List.mem_singleton.mp hleader
    exact ⟨foreign, w, hdrawn, helect⟩

/-! ## 3. The first production -/

namespace Ledger

variable {σ : Type} [DrawSource σ]

/-- **A first validator can produce at once, unless the window is below zero.**  Take any
configuration that is read, any time and any source that offers no blocks.  Whoever registers
first and produces at the same time, transactions that are consistent and with room for the
reward, gets a second block on the chain under its own name, and the reward.  If the setting of
the window is below zero, nobody is live, and the production fails and changes nothing. -/
theorem first_block_unless_negative_window {lookup : String → Option String} {config : Config}
    (hread : Config.read lookup = .ok config) (clock : Time) {source : σ}
    (hquiet : DrawSource.Quiet source) {identifier : String} {stake : Amount} {now : Time}
    {v : Validator} {registry : Registry}
    (hregister : (Ledger.new config clock source).registry.register identifier stake now =
      .ok (v, registry))
    (hroom : stake.toNat + config.production.reward.toNat < UInt64.size)
    {transactions : List Transaction} (hconsistent : ∀ tx ∈ transactions, tx.isConsistent = true) :
    let l : Ledger σ := { Ledger.new config clock source with registry }
    (¬ Config.SetsNegativeWindow lookup → ∃ b l', l.produce transactions now = (.ok b, l') ∧
        b.producer = identifier ∧ b.transactions = transactions ∧
        l'.chain.blocks = [.genesis clock, b] ∧
        ∃ raised : Amount, raised.toNat = stake.toNat + config.production.reward.toNat ∧
          l'.registry.validators.get? identifier = some { v with stake := raised }) ∧
      (Config.SetsNegativeWindow lookup →
        l.produce transactions now = (.error .noLiveValidator, l)) := by
  intro l
  obtain ⟨-, hv, rfl⟩ := Registry.register_eq_ok_iff.mp hregister
  have hlive : l.registry.live now = if config.registry.activityWindow < 0 then [] else [v] :=
    Registry.live_put_new config.registry (by rw [hv]) (by rw [hv])
  rw [← Config.activityWindow_neg_iff hread]
  constructor
  · intro hwindow
    rw [if_neg hwindow] at hlive
    have hmem : v ∈ l.registry.live now := by rw [hlive]; exact List.mem_singleton_self v
    obtain ⟨foreign, u, hdrawn, helect⟩ := l.toUrn.elect_singleton v
    rw [← hlive] at helect
    have hchain : u.chain = l.chain := hdrawn.chain_of_quiet hquiet
    obtain ⟨raised, hraised⟩ : ∃ raised, v.stake.add l.terms.reward = .ok raised := by
      cases hsum : v.stake.add l.terms.reward with
      | ok raised => exact ⟨raised, rfl⟩
      | error e =>
        have hlarge : UInt64.size ≤ v.stake.toNat + config.production.reward.toNat :=
          (Amount.add_eq_error_iff.mp hsum).1
        rw [hv] at hlarge
        exact absurd hroom (Nat.not_lt.mpr hlarge)
    have hproduce := Mint.produce_of_chain_eq hmem helect hchain hraised hconsistent
    let b := l.chain.head.next now transactions v.identifier
    have hchain' : (l.paid u b v raised).chain.blocks = [.genesis clock, b] := by
      rw [Mint.chain_paid, Chain.blocks_push, hchain]
      rfl
    have hpaid : (l.paid u b v raised).registry.validators.get? identifier =
        some { v with stake := raised } := by
      rw [Mint.registry_paid, Registry.get?_put, if_pos (by rw [hv])]
    have hsum : raised.toNat = stake.toNat + config.production.reward.toNat := by
      rw [Amount.add_eq_ok_iff.mp hraised, hv]
      rfl
    refine ⟨b, { l with toMint := l.paid u b v raised }, ?_, ?_, rfl, hchain', raised, hsum, hpaid⟩
    · simp only [produce, hproduce, b]
    · exact congrArg Validator.identifier hv
  · intro hwindow
    rw [if_pos hwindow] at hlive
    simp only [produce, Mint.produce_of_nobody transactions hlive]

/-- A window of no length and a validator of no stake will do. -/
theorem first_block_without_stake :
    let lookup : String → Option String := fun key =>
      if key = "POS_ACTIVITY_WINDOW_SECS" then some " 0 "
      else if key = "POS_MIN_VALIDATOR_STAKE" then some "0" else none
    let config : Config := { Config.default with registry := ⟨.zero, 0⟩ }
    let v : Validator := ⟨"A", .zero, 7, 7, true⟩
    let l : Ledger Source :=
      { Ledger.new config 0 (Source.script []) with registry := (Registry.new ⟨.zero, 0⟩).put v }
    Config.read lookup = .ok config ∧
      ∃ b l', l.produce [.ofPayload "pay bob 5"] 7 = (.ok b, l') ∧ b.producer = "A" := by
  intro lookup config v l
  have hread : Config.read lookup = .ok config := by decide +kernel
  have hregister : (Ledger.new config 0 (Source.script [])).registry.register "A" .zero 7 =
      .ok (v, (Registry.new ⟨.zero, 0⟩).put v) :=
    Registry.register_eq_ok_iff.mpr ⟨⟨by decide, by decide, rfl⟩, rfl, rfl⟩
  have hroom : Amount.zero.toNat + config.production.reward.toNat < UInt64.size := by decide
  have hconsistent : ∀ tx ∈ [Transaction.ofPayload "pay bob 5"], tx.isConsistent = true := by simp
  have hwindow : ¬ Config.SetsNegativeWindow lookup := by
    rw [← Config.activityWindow_neg_iff hread]
    decide
  obtain ⟨hfirst, -⟩ := first_block_unless_negative_window hread 0 (Source.quiet_script [])
    hregister hroom hconsistent
  obtain ⟨b, l', hproduce, hproducer, -⟩ := hfirst hwindow
  exact ⟨hread, b, l', hproduce, hproducer⟩

/-- **An accepted configuration can be idle.**  A window of minus one is read without complaint,
and a validator that has just registered cannot produce. -/
theorem accepted_and_idle :
    let lookup : String → Option String := fun key =>
      if key = "POS_ACTIVITY_WINDOW_SECS" then some "-1" else none
    ¬ ∀ config, Config.read lookup = .ok config → ∀ v registry,
      (Ledger.new config 0 (Source.script [])).registry.register "A" ⟨100000000000⟩ 0 =
        .ok (v, registry) →
      ∃ b, (({ Ledger.new config 0 (Source.script []) with registry } : Ledger Source).produce
        [] 0).1 = .ok b := by
  intro lookup hruns
  let config : Config := { Config.default with registry := ⟨⟨100000000000⟩, -1⟩ }
  let v : Validator := ⟨"A", ⟨100000000000⟩, 0, 0, true⟩
  let l : Ledger Source :=
    { Ledger.new config 0 (Source.script []) with
      registry := (Registry.new config.registry).put v }
  have hread : Config.read lookup = .ok config := by decide +kernel
  have hregister : (Ledger.new config 0 (Source.script [])).registry.register "A"
      ⟨100000000000⟩ 0 = .ok (v, (Registry.new config.registry).put v) :=
    Registry.register_eq_ok_iff.mpr ⟨⟨by decide, by decide, rfl⟩, rfl, rfl⟩
  have hidle : (l.produce [] 0).1 = .error .noLiveValidator := by decide +kernel
  obtain ⟨b, hproduce⟩ := hruns config hread v _ hregister
  cases hproduce.symm.trans hidle

end Ledger

end StakeChain

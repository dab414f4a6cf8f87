/-
# One answer to who is live

Who is live can be asked in many places: the registry lists the live validators and says of one
identifier whether it is live; the quorum check counts the live ones and their stake, and so do the
statistics, in a loop of their own; an election fails where there is nobody; and every page that
shows a validator says whether it is live.  All of this is the list of the live validators
(`Registry.isLive_iff`, `Registry.tally_eq`), read in different ways.

The stakes need a second look.  The quorum check adds them up exactly and holds the sum within an
amount when it reports it; the statistics hold it at every step.  Both give the same amount
(`Registry.liveStake_quorum`, `Ledger.field?_liveStake_showStats`).  Whether the quorum is reached is
decided before anything is held, in products that fit 128 bits (`Tally.fits`).

Main statement: `Http.liveness_views_agree`.
-/
import StakeChain.Election.Sources
import StakeChain.Http.Service
import StakeChain.Proofs.Registry.Operations
import StakeChain.Proofs.Registry.Tally

namespace StakeChain

/-! ## 1. The registry -/

namespace Registry

variable {r : Registry} {identifier : String} {now : Time}

/-- **An identifier is live when the live validators include it.** -/
theorem isLive_iff :
    r.isLive identifier now = true ↔ ∃ v ∈ r.live now, v.identifier = identifier := by
  constructor
  · intro h
    unfold isLive at h
    split at h
    · rename_i v hv
      have hname := r.keyed hv
      exact ⟨v, mem_live_iff.mpr ⟨hname.symm ▸ hv, h⟩, hname⟩
    · cases h
  · rintro ⟨v, hv, rfl⟩
    obtain ⟨hstored, hlive⟩ := mem_live_iff.mp hv
    rw [isLive, hstored]
    exact hlive

/-- The live stake that the quorum check reports. -/
theorem liveStake_quorum (r : Registry) (now : Time) (minimum : Nat) :
    (r.quorum now minimum).liveStake = .clamp (totalStake (r.live now)) := by
  simp only [quorum, tally_eq]

end Registry

/-- **An election finds nobody exactly when there is nobody.** -/
theorem Urn.elect_eq_error_iff {σ : Type} [DrawSource σ] {u : Urn σ} {candidates : List Validator} :
    (u.elect candidates).1 = .error .noLiveValidator ↔ candidates.length = 0 := by
  rcases u.elect_cases candidates with ⟨rfl, helect⟩ | ⟨leader, hleader, -, v, -, helect⟩
  · rw [helect]
    exact iff_of_true rfl rfl
  · rw [helect]
    exact iff_of_false nofun (Nat.ne_of_gt (List.length_pos_of_mem hleader))

/-! ## 2. What is shown -/

/-- The value of a field, if there is a field with this name. -/
def Json.field? (name : String) : Json → Option Json
  | .obj members => member? name members
  | _ => none

/-- The view of a validator shows this identifier as live. -/
def Json.ShowsLive (identifier : String) (view : Json) : Prop :=
  view.field? "identifier" = some (.text identifier) ∧ view.field? "live" = some (.bool true)

namespace Ledger

variable {σ : Type} (l : Ledger σ)

theorem field?_identifier_showValidator (v : Validator) :
    (l.showValidator v).field? "identifier" = some (.text v.identifier) := by
  simp [showValidator, Validator.fields, Json.record, Json.field?, Json.member?]

/-- A view says whether the identifier is live, as of the clock. -/
theorem field?_live_showValidator (v : Validator) :
    (l.showValidator v).field? "live" = some (.bool (l.registry.isLive v.identifier l.clock)) := by
  simp [showValidator, Validator.fields, Json.record, Json.field?, Json.member?]

/-- Whatever identifier a view has, it says whether this one is live. -/
theorem field?_live_of_identifier {v : Validator} {identifier : String}
    (hname : (l.showValidator v).field? "identifier" = some (.text identifier)) :
    (l.showValidator v).field? "live" = some (.bool (l.registry.isLive identifier l.clock)) := by
  rw [field?_identifier_showValidator] at hname
  obtain rfl : v.identifier = identifier := by simpa [Json.text] using hname
  exact l.field?_live_showValidator v

theorem showsLive_showValidator_iff {identifier : String} {v : Validator} :
    (l.showValidator v).ShowsLive identifier ↔
      v.identifier = identifier ∧ l.registry.isLive identifier l.clock = true := by
  rw [Json.ShowsLive, field?_identifier_showValidator, field?_live_showValidator]
  simp only [Json.text, Option.some.injEq, Json.str.injEq, Json.bool.injEq]
  constructor
  · rintro ⟨rfl, hlive⟩
    exact ⟨rfl, hlive⟩
  · rintro ⟨rfl, hlive⟩
    exact ⟨rfl, hlive⟩

theorem field?_liveCount_showStats :
    l.showStats.field? "active_validators" = some (.nat (l.registry.live l.clock).length) := by
  simp [showStats, Json.record, Json.field?, Json.member?]

/-- The live stake of the statistics, held at every step, is the exact sum held once. -/
theorem field?_liveStake_showStats :
    l.showStats.field? "active_validator_stake" =
      some (Amount.clamp (totalStake (l.registry.live l.clock))).toJson := by
  have hheld : ((l.registry.live l.clock).map (·.stake)).foldl Amount.addClamped .zero =
      .clamp (totalStake (l.registry.live l.clock)) := Amount.foldl_addClamped_zero _
  simp [showStats, Json.record, Json.field?, Json.member?, hheld]

end Ledger

/-! ## 3. What is answered -/

namespace Http

/-- The JSON value of a response. -/
def Response.json? (r : Response) : Option Json :=
  match r.body with
  | .json content => some content
  | _ => none

/-- A field of it. -/
def Response.field? (name : String) (r : Response) : Option Json := r.json?.bind (Json.field? name)

/-- The questions whose answer shows one validator as it stands afterwards. -/
def Route.showsValidator : Route → Bool
  | .validator _ | .register | .heartbeat _ | .setActive _ => true
  | _ => false

variable {σ : Type} {l : Ledger σ}

/-- A refusal shows no validator. -/
theorem field?_identifier_refused {e : LedgerError} {view : Json}
    (h : (Response.refused e).json? = some view) : view.field? "identifier" = none := by
  cases h
  simp [Json.record, Json.field?, Json.member?]

/-- A change of the registry shows the validator in the ledger after it, or none. -/
theorem changeRegistry_shows {accept : Json → Response}
    (haccept : ∀ j, (accept j).json? = some j)
    {change : Except LedgerError (Validator × Registry)} {view : Json} {identifier : String}
    (h : (changeRegistry l (fun l v => accept (l.showValidator v)) change).1.json? = some view)
    (hname : view.field? "identifier" = some (.text identifier)) :
    let l' := (changeRegistry l (fun l v => accept (l.showValidator v)) change).2
    view.field? "live" = some (.bool (l'.registry.isLive identifier l.clock)) := by
  cases change with
  | error e =>
    rw [field?_identifier_refused h] at hname
    cases hname
  | ok made =>
    obtain ⟨v, registry⟩ := made
    obtain rfl : _ = view := Option.some.inj ((haccept _).symm.trans h)
    exact Ledger.field?_live_of_identifier _ hname

variable [DrawSource σ] {request : Request}

/-- **Wherever one validator is shown, it is said truly whether it is live**: in the registry as it
is after the request. -/
theorem ask_shows {route : Route} (hroute : route.showsValidator = true) {view : Json}
    {identifier : String} (h : (ask l request route).1.json? = some view)
    (hname : view.field? "identifier" = some (.text identifier)) :
    view.field? "live" =
      some (.bool ((ask l request route).2.registry.isLive identifier l.clock)) := by
  cases route with
  | validator name =>
    simp only [ask] at h ⊢
    cases hfind : l.registry.find name with
    | error e =>
      rw [hfind] at h
      rw [field?_identifier_refused h] at hname
      cases hname
    | ok v =>
      rw [hfind] at h
      obtain rfl : l.showValidator v = view := Option.some.inj h
      exact l.field?_live_of_identifier hname
  | register =>
    simp only [ask] at h ⊢
    split at h
    · cases h
    · exact changeRegistry_shows (fun _ => rfl) h hname
  | heartbeat name => exact changeRegistry_shows (fun _ => rfl) h hname
  | setActive name =>
    simp only [ask] at h ⊢
    split at h
    · cases h
    · exact changeRegistry_shows (fun _ => rfl) h hname
  | _ => cases hroute

/-- **The list of all validators shows the live ones as live, and nobody else.** -/
theorem isLive_iff_listed {identifier : String} :
    l.registry.isLive identifier l.clock = true ↔
      ∃ views, (ask l request .validators).1.field? "validators" = some (.arr views) ∧
        ∃ view ∈ views, view.ShowsLive identifier := by
  have hviews : (ask l request .validators).1.field? "validators" =
      some (.arr (l.registry.list.map l.showValidator)) := by
    simp [ask, Response.field?, Response.json?, Response.ok, Json.record, Json.list, Json.field?,
      Json.member?]
  rw [hviews]
  constructor
  · intro hlive
    obtain ⟨v, hv, hname⟩ := Registry.isLive_iff.mp hlive
    have hlisted := (l.registry.live_sublist l.clock).subset hv
    refine ⟨_, rfl, _, List.mem_map_of_mem hlisted, ?_⟩
    exact l.showsLive_showValidator_iff.mpr ⟨hname, hlive⟩
  · rintro ⟨_, ⟨⟩, view, hview, hshows⟩
    obtain ⟨v, -, rfl⟩ := List.mem_map.mp hview
    exact (l.showsLive_showValidator_iff.mp hshows).2

/-- **The page of an identifier shows it as live if it is**, and is a refusal if nobody has it. -/
theorem isLive_iff_paged {identifier : String} :
    l.registry.isLive identifier l.clock = true ↔
      ∃ view, (ask l request (.validator identifier)).1.json? = some view ∧
        view.ShowsLive identifier := by
  constructor
  · intro hlive
    obtain ⟨v, hv, rfl⟩ := Registry.isLive_iff.mp hlive
    have hfind := Registry.find_eq_ok_iff.mpr (Registry.mem_live_iff.mp hv).1
    refine ⟨l.showValidator v, ?_, l.showsLive_showValidator_iff.mpr ⟨rfl, hlive⟩⟩
    rw [ask, hfind]
    rfl
  · rintro ⟨view, hview, hname, hlive⟩
    have hroute : (Route.validator identifier).showsValidator = true := rfl
    have hshown := ask_shows hroute hview hname
    rw [hlive] at hshown
    exact (Json.bool.inj (Option.some.inj hshown)).symm

/-- **All views of who is live agree.**  Take any ledger with fewer than `2 ^ 57` validators, at
whatever time its clock stands.

* An identifier is live if the live validators include it, if the list of validators shows it as
  live, and if its own page does; and wherever else a validator is shown, after a registration, a
  heartbeat or a switch, it is shown as live if it is live then.
* The quorum check and the statistics report the number of the live validators, and an election
  finds nobody exactly if that number is zero.
* Both report the exact sum of the live stakes, held within an amount.
* The quorum is reached if there are enough live validators and they have more than 51 parts in a
  hundred of all stake, in exact sums; and at every point of the pass that computes them the sums
  and the products fit 128 bits. -/
theorem liveness_views_agree (l : Ledger σ) (request : Request) (minimum : Nat)
    (hsize : l.registry.size < 2 ^ 57) :
    let live := l.registry.live l.clock
    let quorum := l.registry.quorum l.clock minimum
    let stats := (ask l request .stats).1
    (∀ identifier,
        let isLive := l.registry.isLive identifier l.clock = true
        (isLive ↔ ∃ v ∈ live, v.identifier = identifier) ∧
          (isLive ↔ ∃ views, (ask l request .validators).1.field? "validators" =
            some (.arr views) ∧ ∃ view ∈ views, view.ShowsLive identifier) ∧
          (isLive ↔ ∃ view, (ask l request (.validator identifier)).1.json? = some view ∧
            view.ShowsLive identifier) ∧
          ∀ (route : Route) (view : Json), route.showsValidator = true →
            (ask l request route).1.json? = some view →
            view.field? "identifier" = some (.text identifier) →
            view.field? "live" =
              some (.bool ((ask l request route).2.registry.isLive identifier l.clock))) ∧
      (quorum.liveValidators = live.length ∧
        stats.field? "active_validators" = some (.nat live.length) ∧
        ∀ {τ : Type} [DrawSource τ] (u : Urn τ),
          (u.elect live).1 = .error .noLiveValidator ↔ live.length = 0) ∧
      (quorum.liveStake.toNat = min (totalStake live) (2 ^ 64 - 1) ∧
        stats.field? "active_validator_stake" = some quorum.liveStake.toJson) ∧
      (quorum.reached = true ↔
        minimum ≤ live.length ∧ 51 * totalStake l.registry.list < 100 * totalStake live) ∧
      ∀ seen, seen <+: l.registry.list →
        let t := seen.foldl (Tally.count l.clock l.registry.terms.activityWindow) .zero
        100 * t.liveStake < 2 ^ 128 ∧ 51 * t.totalStake < 2 ^ 128 := by
  intro live quorum stats
  have htally := l.registry.tally_eq l.clock
  have hstake : quorum.liveStake = .clamp (totalStake live) :=
    l.registry.liveStake_quorum l.clock minimum
  refine ⟨?_, ⟨?_, ?_, ?_⟩, ⟨?_, ?_⟩, ?_, ?_⟩
  · intro identifier isLive
    refine ⟨Registry.isLive_iff, isLive_iff_listed, isLive_iff_paged, ?_⟩
    intro route view hroute hview hname
    exact ask_shows hroute hview hname
  · exact congrArg Tally.liveCount htally
  · exact l.field?_liveCount_showStats
  · intro τ _ u
    exact u.elect_eq_error_iff
  · rw [hstake, Amount.toNat_clamp]
    rfl
  · rw [hstake]
    exact l.field?_liveStake_showStats
  · rw [Registry.reached_iff, htally]
  · intro seen hseen
    refine Tally.fits (Nat.lt_of_le_of_lt hseen.length_le ?_)
    rwa [Registry.length_list]

/-- Two of three validators are live, with more stake than an amount can hold; a heartbeat of the
third is answered by a view that shows it as live. -/
theorem liveness_views_agree_on_more_than_an_amount :
    let l := ((Ledger.new Config.default 400 (Source.script [])).run
      [.validator (.register "A" ⟨18446744073709551615⟩ 400),
        .validator (.register "B" ⟨18446744073709551615⟩ 350),
        .validator (.register "C" ⟨18446744073709551615⟩ 0)]).2
    let request : Request := ⟨"GET", "/stats/", none, ""⟩
    let quorum := l.registry.quorum l.clock 2
    l.registry.size < 2 ^ 57 ∧ totalStake (l.registry.live l.clock) = 36893488147419103230 ∧
      quorum.liveStake.toNat = 2 ^ 64 - 1 ∧
      (ask l request .stats).1.field? "active_validator_stake" = some quorum.liveStake.toJson ∧
      quorum.reached = true ∧ l.registry.isLive "C" l.clock = false ∧
      ∃ view, (ask l request (.heartbeat "C")).1.json? = some view ∧
        view.field? "identifier" = some (.text "C") ∧ view.field? "live" = some (.bool true) := by
  intro l request quorum
  have hsize : l.registry.size < 2 ^ 57 := by decide +kernel
  have hlive : totalStake (l.registry.live l.clock) = 36893488147419103230 := by decide +kernel
  have hmajority : 2 ≤ (l.registry.live l.clock).length ∧
      51 * totalStake l.registry.list < 100 * totalStake (l.registry.live l.clock) := by
    decide +kernel
  have hsilent : l.registry.isLive "C" l.clock = false := by decide +kernel
  have hback : (ask l request (.heartbeat "C")).2.registry.isLive "C" l.clock = true := by
    decide +kernel
  obtain ⟨view, hview, hname⟩ : ∃ view, (ask l request (.heartbeat "C")).1.json? = some view ∧
      view.field? "identifier" = some (.text "C") := ⟨_, rfl, rfl⟩
  obtain ⟨hviews, -, ⟨hstake, hstats⟩, hreached, -⟩ := liveness_views_agree l request 2 hsize
  obtain ⟨-, -, -, hshown⟩ := hviews "C"
  have hlate := hshown (.heartbeat "C") view rfl hview hname
  rw [hback] at hlate
  rw [hlive] at hstake
  exact ⟨hsize, hlive, hstake, hstats, hreached.mpr hmajority, hsilent, view, hview, hname, hlate⟩

end Http

end StakeChain

/-
# Addressing what was created

What a request creates is kept under a name that came in the body, trimmed of blanks, and later
requests give that name as a segment of their path, in whatever spelling.  Both readings end in
the same text, so a validator is found under every path that spells its identifier
(`Http.validatorAnswers`), and a stake under every path that spells its owner
(`Http.stakeAnswers`).

There is one name that does not address a page.  `quorum` is a fixed segment behind `validators/`
and is tried first: a validator may be called so, hears its heartbeats, is switched and removed,
but its page shows the quorum check.

Main statement: `Http.created_is_addressable`.  The page that is not a validator's is
`Http.quorum_has_no_page`.
-/
import StakeChain.Election.Sources
import StakeChain.Http.Service
import StakeChain.Proofs.Http.Path
import StakeChain.Proofs.Registry.Operations
import StakeChain.Proofs.Staking.Operations
import StakeChain.Proofs.Staking.Reward

namespace StakeChain

/-! ## 1. A stake that has earned nothing yet -/

namespace StakePool

variable {p p' : StakePool} {s : Stake} {now : Time}

/-- An active stake from which nothing was paid, and which has earned nothing up to `now`. -/
structure Fresh (p : StakePool) (now : Time) (s : Stake) : Prop where
  active : p.active s.owner = .ok s
  unpaid : s.rewardsClaimed = .zero
  unsettled : s.settledRewards = .zero
  anchored : s.lastClaimAt = now

theorem fresh_of_openStake {owner : String} {amount : Amount}
    (h : p.openStake owner amount now = .ok (s, p')) : p'.Fresh now s := by
  obtain ⟨-, rfl, rfl⟩ := openStake_eq_ok_iff.mp h
  exact ⟨active_eq_ok_iff.mpr ⟨get?_put_self _ _ _, rfl⟩, rfl, rfl, rfl⟩

theorem Fresh.unclaimed_eq (h : p.Fresh now s) : s.unclaimed now p.terms.annualRate = .zero := by
  refine Stake.unclaimed_eq_zero_of_le_anchor h.unsettled _ ?_
  rw [h.anchored]
  exact Int64.le_refl now

/-- A claim pays nothing and leaves the record as it is. -/
theorem Fresh.claim_eq (h : p.Fresh now s) : p.claim s.owner now = .ok (.zero, p.put s.owner s) := by
  have hsame :
      { s with
        rewardsClaimed := .zero
        settledRewards := .zero
        lastClaimAt := max s.lastClaimAt now } = s := by
    obtain ⟨-, hunpaid, hunsettled, hanchored⟩ := h
    cases s
    simp_all
  rw [claim_eq_ok_iff]
  refine ⟨s, .zero, h.active, h.unclaimed_eq.symm, ?_, ?_⟩
  · rw [h.unpaid]
    rfl
  · rw [hsame]

/-- An increase raises the balance and leaves the rest of the record as it is. -/
theorem Fresh.increase_eq (h : p.Fresh now s) {delta amount : Amount} (hdelta : delta ≠ .zero)
    (hamount : amount.toNat = s.amount.toNat + delta.toNat) :
    p.increase s.owner delta now =
      .ok ({ s with amount }, p.put s.owner { s with amount }) := by
  have hsame :
      { s with
        amount
        settledRewards := s.unclaimed now p.terms.annualRate
        lastClaimAt := max s.lastClaimAt now } = { s with amount } := by
    rw [h.unclaimed_eq, h.anchored, Time.max_self]
    obtain ⟨-, -, hunsettled, hanchored⟩ := h
    cases s
    simp_all
  rw [increase_eq_ok_iff]
  exact ⟨hdelta, s, amount, h.active, hamount, hsame.symm, rfl⟩

end StakePool

namespace Http

variable {σ : Type} [DrawSource σ] {l : Ledger σ}

/-! ## 2. Requests with a name in their path -/

/-- **A request whose path spells a name asks what the name stands for**, if the route depends on
the name only through what the second step makes of its segment, and through the fixed segments
that it could be. -/
theorem respond_of_named {r : Request} {collection name : String} {actions : List String}
    {route : Route} (hpath : Spelled r.path (collection :: name :: actions)) (hname : name ≠ "")
    (hfixed : ∀ text ∈ collection :: actions, isFixed text = true ∧ text ≠ "")
    (hroute : ∀ segment, decodeSegment segment = name →
      (∀ fixed, isFixed fixed = true → (segment = fixed ↔ name = fixed)) →
      Route.of? r.method (collection :: segment :: actions) = some route) :
    respond l r = ask l r route := by
  obtain ⟨segment, hsegments, hdecoded, hsame⟩ := segments?_of_named hpath hname
    (hfixed collection List.mem_cons_self) fun a ha => hfixed a (List.mem_cons_of_mem _ ha)
  exact respond_eq_ask hsegments (hroute segment hdecoded hsame)

/-- The usual route, which takes the name as the second step reads it. -/
theorem respond_of_decoded {r : Request} {collection name : String} {actions : List String}
    {route : String → Route} (hpath : Spelled r.path (collection :: name :: actions))
    (hname : name ≠ "") (hfixed : ∀ text ∈ collection :: actions, isFixed text = true ∧ text ≠ "")
    (hroute : ∀ segment,
      Route.of? r.method (collection :: segment :: actions) =
        some (route (decodeSegment segment))) :
    respond l r = ask l r (route name) := by
  refine respond_of_named hpath hname hfixed fun segment hdecoded _ => ?_
  rw [hroute, hdecoded]

/-! ## 3. A validator by its identifier -/

/-- **What requests that spell the validator's identifier are answered**: its page, unless it is
called `quorum`, and a heartbeat, a switch or a removal of this validator. -/
structure ValidatorAnswers (l : Ledger σ) (v : Validator) : Prop where
  shown : ∀ r : Request, r.method = "GET" → Spelled r.path ["validators", v.identifier] →
    v.identifier ≠ "quorum" → respond l r = (.ok (l.showValidator v), l)
  quorum : ∀ r : Request, r.method = "GET" → Spelled r.path ["validators", v.identifier] →
    v.identifier = "quorum" → respond l r = ask l r .quorum
  heard : ∀ r : Request, r.method = "POST" →
    Spelled r.path ["validators", v.identifier, "heartbeat"] →
    let l' := { l with registry := l.registry.put (v.heartbeat l.clock) }
    respond l r = (.ok (l'.showValidator (v.heartbeat l.clock)), l')
  switched : ∀ (r : Request) (active : Bool), r.method = "POST" →
    Spelled r.path ["validators", v.identifier, "active"] →
    r.payload? Payload.activation? = some active →
    let l' := { l with registry := l.registry.put { v with isActive := active } }
    respond l r = (.ok (l'.showValidator { v with isActive := active }), l')
  removed : ∀ r : Request, r.method = "DELETE" → Spelled r.path ["validators", v.identifier] →
    respond l r = (.ok v.toJson, { l with registry := l.registry.drop v.identifier })

/-- **A registered validator is found under every spelling of its identifier.** -/
theorem validatorAnswers {v : Validator} (hfind : l.registry.find v.identifier = .ok v)
    (hname : v.identifier ≠ "") : ValidatorAnswers l v := by
  have hv := Registry.find_eq_ok_iff.mp hfind
  have hquorum : isFixed "quorum" = true := by decide +kernel
  constructor
  · intro r hmethod hpath hother
    have hask : respond l r = ask l r (.validator v.identifier) := by
      refine respond_of_named hpath hname (by decide +kernel) fun segment hdecoded hsame => ?_
      have hsegment : segment ≠ "quorum" := mt (hsame "quorum" hquorum).mp hother
      rw [hmethod, ← hdecoded]
      simp [Route.of?, Route.ofGet?]
    rw [hask, ask, hfind, Response.ofResult]
  · intro r hmethod hpath hname'
    refine respond_of_named hpath hname (by decide +kernel) fun segment _ hsame => ?_
    rw [hmethod, (hsame "quorum" hquorum).mpr hname']
    rfl
  · intro r hmethod hpath l'
    have hask : respond l r = ask l r (.heartbeat v.identifier) := by
      refine respond_of_decoded hpath hname (by decide +kernel) fun segment => ?_
      rw [hmethod]
      rfl
    have hchange : l.registry.heartbeat v.identifier l.clock = .ok (v.heartbeat l.clock, _) :=
      Registry.update_eq_ok_iff.mpr ⟨v, hv, rfl, rfl⟩
    rw [hask, ask, hchange, changeRegistry]
  · intro r active hmethod hpath hpayload l'
    have hask : respond l r = ask l r (.setActive v.identifier) := by
      refine respond_of_decoded hpath hname (by decide +kernel) fun segment => ?_
      rw [hmethod]
      rfl
    have hchange : l.registry.setActive v.identifier active =
        .ok ({ v with isActive := active }, _) :=
      Registry.update_eq_ok_iff.mpr ⟨v, hv, rfl, rfl⟩
    rw [hask, ask, hpayload]
    simp only [hchange, changeRegistry, l']
  · intro r hmethod hpath
    have hask : respond l r = ask l r (.remove v.identifier) := by
      refine respond_of_decoded hpath hname (by decide +kernel) fun segment => ?_
      rw [hmethod]
      rfl
    have hchange : l.registry.remove v.identifier = .ok (v, l.registry.drop v.identifier) :=
      Registry.remove_eq_ok_iff.mpr ⟨hv, rfl⟩
    rw [hask, ask, hchange, changeRegistry]

/-! ## 4. A stake by its owner -/

/-- **What requests that spell the owner are answered**, as long as nothing was earned: the page of
the stake, a claim of nothing and an increase of this stake. -/
structure StakeAnswers (l : Ledger σ) (s : Stake) : Prop where
  shown : ∀ r : Request, r.method = "GET" → Spelled r.path ["stakes", s.owner] →
    respond l r = (.ok (l.showStake s), l)
  claimed : ∀ r : Request, r.method = "POST" → Spelled r.path ["stakes", s.owner, "claim"] →
    respond l r =
      (.ok (.record [("owner", .text s.owner), ("claimed", Amount.zero.toJson)]),
        { l with stakes := l.stakes.put s.owner s })
  increased : ∀ (r : Request) (delta amount : Amount), r.method = "POST" →
    Spelled r.path ["stakes", s.owner, "increase"] →
    r.payload? Payload.increase? = some delta → delta ≠ .zero →
    amount.toNat = s.amount.toNat + delta.toNat →
    let l' := { l with stakes := l.stakes.put s.owner { s with amount } }
    respond l r = (.ok (l'.showStake { s with amount }), l')

/-- **A fresh stake is found under every spelling of its owner.** -/
theorem stakeAnswers {s : Stake} (h : l.stakes.Fresh l.clock s) (hname : s.owner ≠ "") :
    StakeAnswers l s := by
  constructor
  · intro r hmethod hpath
    have hask : respond l r = ask l r (.stake s.owner) := by
      refine respond_of_decoded hpath hname (by decide +kernel) fun segment => ?_
      rw [hmethod]
      rfl
    have hfind : l.stakes.find s.owner = .ok s :=
      StakePool.find_eq_ok_iff.mpr (StakePool.active_eq_ok_iff.mp h.active).1
    rw [hask, ask, hfind, Response.ofResult]
  · intro r hmethod hpath
    have hask : respond l r = ask l r (.claim s.owner) := by
      refine respond_of_decoded hpath hname (by decide +kernel) fun segment => ?_
      rw [hmethod]
      rfl
    rw [hask, ask, h.claim_eq, changeStakes]
  · intro r delta amount hmethod hpath hpayload hdelta hamount l'
    have hask : respond l r = ask l r (.increase s.owner) := by
      refine respond_of_decoded hpath hname (by decide +kernel) fun segment => ?_
      rw [hmethod]
      rfl
    rw [hask, ask, hpayload]
    simp only [h.increase_eq hdelta hamount, changeStakes, l']

/-! ## 5. What was created -/

theorem ne_empty_of_not_allBlank {name : String} (h : Text.allBlank name = false) : name ≠ "" := by
  rintro rfl
  cases h

/-- A registration that is answered with `201` made a validator. -/
theorem created_validator {r : Request} (hmethod : r.method = "POST")
    (hpath : segments? (splitTarget r.path).1 = some ["validators"])
    (hcreated : (respond l r).1.status = 201) :
    ∃ v, (respond l r).1 = .created ((respond l r).2.showValidator v) ∧
      (respond l r).2.registry.find v.identifier = .ok v ∧ v.identifier ≠ "" := by
  have hroute : Route.of? r.method ["validators"] = some .register := by rw [hmethod]; rfl
  rw [respond_eq_ask hpath hroute] at hcreated ⊢
  cases hpayload : r.payload? Payload.registration? with
  | none =>
    rw [ask, hpayload] at hcreated
    cases hcreated
  | some body =>
    obtain ⟨identifier, stake⟩ := body
    cases hregister : l.registry.register (Text.trimmed identifier) stake l.clock with
    | error e =>
      rw [ask, hpayload] at hcreated
      simp only [hregister, changeRegistry] at hcreated
      have := Response.status_refused e
      omega
    | ok made =>
      obtain ⟨v, registry⟩ := made
      obtain ⟨⟨hblank, -, -⟩, hv, rfl⟩ := Registry.register_eq_ok_iff.mp hregister
      rw [ask, hpayload]
      simp only [hregister, changeRegistry]
      refine ⟨v, rfl, ?_, ?_⟩
      · rw [Registry.find_eq_ok_iff, Registry.get?_put, if_pos rfl]
      · rw [hv]
        exact ne_empty_of_not_allBlank hblank

/-- An opening that is answered with `201` made a stake. -/
theorem created_stake {r : Request} (hmethod : r.method = "POST")
    (hpath : segments? (splitTarget r.path).1 = some ["stakes"])
    (hcreated : (respond l r).1.status = 201) :
    ∃ s, (respond l r).1 = .created ((respond l r).2.showStake s) ∧
      (respond l r).2.stakes.Fresh (respond l r).2.clock s ∧ s.owner ≠ "" := by
  have hroute : Route.of? r.method ["stakes"] = some .openStake := by rw [hmethod]; rfl
  rw [respond_eq_ask hpath hroute] at hcreated ⊢
  cases hpayload : r.payload? Payload.opening? with
  | none =>
    rw [ask, hpayload] at hcreated
    cases hcreated
  | some body =>
    obtain ⟨owner, amount⟩ := body
    cases hopen : l.stakes.openStake (Text.trimmed owner) amount l.clock with
    | error e =>
      rw [ask, hpayload] at hcreated
      simp only [hopen, changeStakes] at hcreated
      have := Response.status_refused e
      omega
    | ok made =>
      obtain ⟨s, stakes⟩ := made
      obtain ⟨⟨hblank, -⟩, hs, -⟩ := StakePool.openStake_eq_ok_iff.mp hopen
      rw [ask, hpayload]
      simp only [hopen, changeStakes]
      refine ⟨s, rfl, StakePool.fresh_of_openStake hopen, ?_⟩
      rw [hs]
      exact ne_empty_of_not_allBlank hblank

/-- **Everything created can be addressed, the page of a validator called `quorum` apart.**  Take
any ledger and any request to register a validator or to open a stake that is answered with `201`.
The answer shows a record, and in the ledger after it every request whose path spells the name of
that record, in whatever way, acts on that record: its page shows it, a heartbeat, a switch or a
removal finds the validator, and a claim or an increase the stake.  Only the page of a validator
called `quorum` shows the quorum check instead.  Every name has a spelling. -/
theorem created_is_addressable (l : Ledger σ) (r : Request) (hmethod : r.method = "POST")
    (hcreated : (respond l r).1.status = 201) :
    (segments? (splitTarget r.path).1 = some ["validators"] →
        ∃ v, (respond l r).1 = .created ((respond l r).2.showValidator v) ∧
          (respond l r).2.registry.find v.identifier = .ok v ∧
          ValidatorAnswers (respond l r).2 v) ∧
      (segments? (splitTarget r.path).1 = some ["stakes"] →
        ∃ s, (respond l r).1 = .created ((respond l r).2.showStake s) ∧
          (respond l r).2.stakes.find s.owner = .ok s ∧ StakeAnswers (respond l r).2 s) ∧
      ∀ texts, ∃ path, Spelled path texts := by
  refine ⟨fun hpath => ?_, fun hpath => ?_, exists_spelled⟩
  · obtain ⟨v, hshown, hfind, hname⟩ := created_validator hmethod hpath hcreated
    exact ⟨v, hshown, hfind, validatorAnswers hfind hname⟩
  · obtain ⟨s, hshown, hfresh, hname⟩ := created_stake hmethod hpath hcreated
    have hfind := StakePool.find_eq_ok_iff.mpr (StakePool.active_eq_ok_iff.mp hfresh.active).1
    exact ⟨s, hshown, hfind, stakeAnswers hfresh hname⟩

/-- A name with a slash in it, given with blanks around it, and found under an escape. -/
theorem created_is_addressable_with_slash :
    let l := Ledger.new Config.default 0 (Source.script [])
    let r : Request := ⟨"POST", "/validators/", some "application/json",
      "\x7b\"identifier\":\" a/b \",\"stake\":\"1000\"\x7d"⟩
    (respond l r).1.status = 201 ∧
      ∃ v : Validator, v.identifier = "a/b" ∧
        respond (respond l r).2 ⟨"GET", "/validators/a%2fb/", none, ""⟩ =
          (.ok ((respond l r).2.showValidator v), (respond l r).2) := by
  intro l r
  have hcreated : (respond l r).1.status = 201 := by decide +kernel
  have hpath : segments? (splitTarget r.path).1 = some ["validators"] := by decide +kernel
  have hspelled : Spelled "/validators/a%2fb/" ["validators", "a/b"] := by
    refine ⟨"validators".toList ++ '/' :: (['a', '%', '2', 'f', 'b'] ++ '/' :: []),
      by decide +kernel, .cons (Text.spells_of_isPlain (by decide +kernel)) (.cons ?_ .nil)⟩
    have hescapes : Text.Escapes ['%', '2', 'f'] (String.utf8EncodeChar '/') :=
      .cons rfl rfl rfl .nil
    have hlast : Text.Spells ['b'] ['b'] := Text.spells_of_isPlain (by decide)
    have hfirst : Text.isPlain 'a' = true := by decide
    exact .plain hfirst (.escaped hescapes hlast)
  obtain ⟨hvalidator, -⟩ := created_is_addressable l r rfl hcreated
  obtain ⟨v, -, hfind, hanswers⟩ := hvalidator hpath
  have hsole : (respond l r).2.registry.list.map (·.identifier) = ["a/b"] := by decide +kernel
  have hidentifier : v.identifier = "a/b" := by
    have hmem : v ∈ (respond l r).2.registry.list :=
      Registry.mem_list_iff.mpr (Registry.find_eq_ok_iff.mp hfind)
    have hname := List.mem_map_of_mem (f := (·.identifier)) hmem
    rw [hsole] at hname
    exact List.mem_singleton.mp hname
  refine ⟨hcreated, v, hidentifier, hanswers.shown _ rfl ?_ ?_⟩
  · rwa [hidentifier]
  · rw [hidentifier]
    decide

/-- **Behind `validators/quorum/` no validator is shown**, whoever is registered. -/
theorem not_shown_behind_quorum (l : Ledger σ) {r : Request} (hmethod : r.method = "GET")
    (hpath : segments? (splitTarget r.path).1 = some ["validators", "quorum"]) (v : Validator) :
    (respond l r).1 ≠ .ok (l.showValidator v) := by
  have hroute : Route.of? r.method ["validators", "quorum"] = some .quorum := by rw [hmethod]; rfl
  rw [respond_eq_ask hpath hroute]
  unfold ask
  cases number? "min" (splitTarget r.path).2 with
  | none => simp [Response.ok, Response.badRequest]
  | some minimum =>
    simp [Response.ok, Quorum.toJson, Ledger.showValidator, Validator.fields, Json.record]

/-- **A validator called `quorum` has no page**, though it was created. -/
theorem quorum_has_no_page :
    let l := Ledger.new Config.default 0 (Source.script [])
    let r : Request := ⟨"POST", "/validators/", some "application/json",
      "\x7b\"identifier\":\"quorum\",\"stake\":\"1000\"\x7d"⟩
    let get : Request := ⟨"GET", "/validators/quorum/", none, ""⟩
    (respond l r).1.status = 201 ∧ Spelled get.path ["validators", "quorum"] ∧
      ¬ ∃ v, (respond (respond l r).2 get).1 = .ok ((respond l r).2.showValidator v) := by
  intro l r get
  have hcreated : (respond l r).1.status = 201 := by decide +kernel
  have hspelled : Spelled get.path ["validators", "quorum"] :=
    ⟨"validators".toList ++ '/' :: ("quorum".toList ++ '/' :: []), by decide +kernel,
      .cons (Text.spells_of_isPlain (by decide +kernel))
        (.cons (Text.spells_of_isPlain (by decide +kernel)) .nil)⟩
  have hpath : segments? (splitTarget get.path).1 = some ["validators", "quorum"] := by
    decide +kernel
  refine ⟨hcreated, hspelled, ?_⟩
  rintro ⟨v, hpage⟩
  have hmethod : get.method = "GET" := rfl
  exact not_shown_behind_quorum (respond l r).2 hmethod hpath v hpage

end Http

end StakeChain

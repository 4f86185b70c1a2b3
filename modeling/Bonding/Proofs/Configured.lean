import Mathlib
import Bonding.Proofs.Settings
set_option autoImplicit false

/-!
The settings stay valid. Genesis checks the bond configuration, the terms and the staking
configuration, and every handler that writes one of them either checks it again or moves it in a
way the check accepts: floor relief drops the minimum price to zero, an adjustment step moves the
control variable by a non-negative rate or stops at zero, and a rebase promotes a staged yield that
was checked when it was staged. Prices enter only through a positive feed.

One setting escapes: genesis stores the adjustment it is given without the check an adjustment
update makes, so a negative rate or target survives genesis, and a negative rate can then drive the
control variable below zero. The invariant holds from every genesis whose adjustment passes that
check. With it the defensive failures behind a zero vesting term, a zero epoch length and a zero
price cannot occur.
-/

namespace Bonding

/-- The settings a bond keeps valid: its configuration and terms pass their checks, and the
adjustment moves at a non-negative rate toward a non-negative target. -/
structure Bond.Configured (b : Bond) : Prop where
  config : b.config.toInput.validate = .ok b.config
  terms : b.terms.toInput.validate = .ok b.terms
  rate : 0 ≤ b.adjustment.rate.units
  target : 0 ≤ b.adjustment.target.units

namespace Bond.Configured

variable {b b' : Bond}

theorem stepAdjustment {env : Env} (hb : b.Configured) (h : b.stepAdjustment env = .ok b') :
    b'.Configured := by
  rcases stepAdjustment_eq_ok h with rfl | ⟨cv, rate, rfl, hrate, hup, hdown⟩
  · exact hb
  obtain ⟨hcv, hmp, hmx, hmd, hv⟩ := Terms.toInput_validate_iff.mp hb.terms
  -- the control variable stays non-negative: a step up adds a non-negative rate
  have hcv' : 0 ≤ cv.units := by
    cases hadd : b.adjustment.add
    · exact hdown hadd
    · have := hup hadd
      have := hb.rate
      omega
  refine ⟨hb.config, Terms.toInput_validate_iff.mpr ⟨hcv', hmp, hmx, hmd, hv⟩, ?_, hb.target⟩
  rcases hrate with rfl | rfl
  · exact hb.rate
  · exact le_rfl

theorem deposit {o : Oracle} {s : Staking} {l : Ledger} {env : Env} {sender : String}
    {funds : Coins} {maxPrice : Option Dec} {depositor : String} {r : Response} (hb : b.Configured)
    (h : b.deposit o s l env sender funds maxPrice depositor = .ok (b', r)) : b'.Configured := by
  obtain ⟨b₂, -, -, -, -, -, -, -, hcfg, hadj, hterms, -, -, -, hstep, -⟩ := deposit_shape h
  refine Configured.stepAdjustment ⟨?_, ?_, hadj ▸ hb.rate, hadj ▸ hb.target⟩ hstep
  · rw [hcfg]
    exact hb.config
  -- floor relief sets the minimum price to zero, which the terms check accepts
  · rcases hterms with hterms | hterms <;> rw [hterms]
    · exact hb.terms
    · obtain ⟨hcv, -, hmx, hmd, hv⟩ := Terms.toInput_validate_iff.mp hb.terms
      exact Terms.toInput_validate_iff.mpr ⟨hcv, le_rfl, hmx, hmd, hv⟩

theorem redeem {s : Staking} {env : Env} {sender recipient : String} {stake : Bool}
    {r : Response} (hb : b.Configured) (h : b.redeem s env sender recipient stake = .ok (b', r)) :
    b'.Configured := by
  obtain ⟨ps, rfl⟩ := redeem_frame h
  exact ⟨hb.config, hb.terms, hb.rate, hb.target⟩

theorem updateTerms {sender : String} {t : TermsInput} {r : Response} (hb : b.Configured)
    (h : b.updateTerms sender t = .ok (b', r)) : b'.Configured := by
  obtain ⟨t', ht, rfl, -⟩ := updateTerms_state h
  exact ⟨hb.config, TermsInput.validate_toInput ht, hb.rate, hb.target⟩

theorem updateConfig {sender : String} {u : BondConfigUpdate} {r : Response} (hb : b.Configured)
    (h : b.updateConfig sender u = .ok (b', r)) : b'.Configured := by
  obtain ⟨c, cfg, hc, rfl, -⟩ := updateConfig_state h
  exact ⟨BondConfigInput.validate_toInput hc, hb.terms, hb.rate, hb.target⟩

theorem updateAdjustment {env : Env} {sender : String} {u : AdjustmentUpdate} {r : Response}
    (hb : b.Configured) (h : b.updateAdjustment env sender u = .ok (b', r)) : b'.Configured := by
  obtain ⟨a, rfl, hrate, htarget, -⟩ := updateAdjustment_state h
  exact ⟨hb.config, hb.terms, Dec.isNegative_eq_false.mp hrate, Dec.isNegative_eq_false.mp htarget⟩

end Bond.Configured

/-- The check an adjustment update makes, and genesis does not: neither the rate nor the target is
negative. -/
def AdjustmentInput.Checked (a : AdjustmentInput) : Prop :=
  0 ≤ a.toAdjustment.rate.units ∧ 0 ≤ a.toAdjustment.target.units

theorem Bond.init_configured {env : Env} {cfg : BondConfigInput} {t : TermsInput}
    {adj : Option AdjustmentInput} {b : Bond} (h : Bond.init env cfg t adj = .ok b)
    (ha : ∀ a, adj = some a → a.Checked) : b.Configured := by
  obtain ⟨hc, ht, hsome, hnone⟩ := init_eq_ok h
  obtain ⟨hrate, htarget⟩ : 0 ≤ b.adjustment.rate.units ∧ 0 ≤ b.adjustment.target.units := by
    cases adj with
    | none =>
      rw [hnone rfl]
      exact ⟨le_rfl, le_rfl⟩
    | some a =>
      obtain ⟨hr, htg⟩ := hsome a rfl
      obtain ⟨har, hat⟩ := ha a rfl
      exact ⟨hr ▸ har, htg ▸ hat⟩
  exact ⟨BondConfigInput.validate_toInput hc, TermsInput.validate_toInput ht, hrate, htarget⟩

/-! ### The staking configuration -/

namespace Staking

variable {s s' : Staking}

theorem rebase_configured {l : Ledger} {env : Env} {r : Response}
    (hs : s.config.toInput.validate = .ok s.config) (h : s.rebase l env = .ok (s', r)) :
    s'.config.toInput.validate = .ok s'.config := by
  obtain ⟨e, cfg, rfl, rfl | ⟨n, hn, rfl⟩⟩ := rebase_state h
  · exact hs
  · exact StakingConfig.toInput_validate_promote hs hn

theorem updateConfig_configured {sender : String} {u : StakingConfigUpdate} {r : Response}
    (h : s.updateConfig sender u = .ok (s', r)) : s'.config.toInput.validate = .ok s'.config := by
  obtain ⟨c, cfg, hc, rfl⟩ := updateConfig_state h
  exact StakingConfigInput.validate_toInput hc

end Staking

/-! ### Worlds and chains -/

namespace World

/-- The settings of every contract are valid and every stored price is positive. -/
structure Configured (w : World) : Prop where
  bond : w.bond.Configured
  staking : w.staking.config.toInput.validate = .ok w.staking.config
  prices : w.oracle.PricesPositive

variable {w w' : World} {env : Env} {sender : String} {funds : Coins}

theorem dispatch_configured {msg : ExecuteMsg} {resp : Response}
    (h : w.dispatch env sender funds msg = .ok (w', resp)) (hw : w.Configured) : w'.Configured := by
  cases msg <;>
    simp only [dispatch, Result.bind_eq_ok, Result.pure_eq_ok, Prod.exists, Prod.mk.injEq] at h
  case deposit =>
    obtain ⟨b, r, hb, rfl, -⟩ := h
    exact ⟨hw.bond.deposit hb, hw.staking, hw.prices⟩
  case redeem =>
    obtain ⟨b, r, hb, rfl, -⟩ := h
    exact ⟨hw.bond.redeem hb, hw.staking, hw.prices⟩
  case updateTerms =>
    obtain ⟨b, r, hb, rfl, -⟩ := h
    exact ⟨hw.bond.updateTerms hb, hw.staking, hw.prices⟩
  case updateBondConfig =>
    obtain ⟨b, r, hb, rfl, -⟩ := h
    exact ⟨hw.bond.updateConfig hb, hw.staking, hw.prices⟩
  case updateAdjustment =>
    obtain ⟨b, r, hb, rfl, -⟩ := h
    exact ⟨hw.bond.updateAdjustment hb, hw.staking, hw.prices⟩
  case stake =>
    obtain ⟨s, r, hs, rfl, -⟩ := h
    obtain ⟨_, _, _, _, -, -, -, ⟨-, rfl, -⟩ | ⟨-, ⟨_, -, rfl⟩, -⟩⟩ := Staking.stake_eq_ok hs <;>
      exact ⟨hw.bond, hw.staking, hw.prices⟩
  case unstake =>
    obtain ⟨s, r, hs, rfl, -⟩ := h
    obtain ⟨_, _, _, _, -, -, rfl, -⟩ := Staking.unstake_eq_ok hs
    exact ⟨hw.bond, hw.staking, hw.prices⟩
  case claim =>
    obtain ⟨s, r, hs, rfl, -⟩ := h
    obtain ⟨_, _, _, -, -, rfl, -⟩ := Staking.claim_eq_ok hs
    exact ⟨hw.bond, hw.staking, hw.prices⟩
  case rebase =>
    obtain ⟨s, r, hs, rfl, -⟩ := h
    exact ⟨hw.bond, Staking.rebase_configured hw.staking hs, hw.prices⟩
  case mint =>
    obtain ⟨_, _, rfl, -⟩ := h
    exact hw
  case updateStakingConfig =>
    obtain ⟨s, r, hs, rfl, -⟩ := h
    exact ⟨hw.bond, Staking.updateConfig_configured hs, hw.prices⟩
  case jail =>
    obtain ⟨s, r, hs, rfl, -⟩ := h
    obtain ⟨_, rfl, -⟩ := Staking.jail_eq_ok hs
    exact ⟨hw.bond, hw.staking, hw.prices⟩
  case registerFeeder =>
    obtain ⟨o, r, ho, rfl, -⟩ := h
    obtain ⟨rfl, -⟩ := Oracle.registerFeeder_eq_ok ho
    exact ⟨hw.bond, hw.staking, hw.prices⟩
  case feedPrice =>
    obtain ⟨o, r, ho, rfl, -⟩ := h
    exact ⟨hw.bond, hw.staking, hw.prices.feedPrice ho⟩

theorem EffectsRun.keeps {Q : World → Prop} (hQ : ∀ (w : World) (l : Ledger), Q w → Q { w with ledger := l })
    {R : World → String → Coins → ExecuteMsg → World → List Event → List Move → Prop}
    (hR : ∀ {w s f m w' evs ms}, R w s f m w' evs ms → Q w → Q w') {c : ContractName}
    {es : List Effect} {evs : List Event} {ms : List Move} (h : EffectsRun R c w es w' evs ms) :
    Q w → Q w' := by
  induction h with
  | nil w => exact id
  | send _ _ _ ih => exact fun hw => ih (hQ _ _ hw)
  | mint _ _ _ ih => exact fun hw => ih (hQ _ _ hw)
  | burn _ _ _ _ ih => exact fun hw => ih (hQ _ _ hw)
  | execute hc _ ih => exact fun hw => ih (hR hc hw)

/-- A call keeps a property that does not read the ledger when every handler keeps it: the funds
and the effects move coins only, and each emitted call is a call again. -/
theorem Runs.keeps {Q : World → Prop} (hQ : ∀ (w : World) (l : Ledger), Q w → Q { w with ledger := l })
    (hd : ∀ {w w' : World} {env : Env} {s : String} {funds : Coins} {msg : ExecuteMsg}
      {r : Response}, w.dispatch env s funds msg = .ok (w', r) → Q w → Q w')
    {n : Nat} {msg : ExecuteMsg} {evs : List Event} {ms : List Move}
    (h : w.Runs n env sender funds msg w' evs ms) : Q w → Q w' := by
  refine Runs.induction (P := fun w _ _ _ w' => Q w → Q w') ?_ h
  intro n w w₁ w₂ w' s funds msg resp evs ms htf hdis hrun hw
  obtain ⟨l, -, rfl⟩ := takeFunds_eq_ok htf
  exact EffectsRun.keeps hQ (fun hR => hR.2) hrun (hd hdis (hQ _ _ hw))

end World

/-! ### Failures the settings rule out -/

theorem Int256.checked_error {x : Int} {e : Fault} (h : Int256.checked x = .error e) :
    e = Int256.overflow := by
  unfold Int256.checked at h
  split at h
  · cases h
  · cases h
    rfl

theorem Dec.checked_error {u : Int} {e : Fault} (h : Dec.checked u = .error e) : e = Dec.overflow := by
  unfold Dec.checked at h
  split at h
  · cases h
  · cases h
    rfl

theorem Record.checkTimes_error {ts : List Instant} {e : Fault} (h : Record.checkTimes ts = .error e) :
    e.sentinel? = none := by
  unfold Record.checkTimes at h
  split at h
  · cases h
  · cases h
    rfl

theorem decayAmount_error {d : DebtState} {vt : Nat} {now : Instant} {e : Fault} (hv : 0 < vt)
    (h : decayAmount d vt now = .error e) : e = Int256.overflow := by
  unfold decayAmount at h
  simp -zeta only [Result.throw_bind] at h
  rw [if_neg (Nat.pos_iff_ne_zero.mp hv)] at h
  dsimp only at h
  rcases Result.bind_eq_error.mp h with hm | ⟨x, -, h⟩
  · exact Int256.checked_error hm
  rcases Result.bind_eq_error.mp h with hq | ⟨q, -, h⟩
  · simp [Int256.quo, Nat.pos_iff_ne_zero.mp hv] at hq
  · cases h

/-- With a positive epoch length, a rebase fails only with a fault of no class: an overflow, or a
time that a record cannot hold. -/
theorem Staking.rebase_error {s : Staking} {l : Ledger} {env : Env} {e : Fault}
    (hl : 0 < s.config.epochLength) (h : s.rebase l env = .error e) : e.sentinel? = none := by
  unfold Staking.rebase at h
  dsimp only at h
  split at h
  · cases h
  rw [if_neg (Nat.pos_iff_ne_zero.mp hl)] at h
  rcases Result.bind_eq_error.mp h with hb | ⟨_, -, h⟩
  · rcases Result.bind_eq_error.mp hb with hk | ⟨_, -, hp⟩
    · exact Ledger.checkKey_error hk
    · cases hp
  rcases Result.bind_eq_error.mp h with hm | ⟨_, -, h⟩
  · rw [Dec.checked_error hm]
    rfl
  rcases Result.bind_eq_error.mp h with hs | ⟨_, -, h⟩
  · rcases Result.bind_eq_error.mp hs with ht | ⟨_, -, hp⟩
    · exact Record.checkTimes_error ht
    · cases hp
  · cases h

theorem Oracle.price_error {o : Oracle} {env : Env} {d : String} {e : Fault}
    (h : o.price env d = .error e) : e = .wrap .priceNotFound d := by
  unfold Oracle.price at h
  split at h
  · cases h
  split at h
  · cases h
  · cases h
    rfl

theorem Oracle.price_pos {o : Oracle} {env : Env} {d : String} {p : PriceEntry}
    (ho : o.PricesPositive) (h : o.price env d = .ok p) : 0 < p.price.units := by
  unfold Oracle.price at h
  split at h
  · cases h
    show (0 : Int) < (Dec.scale : Int)
    exact_mod_cast Dec.scale_pos
  split at h
  · cases h
    exact ho _ _ ‹_›
  · cases h

/-- With every stored price positive, a quote fails only for a missing price or an overflow; it
never divides by zero. -/
theorem Oracle.quote_error {o : Oracle} {env : Env} {base quote : String} {e : Fault}
    (ho : o.PricesPositive) (h : o.quote env base quote = .error e) :
    e = .wrap .priceNotFound base ∨ e = .wrap .priceNotFound quote ∨ e = Dec.overflow := by
  unfold Oracle.quote at h
  rcases Result.bind_eq_error.mp h with hb | ⟨b, -, h⟩
  · exact .inl (price_error hb)
  rcases Result.bind_eq_error.mp h with hq | ⟨q, hq, h⟩
  · exact .inr (.inl (price_error hq))
  rcases Result.bind_eq_error.mp h with hd | ⟨_, -, h⟩
  · refine .inr (.inr ?_)
    have hpos := price_pos ho hq
    unfold Dec.quo at hd
    rw [if_neg (by omega)] at hd
    exact Dec.checked_error hd
  · cases h
namespace Chain

def Call.AdjustmentChecked : Call → Prop
  | .instantiate _ g => ∀ a, g.bond.adjustment = some a → a.Checked
  | _ => True

theorem instantiate_oracle {c c' : Chain} {now : Instant} {g : Genesis}
    (h : c.instantiate now g = .ok c') :
    Oracle.init ⟨now, c.height⟩ (Genesis.prepared g).oracle = .ok c'.world.oracle := by
  unfold instantiate at h
  cases ht : c.genesisTime with
  | some t => simp [ht, Result.bind_eq_ok, throw, throwThe, MonadExceptOf.throw] at h
  | none =>
    simp only [ht, Result.bind_eq_ok, Result.pure_eq_ok, Result.context_eq_ok] at h
    obtain ⟨-, -, l, -, o, ho, st, -, bd, -, -, -, rfl⟩ := h
    exact ho

theorem instantiate_configured {c' : Chain} {now : Instant} {g : Genesis}
    (hg : ∀ a, g.bond.adjustment = some a → a.Checked) (h : ({} : Chain).instantiate now g = .ok c') :
    c'.world.Configured := by
  obtain ⟨-, -, -, hst, hbd⟩ := instantiate_eq_ok h
  exact ⟨Bond.init_configured hbd hg, StakingConfigInput.validate_toInput (Staking.init_config hst),
    Oracle.init_pricesPositive (instantiate_oracle h)⟩

/-- Every instantiated chain reachable through geneses whose adjustment passes the adjustment
check keeps its settings valid. -/
theorem Reachable.configured {c : Chain} (hc : c.Reachable Call.AdjustmentChecked)
    (hi : c.instantiated = true) : c.world.Configured := by
  have hQ : ∀ (w : World) (l : Ledger), w.Configured → ({ w with ledger := l } : World).Configured :=
    fun _ _ hw => ⟨hw.bond, hw.staking, hw.prices⟩
  refine Reachable.induction (P := fun c => c.instantiated = true → c.world.Configured)
    ?_ ?_ ?_ ?_ hc hi
  · intro h
    cases h
  · intro c' now g hg h _
    exact instantiate_configured hg h
  · intro c now s funds msg w evs ms _ _ hs hi hrun _
    exact World.Runs.keeps hQ World.dispatch_configured hrun (hs hi)
  · intro c now src dst coins l _ _ hs hi _ _
    exact hQ _ _ (hs hi)

/-- In every instantiated chain reached through geneses whose adjustment passes the adjustment
check, the stored configurations and terms pass their checks, the adjustment's rate and target are
not negative, and every stored price is positive. So decaying the debt fails only by overflow, a
rebase never fails with a classed error (the zero epoch length is ruled out), and a quote fails only
for a missing price or an overflow, never by dividing by zero. -/
theorem settings_stay_valid {c : Chain} (hc : c.Reachable Call.AdjustmentChecked)
    (hi : c.instantiated = true) :
    c.world.bond.config.toInput.validate = .ok c.world.bond.config ∧
    c.world.bond.terms.toInput.validate = .ok c.world.bond.terms ∧
    0 ≤ c.world.bond.adjustment.rate.units ∧ 0 ≤ c.world.bond.adjustment.target.units ∧
    c.world.staking.config.toInput.validate = .ok c.world.staking.config ∧
    (∀ d e, c.world.oracle.prices.get? d = some e → 0 < e.price.units) ∧
    (∀ now e, decayAmount c.world.bond.debt c.world.bond.terms.vestingTerm now = .error e →
      e = Int256.overflow) ∧
    (∀ l env e, c.world.staking.rebase l env = .error e → e.sentinel? = none) ∧
    (∀ env base quote e, c.world.oracle.quote env base quote = .error e →
      e = .wrap .priceNotFound base ∨ e = .wrap .priceNotFound quote ∨ e = Dec.overflow) := by
  obtain ⟨hb, hs, ho⟩ := hc.configured hi
  have hv := (Terms.toInput_validate_iff.mp hb.terms).2.2.2.2
  obtain ⟨-, -, -, -, hl, -⟩ := StakingConfigInput.validate_eq_ok_iff.mp hs
  exact ⟨hb.config, hb.terms, hb.rate, hb.target, hs, ho, fun _ _ => decayAmount_error hv,
    fun _ _ _ => Staking.rebase_error hl, fun _ _ _ _ => Oracle.quote_error ho⟩

def deployed : Chain :=
  ({} : Chain).step (.instantiate ⟨0, 0, 0⟩
    (Genesis.deployment "cosmos1335hded4gyzpt00fpz75mms4m7ck02wg624z75"
      "cosmos1vmafl8f3s6uuzwnxkqz0eza47v6ecn0tfqrcl7"))

theorem settings_stay_valid_deployed :
    deployed.world.bond.config.toInput.validate = .ok deployed.world.bond.config ∧
    deployed.world.bond.terms.toInput.validate = .ok deployed.world.bond.terms ∧
    0 ≤ deployed.world.bond.adjustment.rate.units ∧ 0 ≤ deployed.world.bond.adjustment.target.units ∧
    deployed.world.staking.config.toInput.validate = .ok deployed.world.staking.config ∧
    (∀ d e, deployed.world.oracle.prices.get? d = some e → 0 < e.price.units) ∧
    (∀ now e, decayAmount deployed.world.bond.debt deployed.world.bond.terms.vestingTerm now =
      .error e → e = Int256.overflow) ∧
    (∀ l env e, deployed.world.staking.rebase l env = .error e → e.sentinel? = none) ∧
    (∀ env base quote e, deployed.world.oracle.quote env base quote = .error e →
      e = .wrap .priceNotFound base ∨ e = .wrap .priceNotFound quote ∨ e = Dec.overflow) :=
  settings_stay_valid (.step _ (fun _ ha => by cases ha) .empty) (by decide +kernel)

/-- A genesis that the genesis check accepts, with an adjustment that creeps down at a rate of
minus one. -/
def negativeRateGenesis : Genesis where
  bond := {
    config := {
      principal := "uusdc"
      admin := "cosmos1335hded4gyzpt00fpz75mms4m7ck02wg624z75"
      treasury := "cosmos1335hded4gyzpt00fpz75mms4m7ck02wg624z75"
      minPayout := some 1 }
    terms := ⟨some (Dec.ofInt 1), some Dec.zero, some Dec.zero, some 0, 1⟩
    adjustment := some { add := true, rate := some (Dec.ofInt (-1)), target := some Dec.zero } }
  staking := {
    config := {
      admin := "cosmos1335hded4gyzpt00fpz75mms4m7ck02wg624z75"
      baseDenom := "ubond", stakedDenom := "usbond", epochLength := 1, epochApr := some Dec.zero } }

/-- Genesis stores the adjustment unchecked: a genesis the genesis check accepts leaves an
instantiated chain whose adjustment rate is negative. -/
theorem genesis_keeps_negative_rate :
    negativeRateGenesis.validate = .ok () ∧
    (({} : Chain).step (.instantiate ⟨0, 0, 0⟩ negativeRateGenesis)).instantiated = true ∧
    (({} : Chain).step (.instantiate ⟨0, 0, 0⟩ negativeRateGenesis)).world.bond.adjustment.rate.units < 0 := by
  decide +kernel

end Chain

end Bonding

import Mathlib
import Bonding.Proofs.Bond
import Bonding.Proofs.Staking
import Bonding.Proofs.Calls
set_option autoImplicit false

/-!
The checks that make the kept settings, read as conditions, and what each handler writes into the
settings when it succeeds. A configuration or terms record that a check returned passes the same
check again in its kept form, so "the stored record satisfies its check" is the statement
`r.toInput.validate = .ok r`. Each handler that writes a setting is described by one lemma: the
records it may leave, and nothing else.
-/

namespace Bonding

theorem Dec.checked_eq_ok {u : Int} {d : Dec} :
    Dec.checked u = .ok d ↔ u.natAbs < Dec.limit ∧ d = ⟨u⟩ := by
  unfold Dec.checked
  split <;> simp_all [eq_comm]

@[simp] theorem Dec.isNegative_eq_false {d : Dec} : d.isNegative = false ↔ 0 ≤ d.units := by
  simp [Dec.isNegative]

theorem Result.forIn_checks_eq_ok {α : Type} {l : List α} {f : α → PUnit → Result (ForInStep PUnit)}
    {P : α → Prop} (hf : ∀ a r, f a PUnit.unit = .ok r ↔ P a ∧ r = .yield PUnit.unit) :
    (∃ u, forIn l PUnit.unit f = .ok u) ↔ ∀ a ∈ l, P a := by
  induction l with
  | nil => exact ⟨fun _ a ha => absurd ha List.not_mem_nil, fun _ => ⟨PUnit.unit, rfl⟩⟩
  | cons a l ih =>
    rw [List.forIn_cons, List.forall_mem_cons]
    cases h : f a PUnit.unit with
    | error e =>
      have hna : ¬P a := fun ha => by simpa [h] using (hf a _).mpr ⟨ha, rfl⟩
      simp [bind, Except.bind, hna]
    | ok r =>
      obtain ⟨ha, rfl⟩ := (hf a r).mp h
      simp only [bind, Except.bind, ha, true_and]
      exact ih

/-! ### The checks as conditions -/

theorem requireNonNegative_eq_ok {what : String} {o : Option Dec} {d : Dec} :
    requireNonNegative what o = .ok d ↔ o = some d ∧ 0 ≤ d.units := by
  cases o with
  | none => simp [requireNonNegative]
  | some x =>
    by_cases hx : x.isNegative = true
    · simp only [requireNonNegative, hx, if_true, reduceCtorEq, Option.some.injEq, false_iff, not_and]
      rintro rfl
      simpa [Dec.isNegative] using hx
    · simp only [Bool.not_eq_true, Dec.isNegative_eq_false] at hx
      simp only [requireNonNegative, Dec.isNegative, decide_eq_true_eq, not_lt.mpr hx, if_false,
        Except.ok.injEq, Option.some.injEq]
      exact ⟨fun h => ⟨h, h ▸ hx⟩, fun h => h.1⟩

theorem BondConfigInput.validate_eq_ok_iff {c : BondConfigInput} {cfg : BondConfig} :
    c.validate = .ok cfg ↔ Denom.fault? c.principal = none ∧
      (c.usd ≠ "" → Denom.fault? c.usd = none) ∧ Address.fault? c.admin = none ∧
      Address.fault? c.treasury = none ∧ ∃ m, c.minPayout = some m ∧ 0 < m ∧
        cfg = ⟨c.usd, c.principal, c.admin, c.treasury, c.oracleTrustPeriod, c.floorRelief, m⟩ := by
  constructor
  · intro h
    -- a check that fails throws, so each check passed; they are read off in order
    have hp : Denom.fault? c.principal = none := by
      cases hf : Denom.fault? c.principal
      · rfl
      · simp [validate, hf, bind, Except.bind] at h
    have hu : c.usd ≠ "" → Denom.fault? c.usd = none := by
      intro he
      cases hf : Denom.fault? c.usd
      · rfl
      · simp [validate, hp, he, hf, bind, Except.bind] at h
    have ha : Address.fault? c.admin = none := by
      cases hf : Address.fault? c.admin
      · rfl
      · simp +contextual [validate, hp, hu, hf, bind, Except.bind] at h
    have ht : Address.fault? c.treasury = none := by
      cases hf : Address.fault? c.treasury
      · rfl
      · simp +contextual [validate, hp, hu, ha, hf, bind, Except.bind] at h
    cases hm : c.minPayout with
    | none => simp +contextual [validate, hp, hu, ha, ht, hm] at h
    | some m =>
      by_cases hm0 : 0 < m
      · simp +contextual [validate, hp, hu, ha, ht, hm, hm0] at h
        exact ⟨hp, hu, ha, ht, m, rfl, hm0, (Result.pure_eq_ok.mp h).symm⟩
      · simp +contextual [validate, hp, hu, ha, ht, hm, hm0] at h
  · rintro ⟨hp, hu, ha, ht, m, hm, hm0, rfl⟩
    by_cases he : c.usd = ""
    · simp [BondConfigInput.validate, hp, ha, ht, hm, hm0, he]
      rfl
    · simp [BondConfigInput.validate, hp, ha, ht, hm, hm0, he, hu he]
      rfl

theorem TermsInput.validate_eq_ok_iff {t : TermsInput} {t' : Terms} :
    t.validate = .ok t' ↔ ∃ cv mp mx md, t.controlVariable = some cv ∧ t.minimumPrice = some mp ∧
      t.maxPayout = some mx ∧ t.maxDebt = some md ∧ 0 ≤ cv.units ∧ 0 ≤ mp.units ∧ 0 ≤ mx.units ∧
      0 ≤ md ∧ 0 < t.vestingTerm ∧ t' = ⟨cv, mp, mx, md, t.vestingTerm⟩ := by
  unfold validate
  simp -zeta only [Result.throw_bind]
  dsimp only
  simp only [Result.bind_eq_ok, requireNonNegative_eq_ok]
  cases hd : t.maxDebt with
  | none => simp
  | some d =>
    by_cases hn : d < 0
    · simp [hn]
    · by_cases hv : t.vestingTerm = 0
      · simp [hn, hv]
      · simp only [hn, hv, if_false, pure_bind, Result.pure_eq_ok, Option.some.injEq]
        constructor
        · rintro ⟨cv, ⟨hcv, hcvn⟩, mp, ⟨hmp, hmpn⟩, mx, ⟨hmx, hmxn⟩, rfl⟩
          exact ⟨cv, mp, mx, d, hcv, hmp, hmx, rfl, hcvn, hmpn, hmxn, by omega, by omega, rfl⟩
        · rintro ⟨cv, mp, mx, md, hcv, hmp, hmx, rfl, hcvn, hmpn, hmxn, -, -, rfl⟩
          exact ⟨cv, ⟨hcv, hcvn⟩, mp, ⟨hmp, hmpn⟩, mx, ⟨hmx, hmxn⟩, rfl⟩

theorem StakingConfigInput.validate_eq_ok_iff {c : StakingConfigInput} {cfg : StakingConfig} :
    c.validate = .ok cfg ↔ Denom.fault? c.baseDenom = none ∧ Denom.fault? c.stakedDenom = none ∧
      c.baseDenom ≠ c.stakedDenom ∧ Address.fault? c.admin = none ∧ 0 < c.epochLength ∧
      (∀ n, c.nextEpochApr = some n → 0 ≤ n.units) ∧
      (∀ m ∈ c.minters.getD [], Address.fault? m = none) ∧
      ∃ apr, c.epochApr = some apr ∧ 0 ≤ apr.units ∧
        cfg = ⟨c.admin, c.baseDenom, c.stakedDenom, c.epochLength, apr, c.nextEpochApr,
          c.warmupLength, c.minters.getD [], c.pointsEnabled⟩ := by
  unfold validate
  simp -zeta only [Result.throw_bind]
  cases hb : Denom.fault? c.baseDenom with
  | some f => simp
  | none =>
  cases hs : Denom.fault? c.stakedDenom with
  | some f => simp
  | none =>
  by_cases he : c.baseDenom = c.stakedDenom
  · simp [he]
  cases ha : Address.fault? c.admin with
  | some f => simp [he]
  | none =>
  by_cases hl : c.epochLength = 0
  · simp [he, hl]
  cases hapr : c.epochApr with
  | none => simp [he, hl]
  | some apr =>
  by_cases hn : apr.units < 0
  · simp [he, hl, hn, not_le.mpr hn, Dec.isNegative]
  -- past the yields only the minters loop can fail, and it fails on a minter that is no address
  replace hn := not_lt.mp hn
  cases hnx : c.nextEpochApr with
  | none =>
    simp only [beq_iff_eq, he, hl, Dec.isNegative, decide_eq_true_eq, not_lt.mpr hn, if_false,
      pure_bind, Result.bind_eq_ok, Result.pure_eq_ok]
    simp [Nat.pos_iff_ne_zero, hl, he, hn]
    refine and_congr (Result.forIn_checks_eq_ok fun a r => ?_) eq_comm
    cases Address.fault? a <;> simp [pure, Except.pure, eq_comm]
  | some n =>
    by_cases hnn : n.units < 0
    · simp [he, hl, not_lt.mpr hn, hnn, not_le.mpr hnn, Dec.isNegative]
    · replace hnn := not_lt.mp hnn
      simp only [beq_iff_eq, he, hl, Dec.isNegative, decide_eq_true_eq, not_lt.mpr hn,
        not_lt.mpr hnn, if_false, pure_bind, Result.bind_eq_ok, Result.pure_eq_ok]
      simp [Nat.pos_iff_ne_zero, hl, he, hn, hnn]
      refine and_congr (Result.forIn_checks_eq_ok fun a r => ?_) eq_comm
      cases Address.fault? a <;> simp [pure, Except.pure, eq_comm]

/-! ### A checked record passes its check again -/

theorem BondConfigInput.validate_toInput {c : BondConfigInput} {cfg : BondConfig}
    (h : c.validate = .ok cfg) : cfg.toInput.validate = .ok cfg := by
  obtain ⟨hp, hu, ha, ht, m, -, hm, rfl⟩ := validate_eq_ok_iff.mp h
  exact validate_eq_ok_iff.mpr ⟨hp, hu, ha, ht, m, rfl, hm, rfl⟩

theorem TermsInput.validate_toInput {t : TermsInput} {t' : Terms} (h : t.validate = .ok t') :
    t'.toInput.validate = .ok t' := by
  obtain ⟨cv, mp, mx, md, -, -, -, -, hcv, hmp, hmx, hmd, hv, rfl⟩ := validate_eq_ok_iff.mp h
  exact validate_eq_ok_iff.mpr ⟨cv, mp, mx, md, rfl, rfl, rfl, rfl, hcv, hmp, hmx, hmd, hv, rfl⟩

theorem StakingConfigInput.validate_toInput {c : StakingConfigInput} {cfg : StakingConfig}
    (h : c.validate = .ok cfg) : cfg.toInput.validate = .ok cfg := by
  obtain ⟨hb, hs, he, ha, hl, hn, hm, apr, -, hapr, rfl⟩ := validate_eq_ok_iff.mp h
  exact validate_eq_ok_iff.mpr ⟨hb, hs, he, ha, hl, hn, hm, apr, rfl, hapr, rfl⟩

/-- Kept terms pass their check exactly when no value is negative and the vesting term is
positive. -/
theorem Terms.toInput_validate_iff {t : Terms} : t.toInput.validate = .ok t ↔
    0 ≤ t.controlVariable.units ∧ 0 ≤ t.minimumPrice.units ∧ 0 ≤ t.maxPayout.units ∧
      0 ≤ t.maxDebt ∧ 0 < t.vestingTerm := by
  simp only [TermsInput.validate_eq_ok_iff, toInput, Option.some.injEq]
  constructor
  · rintro ⟨_, _, _, _, rfl, rfl, rfl, rfl, hcv, hmp, hmx, hmd, hv, -⟩
    exact ⟨hcv, hmp, hmx, hmd, hv⟩
  · rintro ⟨hcv, hmp, hmx, hmd, hv⟩
    exact ⟨_, _, _, _, rfl, rfl, rfl, rfl, hcv, hmp, hmx, hmd, hv, rfl⟩

/-- Promoting a staged yield keeps a kept staking configuration valid: the staged yield was
checked when it was staged. -/
theorem StakingConfig.toInput_validate_promote {c : StakingConfig} {n : Dec}
    (h : c.toInput.validate = .ok c) (hn : c.nextEpochApr = some n) :
    { c with epochApr := n, nextEpochApr := none }.toInput.validate =
      .ok { c with epochApr := n, nextEpochApr := none } := by
  obtain ⟨hb, hs, he, ha, hl, hnx, hm, apr, -, -, -⟩ :=
    StakingConfigInput.validate_eq_ok_iff.mp h
  refine StakingConfigInput.validate_eq_ok_iff.mpr ⟨hb, hs, he, ha, hl, nofun, hm, n, rfl,
    hnx n hn, ?_⟩
  simp [toInput]

/-! ### What the bond handlers write into the settings -/

namespace Bond

variable {b b' : Bond}

/-- Genesis keeps the checked configuration, its minimum payout defaulting to one, and the checked
terms; the adjustment is the given one, stepped last at genesis when its time is unset, or an
inactive one. -/
theorem init_eq_ok {env : Env} {cfg : BondConfigInput} {t : TermsInput}
    {adj : Option AdjustmentInput} (h : Bond.init env cfg t adj = .ok b) :
    { cfg with minPayout := cfg.minPayout.orElse fun _ => some 1 }.validate = .ok b.config ∧
      t.validate = .ok b.terms ∧
      (∀ a, adj = some a → b.adjustment.rate = a.toAdjustment.rate ∧
        b.adjustment.target = a.toAdjustment.target) ∧
      (adj = none → b.adjustment = Adjustment.inactive env.now) := by
  simp only [init, Result.bind_eq_ok] at h
  obtain ⟨cfg', hc, t', ht, b₁, hb₁, hb⟩ := h
  rw [setDebt_eq_ok hb, setAdjustment_eq_ok hb₁]
  refine ⟨hc, ht, ?_, ?_⟩
  · rintro a rfl
    dsimp only
    split <;> exact ⟨rfl, rfl⟩
  · rintro rfl
    rfl

/-- A deposit decays the debt, may drop the minimum price to zero (floor relief), adds the payout
to the debt and to the depositor's position, and then takes one adjustment step. -/
theorem deposit_shape {o : Oracle} {s : Staking} {l : Ledger} {env : Env} {sender : String}
    {funds : Coins} {maxPrice : Option Dec} {depositor : String} {r : Response}
    (h : b.deposit o s l env sender funds maxPrice depositor = .ok (b', r)) :
    ∃ (b₂ : Bond) (amount decay payout : Int) (dep : String) (p : Position),
      oneCoin funds b.config.principal = .ok amount ∧
      decayAmount b.debt b.terms.vestingTerm env.now = .ok decay ∧
      b₂.config = b.config ∧ b₂.adjustment = b.adjustment ∧
      (b₂.terms = b.terms ∨ b₂.terms = { b.terms with minimumPrice := Dec.zero }) ∧
      b₂.debt.outstandingDebt = b.debt.outstandingDebt - decay + payout ∧
      p.payout = (b.positions.getD dep ⟨0, Dec.zero, 0, default⟩).payout + payout ∧
      b₂.positions = b.positions.insert dep p ∧
      b₂.stepAdjustment env = .ok b' ∧
      r.effects = [.send bondAccount b.config.treasury [Coin.of b.config.principal amount],
        .execute [] (.mint bondAccount (some payout))] := by
  unfold deposit at h
  -- a failed check throws; dropping those branches first keeps the rest of the block unshared
  simp -zeta only [Result.throw_bind] at h
  dsimp only at h
  rw [Result.bind_eq_ok] at h
  obtain ⟨amount, hamt, h⟩ := h
  split at h
  · cases h
  cases maxPrice with
  | none => cases h
  | some maxPrice =>
    rw [Result.bind_eq_ok] at h
    obtain ⟨decay, hdecay, h⟩ := h
    rw [Result.bind_eq_ok] at h
    obtain ⟨debt, hdebt, h⟩ := h
    rw [Result.bind_eq_ok] at h
    obtain ⟨b₁, hb₁, h⟩ := h
    rw [Result.ite_error_eq_ok] at h
    obtain ⟨-, h⟩ := h
    rw [Result.bind_eq_ok] at h
    obtain ⟨ratio, -, h⟩ := h
    rw [Result.bind_eq_ok] at h
    obtain ⟨raw, -, h⟩ := h
    -- floor relief may drop the minimum price; either way the bond is otherwise the decayed one
    generalize hrel : (if raw < b₁.terms.minimumPrice then (b₁, b₁.terms.minimumPrice)
      else if (b.config.floorRelief && !b₁.terms.minimumPrice.isZero) = true then
        ({ b₁ with terms := { b₁.terms with minimumPrice := Dec.zero } }, raw)
      else (b₁, raw)) = bp at h
    obtain ⟨hcfg, hadj, hdebt₁, hpos, hterms⟩ : bp.1.config = b.config ∧
        bp.1.adjustment = b.adjustment ∧ bp.1.debt.outstandingDebt = debt ∧
        bp.1.positions = b.positions ∧
        (bp.1.terms = b.terms ∨ bp.1.terms = { b.terms with minimumPrice := Dec.zero }) := by
      obtain rfl := setDebt_eq_ok hb₁
      subst hrel
      split_ifs
      exacts [⟨rfl, rfl, rfl, rfl, .inl rfl⟩, ⟨rfl, rfl, rfl, rfl, .inr rfl⟩, ⟨rfl, rfl, rfl, rfl, .inl rfl⟩]
    clear hrel
    rw [Result.ite_error_eq_ok] at h
    obtain ⟨-, h⟩ := h
    by_cases hu : b.config.usd.isEmpty = true
    on_goal 1 => rw [if_pos hu] at h
    on_goal 2 =>
      rw [if_neg hu, Result.bind_eq_ok] at h
      obtain ⟨_, -, h⟩ := h
    all_goals
      rw [Result.bind_eq_ok] at h
      obtain ⟨pricePaid, -, h⟩ := h
      rw [Result.bind_eq_ok] at h
      obtain ⟨payout, -, h⟩ := h
      rw [Result.ite_error_eq_ok] at h
      obtain ⟨-, h⟩ := h
      rw [Result.bind_eq_ok] at h
      obtain ⟨cap, -, h⟩ := h
      rw [Result.ite_error_eq_ok] at h
      obtain ⟨-, h⟩ := h
      simp only [Result.bind_eq_ok, Result.pure_eq_ok, Prod.mk.injEq] at h
      obtain ⟨debt', hdebt', b₂, hb₂, x, hx, b₃, hb₃, b₄, hb₄, rfl, rfl⟩ := h
      obtain rfl := setDebt_eq_ok hb₂
      obtain rfl := setPosition_eq_ok hb₃
      refine ⟨_, amount, decay, payout, if depositor.isEmpty = true then sender else depositor,
        ⟨x, pricePaid, b₁.terms.vestingTerm, env.now⟩, hamt, hdecay,
        ?_, ?_, ?_, ?_, ?_, ?_, hb₄, rfl⟩
      · exact hcfg
      · exact hadj
      · exact hterms
      · have := (Int256.checked_eq_ok.mp hdebt).2
        have := (Int256.checked_eq_ok.mp hdebt').2
        dsimp only
        omega
      · rw [← (Int256.checked_eq_ok.mp hx).2]
        dsimp only
        rw [hpos]
      · dsimp only
        rw [hpos]

/-- An adjustment step either leaves the bond alone, or moves the control variable and restarts
the adjustment at the block time with its rate or with none. A step up adds the rate; a step down
never goes below zero. -/
theorem stepAdjustment_eq_ok {env : Env} (h : b.stepAdjustment env = .ok b') :
    b' = b ∨ ∃ cv rate, b' = { b with
        terms := { b.terms with controlVariable := cv }
        adjustment := { b.adjustment with rate := rate, lastTime := env.now } } ∧
      (rate = b.adjustment.rate ∨ rate = Dec.zero) ∧
      (b.adjustment.add = true → cv.units = b.terms.controlVariable.units + b.adjustment.rate.units) ∧
      (b.adjustment.add = false → 0 ≤ cv.units) := by
  unfold stepAdjustment at h
  dsimp only at h
  split at h
  · cases h
    exact .inl rfl
  right
  -- the step up, the step down, and the step down that would pass zero
  split at h
  on_goal 2 => split at h
  all_goals
    simp only [Result.bind_eq_ok, Result.pure_eq_ok] at h
    obtain ⟨cv, hcv, _, rfl, h⟩ := h
    refine ⟨cv, _, setAdjustment_eq_ok h, by split_ifs <;> simp, ?_, ?_⟩
  · obtain ⟨-, rfl⟩ := Dec.checked_eq_ok.mp hcv
    exact fun _ => rfl
  · intro hadd
    simp_all
  · intro hadd
    simp_all
  · rename_i _ hgt
    obtain ⟨-, rfl⟩ := Dec.checked_eq_ok.mp hcv
    intro _
    change b.adjustment.rate.units < b.terms.controlVariable.units at hgt
    dsimp only
    omega
  · intro hadd
    simp_all
  · obtain rfl := hcv
    exact fun _ => le_rfl

theorem redeem_frame {s : Staking} {env : Env} {sender recipient : String} {stake : Bool}
    {r : Response} (h : b.redeem s env sender recipient stake = .ok (b', r)) :
    ∃ ps, b' = { b with positions := ps } := by
  unfold redeem at h
  simp -zeta only [Result.throw_bind] at h
  dsimp only at h
  cases hpos : b.positions.get? (if recipient.isEmpty = true then sender else recipient) with
  | none =>
    rw [hpos] at h
    cases h
  | some pos =>
    rw [hpos] at h
    dsimp only at h
    by_cases hf : pos.fullyVested env.now = true
    · rw [if_pos hf] at h
      simp only [pure_bind, Result.pure_eq_ok, Prod.mk.injEq] at h
      exact ⟨_, h.1.symm⟩
    · rw [if_neg hf, Result.bind_eq_ok] at h
      obtain ⟨delivered, -, h⟩ := h
      rw [Result.ite_error_eq_ok] at h
      obtain ⟨-, h⟩ := h
      simp only [Result.bind_eq_ok, pure_bind, Result.pure_eq_ok, Prod.mk.injEq] at h
      obtain ⟨left, -, b₁, hb₁, rfl, -⟩ := h
      exact ⟨_, setPosition_eq_ok hb₁⟩

end Bond

/-! ### What the staking handlers write into the configuration -/

namespace Staking

variable {s s' : Staking}

theorem init_config {env : Env} {g : StakingGenesis} (h : Staking.init env g = .ok s) :
    g.config.validate = .ok s.config := by
  simp only [init, Result.bind_eq_ok] at h
  obtain ⟨cfg, hc, he⟩ := h
  rw [setEpoch_eq_ok he]
  exact hc

theorem rebase_state {l : Ledger} {env : Env} {r : Response} (h : s.rebase l env = .ok (s', r)) :
    ∃ e cfg, s' = { s with epoch := e, config := cfg } ∧
      (cfg = s.config ∨ ∃ n, s.config.nextEpochApr = some n ∧
        cfg = { s.config with epochApr := n, nextEpochApr := none }) := by
  unfold rebase at h
  split at h
  · simp only [Result.pure_eq_ok, Prod.mk.injEq] at h
    obtain ⟨rfl, -⟩ := h
    exact ⟨s.epoch, s.config, rfl, .inl rfl⟩
  dsimp only at h
  split at h
  · cases h
  simp only [Result.bind_eq_ok, Result.pure_eq_ok, Prod.mk.injEq] at h
  obtain ⟨balance, -, amount, -, s₁, hs₁, rfl, -⟩ := h
  obtain rfl := setEpoch_eq_ok hs₁
  split
  · rename_i n hn
    exact ⟨_, _, rfl, .inr ⟨n, hn, rfl⟩⟩
  · exact ⟨_, _, rfl, .inl rfl⟩

theorem updateConfig_state {sender : String} {u : StakingConfigUpdate} {r : Response}
    (h : s.updateConfig sender u = .ok (s', r)) :
    ∃ (c : StakingConfigInput) (cfg : StakingConfig), c.validate = .ok cfg ∧
      s' = { s with config := cfg } := by
  unfold updateConfig at h
  by_cases ha : (sender != s.config.admin) = true
  · rw [if_pos ha] at h
    cases h
  simp only [ha, Bool.false_eq_true, if_false, Result.bind_eq_ok, Result.pure_eq_ok,
    Prod.mk.injEq] at h
  obtain ⟨cfg, hv, rfl, -⟩ := h
  exact ⟨_, cfg, hv, rfl⟩

end Staking

/-! ### Prices -/

namespace Oracle

variable {o o' : Oracle}

def PricesPositive (o : Oracle) : Prop := ∀ d e, o.prices.get? d = some e → 0 < e.price.units

theorem setPrice_eq_ok {env : Env} {p : PriceFeed} (h : o.setPrice env p = .ok o') :
    ∃ d, p.price = some d ∧ 0 < d.units ∧
      o' = { o with prices := o.prices.insert p.denom ⟨d, env.now⟩ } := by
  unfold setPrice at h
  simp -zeta only [Result.throw_bind] at h
  dsimp only at h
  cases hp : p.price with
  | none =>
    rw [hp] at h
    cases h
  | some d =>
    rw [hp] at h
    dsimp only at h
    split at h
    · rename_i hd
      simp only [Result.bind_eq_ok, pure_bind, Result.pure_eq_ok] at h
      obtain ⟨_, -, rfl⟩ := h
      exact ⟨d, rfl, by simpa [Dec.isPositive] using hd, rfl⟩
    · cases h

theorem PricesPositive.setPrice {env : Env} {p : PriceFeed} (ho : o.PricesPositive)
    (h : o.setPrice env p = .ok o') : o'.PricesPositive := by
  obtain ⟨d, -, hd, rfl⟩ := setPrice_eq_ok h
  intro a e he
  by_cases ha : a = p.denom
  · subst ha
    rw [KeyMap.get?_insert_self] at he
    cases he
    exact hd
  · rw [KeyMap.get?_insert_of_ne _ _ (Ne.symm ha)] at he
    exact ho a e he

theorem init_pricesPositive {env : Env} {g : OracleGenesis} (h : Oracle.init env g = .ok o) :
    o.PricesPositive := by
  unfold init at h
  refine Result.foldlM_preserves (fun hs ho => ho.setPrice hs) h ?_
  -- registering feeders leaves the prices empty
  intro a e he
  have hp : ((g.feeders.getD []).foldl (fun o f => { o with feeders := o.feeders.insert f.denom f.feeder })
      ({ config := g.config } : Oracle)).prices = KeyMap.empty := by
    generalize g.feeders.getD [] = fs
    suffices ∀ (o : Oracle), o.prices = KeyMap.empty → (fs.foldl (fun o f =>
        { o with feeders := o.feeders.insert f.denom f.feeder }) o).prices = KeyMap.empty from
      this _ rfl
    induction fs with
    | nil => exact fun o ho => ho
    | cons f fs ih => exact fun o ho => ih _ ho
  rw [hp] at he
  cases he

theorem PricesPositive.feedPrice {env : Env} {sender : String} {prices : List PriceFeed}
    {r : Response} (ho : o.PricesPositive) (h : o.feedPrice env sender prices = .ok (o', r)) :
    o'.PricesPositive := by
  unfold Oracle.feedPrice at h
  split at h
  · cases h
  refine Result.foldlM_preserves (P := fun p : Oracle × Response => p.1.PricesPositive) ?_ h ho
  rintro ⟨o₁, r₁⟩ p b' hstep hr
  simp -zeta only [Result.throw_bind] at hstep
  dsimp only at hstep
  rw [Result.ite_error_eq_ok] at hstep
  obtain ⟨o₂, ho₂, he⟩ := Result.bind_eq_ok.mp hstep.2
  rw [Result.pure_eq_ok] at he
  exact he ▸ hr.setPrice ho₂

end Oracle

end Bonding

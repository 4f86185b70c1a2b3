import Mathlib
import Bonding.Proofs.Ledger
import Bonding.Bond.Contract
set_option autoImplicit false

/-!
What each bond handler does to the positions when it succeeds, and which effects it emits. A
deposit adds its payout to the depositor's position and asks staking to mint that payout to the
bond account; a redemption takes what has vested out of a position, at most its payout, and sends
or stakes it for the recipient; the admin updates leave the positions alone and emit nothing.
-/

namespace Bonding

/-- Before the end of vesting a position of non-negative payout releases the share of its payout
that the elapsed seconds are of the time left, rounded down. -/
theorem Position.pendingPayout_eq {p : Position} {now : Instant} {x : Int}
    (h : p.pendingPayout now = .ok x) (hv : p.fullyVested now = false) (hp : 0 ≤ p.payout) :
    x = p.payout * p.lastTime.elapsed now / p.vestingTimeLeft := by
  unfold Position.pendingPayout at h
  rw [if_neg (by simp [hv]), Result.bind_eq_ok] at h
  obtain ⟨y, hy, h⟩ := h
  obtain ⟨-, rfl⟩ := Int256.checked_eq_ok.mp hy
  unfold Int256.quo at h
  split at h
  · cases h
  cases h
  exact Int.tdiv_eq_ediv_of_nonneg (Int.mul_nonneg hp (Int.natCast_nonneg _))

theorem Position.pendingPayout_le {p : Position} {now : Instant} {x : Int}
    (h : p.pendingPayout now = .ok x) (hp : 0 ≤ p.payout) : 0 ≤ x ∧ x ≤ p.payout := by
  cases hv : p.fullyVested now
  · rw [pendingPayout_eq h hv hp]
    have hlt : p.lastTime.elapsed now < p.vestingTimeLeft := by
      simpa [Position.fullyVested] using hv
    have he : (0 : Int) ≤ p.lastTime.elapsed now := Int.natCast_nonneg _
    have hvp : (0 : Int) < p.vestingTimeLeft := by omega
    refine ⟨Int.ediv_nonneg (Int.mul_nonneg hp he) hvp.le, ?_⟩
    rw [Int.ediv_le_iff_le_mul hvp]
    have hle : p.payout * (p.lastTime.elapsed now : Int) ≤ p.payout * p.vestingTimeLeft :=
      Int.mul_le_mul_of_nonneg_left (by exact_mod_cast hlt.le) hp
    omega
  · simp only [Position.pendingPayout, hv, if_true] at h
    cases h
    exact ⟨hp, le_rfl⟩

namespace Bond

variable {b b' : Bond}

theorem setDebt_eq_ok {d : DebtState} (h : b.setDebt d = .ok b') : b' = { b with debt := d } := by
  simp only [setDebt, Result.bind_eq_ok, Result.pure_eq_ok] at h
  obtain ⟨-, -, rfl⟩ := h
  rfl

theorem setAdjustment_eq_ok {a : Adjustment} (h : b.setAdjustment a = .ok b') :
    b' = { b with adjustment := a } := by
  simp only [setAdjustment, Result.bind_eq_ok, Result.pure_eq_ok] at h
  obtain ⟨-, -, rfl⟩ := h
  rfl

theorem setPosition_eq_ok {a : String} {p : Position} (h : b.setPosition a p = .ok b') :
    b' = { b with positions := b.positions.insert a p } := by
  simp only [setPosition, Result.bind_eq_ok, Result.pure_eq_ok] at h
  obtain ⟨-, -, rfl⟩ := h
  rfl

theorem stepAdjustment_positions {env : Env} (h : b.stepAdjustment env = .ok b') :
    b'.positions = b.positions := by
  unfold stepAdjustment at h
  dsimp only at h
  split at h
  · cases h
    rfl
  -- the control variable moves up, down, or drops to zero; each way only the terms change
  split at h
  on_goal 2 => split at h
  all_goals
    simp only [Result.bind_eq_ok, Result.pure_eq_ok] at h
    obtain ⟨_, -, _, -, h⟩ := h
    rw [setAdjustment_eq_ok h]

/-- A deposit takes one coin of the principal, adds the payout it buys, at least the minimum
payout, to the depositor's position, restarting its vesting term at the block time, and emits two
effects: the principal goes on to the treasury, and a call asks staking to mint the payout to the
bond account. -/
theorem deposit_eq_ok {o : Oracle} {s : Staking} {l : Ledger} {env : Env} {sender : String}
    {funds : Coins} {maxPrice : Option Dec} {depositor : String} {r : Response}
    (h : b.deposit o s l env sender funds maxPrice depositor = .ok (b', r)) :
    ∃ amount payout dep p, oneCoin funds b.config.principal = .ok amount ∧
      p.payout = (b.positions.getD dep ⟨0, Dec.zero, 0, default⟩).payout + payout ∧
      b'.positions = b.positions.insert dep p ∧
      dep = (if depositor.isEmpty = true then sender else depositor) ∧
      p.vestingTimeLeft = b.terms.vestingTerm ∧ p.lastTime = env.now ∧
      b.config.minPayout ≤ payout ∧
      r.effects = [.send bondAccount b.config.treasury [Coin.of b.config.principal amount],
        .execute [] (.mint bondAccount (some payout))] := by
  unfold deposit at h
  -- a failed check throws; dropping those branches first keeps the rest of the block unshared
  simp -zeta only [Result.throw_bind] at h
  dsimp only at h
  rw [Result.bind_eq_ok] at h
  obtain ⟨amount, hamt, h⟩ := h
  split at h
  · cases h
  cases maxPrice with
  | none => cases h
  | some maxPrice =>
    rw [Result.bind_eq_ok] at h
    obtain ⟨decay, -, h⟩ := h
    rw [Result.bind_eq_ok] at h
    obtain ⟨debt, -, h⟩ := h
    rw [Result.bind_eq_ok] at h
    obtain ⟨b₁, hb₁, h⟩ := h
    rw [Result.ite_error_eq_ok] at h
    obtain ⟨-, h⟩ := h
    rw [Result.bind_eq_ok] at h
    obtain ⟨ratio, -, h⟩ := h
    rw [Result.bind_eq_ok] at h
    obtain ⟨raw, -, h⟩ := h
    rw [Result.ite_error_eq_ok] at h
    obtain ⟨-, h⟩ := h
    by_cases hu : b.config.usd.isEmpty = true
    on_goal 1 => rw [if_pos hu] at h
    on_goal 2 =>
      rw [if_neg hu, Result.bind_eq_ok] at h
      obtain ⟨_, -, h⟩ := h
    all_goals
      rw [Result.bind_eq_ok] at h
      obtain ⟨pricePaid, -, h⟩ := h
      rw [Result.bind_eq_ok] at h
      obtain ⟨payout, -, h⟩ := h
      rw [Result.ite_error_eq_ok] at h
      obtain ⟨hmin, h⟩ := h
      rw [Result.bind_eq_ok] at h
      obtain ⟨cap, -, h⟩ := h
      rw [Result.ite_error_eq_ok] at h
      obtain ⟨-, h⟩ := h
      simp only [Result.bind_eq_ok, Result.pure_eq_ok, Prod.mk.injEq] at h
      obtain ⟨debt', -, b₂, hb₂, x, hx, b₃, hb₃, b₄, hb₄, rfl, rfl⟩ := h
      -- every bond the block passes through keeps the positions it started with
      have hp₁ : b₁.positions = b.positions := by rw [setDebt_eq_ok hb₁]
      have hp₂ : b₂.positions = b.positions := by
        rw [setDebt_eq_ok hb₂, ← hp₁]
        split_ifs <;> rfl
      rw [hp₂] at hx
      refine ⟨amount, payout, _, ⟨x, pricePaid, b₁.terms.vestingTerm, env.now⟩, hamt,
        (Int256.checked_eq_ok.mp hx).2.symm, ?_, rfl, ?_, rfl, not_lt.mp hmin, rfl⟩
      · rw [stepAdjustment_positions hb₄, setPosition_eq_ok hb₃, hp₂]
      · rw [setDebt_eq_ok hb₁]

/-- A redemption reads the recipient's position. Once it has fully vested the position is removed
and its whole payout delivered; before, what is pending is delivered, if anything is, and the
position keeps the rest and the rest of its term from the block time. A positive delivery is sent
to the recipient, or staked for it. -/
theorem redeem_eq_ok {s : Staking} {env : Env} {sender recipient : String} {stake : Bool}
    {r : Response} (h : b.redeem s env sender recipient stake = .ok (b', r)) :
    ∃ rcp pos delivered, rcp = (if recipient.isEmpty = true then sender else recipient) ∧
      b.positions.get? rcp = some pos ∧
      ((pos.fullyVested env.now = true ∧ delivered = pos.payout ∧
          b'.positions = b.positions.erase rcp) ∨
        (pos.fullyVested env.now = false ∧ pos.pendingPayout env.now = .ok delivered ∧
          delivered ≠ 0 ∧ b'.positions = b.positions.insert rcp ⟨pos.payout - delivered,
            pos.pricePaid, pos.vestingTimeLeft - pos.lastTime.elapsed env.now, env.now⟩)) ∧
      r.effects = if delivered > 0 then
          (if stake then [.execute [Coin.of s.config.baseDenom delivered] (.stake rcp)]
           else [.send bondAccount rcp [Coin.of s.config.baseDenom delivered]])
        else [] := by
  unfold redeem at h
  simp -zeta only [Result.throw_bind] at h
  dsimp only at h
  cases hpos : b.positions.get? (if recipient.isEmpty = true then sender else recipient) with
  | none =>
    rw [hpos] at h
    cases h
  | some pos =>
    rw [hpos] at h
    dsimp only at h
    by_cases hf : pos.fullyVested env.now = true
    · rw [if_pos hf] at h
      simp only [pure_bind, Result.pure_eq_ok, Prod.mk.injEq] at h
      obtain ⟨rfl, rfl⟩ := h
      exact ⟨_, pos, _, rfl, hpos, .inl ⟨hf, rfl, rfl⟩, rfl⟩
    · rw [if_neg hf, Result.bind_eq_ok] at h
      obtain ⟨delivered, hd, h⟩ := h
      rw [Result.ite_error_eq_ok] at h
      obtain ⟨hd0, h⟩ := h
      simp only [Result.bind_eq_ok, pure_bind, Result.pure_eq_ok, Prod.mk.injEq] at h
      obtain ⟨left, hl, b₁, hb₁, rfl, rfl⟩ := h
      refine ⟨_, pos, delivered, rfl, hpos, .inr ⟨by simpa using hf, hd, hd0, ?_⟩, rfl⟩
      rw [setPosition_eq_ok hb₁, (Int256.checked_eq_ok.mp hl).2]

theorem updateTerms_eq_ok {sender : String} {t : TermsInput} {r : Response}
    (h : b.updateTerms sender t = .ok (b', r)) : b'.positions = b.positions ∧ r.effects = [] := by
  simp only [updateTerms, Result.bind_eq_ok, Result.pure_eq_ok, Prod.mk.injEq] at h
  obtain ⟨_, -, _, -, rfl, rfl⟩ := h
  exact ⟨rfl, rfl⟩

theorem updateConfig_eq_ok {sender : String} {u : BondConfigUpdate} {r : Response}
    (h : b.updateConfig sender u = .ok (b', r)) : b'.positions = b.positions ∧ r.effects = [] := by
  simp only [updateConfig, Result.bind_eq_ok, Result.pure_eq_ok, Prod.mk.injEq] at h
  obtain ⟨_, -, _, -, rfl, rfl⟩ := h
  exact ⟨rfl, rfl⟩

theorem updateAdjustment_eq_ok {env : Env} {sender : String} {u : AdjustmentUpdate} {r : Response}
    (h : b.updateAdjustment env sender u = .ok (b', r)) :
    b'.positions = b.positions ∧ r.effects = [] := by
  unfold updateAdjustment at h
  simp -zeta only [Result.throw_bind] at h
  dsimp only at h
  rw [Result.bind_eq_ok] at h
  obtain ⟨_, -, h⟩ := h
  rw [Result.ite_error_eq_ok] at h
  obtain ⟨-, h⟩ := h
  simp only [Result.bind_eq_ok, Result.pure_eq_ok, Prod.mk.injEq] at h
  obtain ⟨b₁, hb₁, rfl, rfl⟩ := h
  rw [setAdjustment_eq_ok hb₁]
  exact ⟨rfl, rfl⟩

theorem updateTerms_state {sender : String} {t : TermsInput} {r : Response}
    (h : b.updateTerms sender t = .ok (b', r)) :
    ∃ t', t.validate = .ok t' ∧ b' = { b with terms := t' } ∧ r.effects = [] := by
  simp only [updateTerms, Result.bind_eq_ok, Result.pure_eq_ok, Prod.mk.injEq] at h
  obtain ⟨_, -, t', ht, rfl, rfl⟩ := h
  exact ⟨t', ht, rfl, rfl⟩

theorem updateConfig_state {sender : String} {u : BondConfigUpdate} {r : Response}
    (h : b.updateConfig sender u = .ok (b', r)) :
    ∃ (c : BondConfigInput) (cfg : BondConfig), c.validate = .ok cfg ∧ b' = { b with config := cfg } ∧
      r.effects = [] := by
  simp only [updateConfig, Result.bind_eq_ok, Result.pure_eq_ok, Prod.mk.injEq] at h
  obtain ⟨_, -, cfg, hc, rfl, rfl⟩ := h
  exact ⟨_, cfg, hc, rfl, rfl⟩

theorem updateAdjustment_state {env : Env} {sender : String} {u : AdjustmentUpdate} {r : Response}
    (h : b.updateAdjustment env sender u = .ok (b', r)) :
    ∃ a : Adjustment, b' = { b with adjustment := a } ∧ a.rate.isNegative = false ∧
      a.target.isNegative = false ∧ r.effects = [] := by
  unfold updateAdjustment at h
  simp -zeta only [Result.throw_bind] at h
  dsimp only at h
  rw [Result.bind_eq_ok] at h
  obtain ⟨_, -, h⟩ := h
  rw [Result.ite_error_eq_ok] at h
  obtain ⟨hneg, h⟩ := h
  simp only [Bool.or_eq_true, not_or, Bool.not_eq_true] at hneg
  simp only [Result.bind_eq_ok, Result.pure_eq_ok, Prod.mk.injEq] at h
  obtain ⟨b₁, hb₁, rfl, rfl⟩ := h
  exact ⟨_, setAdjustment_eq_ok hb₁, hneg.1, hneg.2, rfl⟩

end Bond

end Bonding

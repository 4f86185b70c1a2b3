import Mathlib
import Bonding.Proofs.Configured
import Bonding.Proofs.Gauges
set_option autoImplicit false

/-!
The bond's debt stays within the payout supply. A deposit adds its payout to the debt in the same
call that has staking mint that payout, so the payout supply grows with the debt; decay only
lowers the debt, and nothing burns the payout token, whose supply therefore never falls. With the
debt between zero and the supply, the debt ratio lies between zero and one and the bond price is at
most the larger of the control variable and the minimum price.
-/

namespace Bonding

/-! ### Rounding, decay and price -/

theorem Dec.roundNat_le {n k : Nat} (h : n ≤ k * Dec.scale) : Dec.roundNat n ≤ k := by
  have hs := Dec.scale_pos
  have hq : n / Dec.scale ≤ k := Nat.div_le_of_le_mul (by rwa [Nat.mul_comm])
  unfold Dec.roundNat
  dsimp only
  by_cases hqk : n / Dec.scale < k
  · split_ifs <;> omega
  -- a quotient of exactly `k` leaves no remainder to round up
  have hqk : n / Dec.scale = k := by omega
  have hr : n % Dec.scale = 0 := by
    have := Nat.div_add_mod n Dec.scale
    rw [hqk, Nat.mul_comm] at this
    omega
  simp [hqk, hr, hs]

theorem Dec.roundUnits_le {x k : Int} (hk : 0 ≤ k) (h : x ≤ k * Dec.scale) :
    Dec.roundUnits x ≤ k := by
  unfold Dec.roundUnits
  split
  · exact le_trans (neg_nonpos.mpr (Int.natCast_nonneg _)) hk
  · have hn : x.natAbs ≤ k.toNat * Dec.scale := by
      have : (x.natAbs : Int) ≤ (k.toNat : Int) * (Dec.scale : Int) := by
        rw [Int.natAbs_of_nonneg (by omega), Int.toNat_of_nonneg hk]
        exact h
      exact_mod_cast this
    have := Dec.roundNat_le hn
    omega

theorem Dec.roundUnits_nonpos {x : Int} (h : x ≤ 0) : Dec.roundUnits x ≤ 0 := by
  unfold Dec.roundUnits
  split
  · exact neg_nonpos.mpr (Int.natCast_nonneg _)
  · have : x.natAbs = 0 := by omega
    simp [this, Dec.roundNat]

theorem decayAmount_eq_ok {d : DebtState} {vt : Nat} {now : Instant} {x : Int}
    (h : decayAmount d vt now = .ok x) (hd : 0 ≤ d.outstandingDebt) :
    0 ≤ x ∧ x ≤ d.outstandingDebt := by
  unfold decayAmount at h
  simp -zeta only [Result.throw_bind] at h
  split at h
  · cases h
  dsimp only at h
  rw [Result.bind_eq_ok] at h
  obtain ⟨y, hy, h⟩ := h
  obtain ⟨-, rfl⟩ := Int256.checked_eq_ok.mp hy
  rw [Result.bind_eq_ok] at h
  obtain ⟨q, hq, h⟩ := h
  rw [Result.pure_eq_ok] at h
  subst h
  unfold Int256.quo at hq
  split at hq
  · cases hq
  cases hq
  have he : (0 : Int) ≤ d.lastDecayTime.elapsed now := Int.natCast_nonneg _
  have hq : 0 ≤ (d.outstandingDebt * (d.lastDecayTime.elapsed now : Int)).tdiv vt :=
    Int.tdiv_nonneg (Int.mul_nonneg hd he) (Int.natCast_nonneg _)
  exact ⟨le_min hq hd, min_le_right _ _⟩

/-- At a debt ratio between zero and one, the price is at most the larger of the control variable
and the minimum price, once the minimum price is not negative. -/
theorem currentPrice_le {t : Terms} {ratio p : Dec} (h : currentPrice t ratio = .ok p)
    (hr0 : 0 ≤ ratio.units) (hr1 : ratio.units ≤ Dec.one.units) (hmp : 0 ≤ t.minimumPrice.units) :
    p.units ≤ max t.controlVariable.units t.minimumPrice.units := by
  unfold currentPrice at h
  rw [Result.bind_eq_ok] at h
  obtain ⟨q, hq, h⟩ := h
  rw [Result.pure_eq_ok] at h
  subst h
  obtain ⟨-, rfl⟩ := Dec.checked_eq_ok.mp hq
  split
  · exact le_max_right _ _
  -- the rounded product stays below the control variable, or below zero when that is negative
  simp only [Dec.one] at hr1
  by_cases hcv : 0 ≤ t.controlVariable.units
  · have hle : t.controlVariable.units * ratio.units ≤ t.controlVariable.units * Dec.scale :=
      Int.mul_le_mul_of_nonneg_left hr1 hcv
    exact le_max_of_le_left (Dec.roundUnits_le hcv hle)
  · have hle : t.controlVariable.units * ratio.units ≤ 0 :=
      Int.mul_nonpos_of_nonpos_of_nonneg (by omega) hr0
    exact le_max_of_le_right ((Dec.roundUnits_nonpos hle).trans hmp)

namespace Bond

variable {b b' : Bond}

theorem currentDebt_eq_ok {env : Env} {x : Int} (h : b.currentDebt env = .ok x)
    (hd : 0 ≤ b.debt.outstandingDebt) : 0 ≤ x ∧ x ≤ b.debt.outstandingDebt := by
  unfold currentDebt debtDecay at h
  rw [Result.bind_eq_ok] at h
  obtain ⟨y, hy, h⟩ := h
  obtain ⟨-, rfl⟩ := Int256.checked_eq_ok.mp h
  have := decayAmount_eq_ok hy hd
  omega

theorem debtRatio_eq_ok {s : Staking} {l : Ledger} {env : Env} {r : Dec}
    (h : b.debtRatio s l env = .ok r) (hd : 0 ≤ b.debt.outstandingDebt)
    (hs : b.debt.outstandingDebt ≤ payoutSupply s l) : 0 ≤ r.units ∧ r.units ≤ Dec.one.units := by
  unfold debtRatio at h
  rw [Result.bind_eq_ok] at h
  obtain ⟨x, hx, h⟩ := h
  obtain ⟨hx0, hxd⟩ := currentDebt_eq_ok hx hd
  dsimp only at h
  split at h
  · cases h
    simp [Dec.zero, Dec.one]
  have hsc : (0 : Int) < Dec.scale := by exact_mod_cast Dec.scale_pos
  have hsup : 0 < payoutSupply s l := by omega
  unfold Dec.quoTruncate at h
  rw [if_neg (by simp only [Dec.ofInt]; positivity)] at h
  obtain ⟨-, rfl⟩ := Dec.checked_eq_ok.mp h
  simp only [Dec.ofInt, Dec.one]
  -- the ratio is `x * scale / supply` with the digits past the eighteenth dropped
  have hnum : 0 ≤ x * Dec.scale * Dec.scale := by positivity
  have hden : 0 < payoutSupply s l * Dec.scale := by positivity
  rw [Int.tdiv_eq_ediv_of_nonneg hnum]
  refine ⟨Int.ediv_nonneg hnum hden.le, Int.ediv_le_of_le_mul hden ?_⟩
  calc x * Dec.scale * Dec.scale ≤ payoutSupply s l * Dec.scale * Dec.scale := by gcongr; omega
    _ = Dec.scale * (payoutSupply s l * Dec.scale) := by ring

theorem bondPrice_le {s : Staking} {l : Ledger} {env : Env} {p : Dec}
    (h : b.bondPrice s l env = .ok p) (hd : 0 ≤ b.debt.outstandingDebt)
    (hs : b.debt.outstandingDebt ≤ payoutSupply s l) (hmp : 0 ≤ b.terms.minimumPrice.units) :
    p.units ≤ max b.terms.controlVariable.units b.terms.minimumPrice.units := by
  unfold bondPrice at h
  rw [Result.bind_eq_ok] at h
  obtain ⟨r, hr, h⟩ := h
  obtain ⟨hr0, hr1⟩ := debtRatio_eq_ok hr hd hs
  exact currentPrice_le h hr0 hr1 hmp

/-! ### What the handlers do to the debt -/

theorem stepAdjustment_debt {env : Env} (h : b.stepAdjustment env = .ok b') :
    b'.debt = b.debt ∧ b'.terms.minimumPrice = b.terms.minimumPrice := by
  rcases stepAdjustment_eq_ok h with rfl | ⟨cv, rate, rfl, -⟩ <;> exact ⟨rfl, rfl⟩

/-- A deposit decays the debt by at most the debt, adds the payout that it asks staking to mint,
and leaves the minimum price or drops it to zero. -/
theorem deposit_debt {o : Oracle} {s : Staking} {l : Ledger} {env : Env} {sender : String}
    {funds : Coins} {maxPrice : Option Dec} {depositor : String} {r : Response}
    (h : b.deposit o s l env sender funds maxPrice depositor = .ok (b', r))
    (hd : 0 ≤ b.debt.outstandingDebt) :
    ∃ amount decay payout, oneCoin funds b.config.principal = .ok amount ∧ 0 ≤ decay ∧
      decay ≤ b.debt.outstandingDebt ∧
      b'.debt.outstandingDebt = b.debt.outstandingDebt - decay + payout ∧
      (b'.terms.minimumPrice = b.terms.minimumPrice ∨ b'.terms.minimumPrice = Dec.zero) ∧
      r.effects = [.send bondAccount b.config.treasury [Coin.of b.config.principal amount],
        .execute [] (.mint bondAccount (some payout))] := by
  obtain ⟨b₂, amount, decay, payout, -, -, hamt, hdecay, -, -, hterms, hdebt, -, -, hstep, he⟩ :=
    deposit_shape h
  obtain ⟨hd', hmp⟩ := stepAdjustment_debt hstep
  obtain ⟨h0, hle⟩ := decayAmount_eq_ok hdecay hd
  refine ⟨amount, decay, payout, hamt, h0, hle, hd' ▸ hdebt, ?_, he⟩
  rw [hmp]
  rcases hterms with hterms | hterms <;> rw [hterms]
  exacts [.inl rfl, .inr rfl]

end Bond

/-! ### Calls keep the debt within the supply -/

def Effect.burned? : Effect → Option String
  | .burn _ coin => some coin.denom
  | _ => none

theorem Ledger.supplyOf_le_mint {l l' : Ledger} {c : Coin} {a : String} (h : l.mint c a = .ok l')
    (d : String) : l.supplyOf d ≤ l'.supplyOf d := by
  obtain ⟨x, hx, -⟩ := Ledger.mint_eq_ok h
  obtain ⟨hc, hx0⟩ := Ledger.checkCoin_eq_ok hx
  rw [Ledger.supplyOf_mint h, hc, Option.getD_some]
  split <;> omega

namespace World

variable {w w₁ w₂ w' : World}

def debtMargin (w : World) : Int :=
  Bond.payoutSupply w.staking w.ledger - w.bond.debt.outstandingDebt

/-- What a call keeps of the bound from `w` to `w'`, when the payout and staked tokens differ and
the debt is not negative: the debt stays non-negative, and neither the payout supply nor its margin
over the debt falls. -/
def KeepsDebt (w w' : World) : Prop :=
  w.staking.config.baseDenom ≠ w.staking.config.stakedDenom → 0 ≤ w.bond.debt.outstandingDebt →
    0 ≤ w'.bond.debt.outstandingDebt ∧
    Bond.payoutSupply w.staking w.ledger ≤ Bond.payoutSupply w'.staking w'.ledger ∧
    w.debtMargin ≤ w'.debtMargin

theorem KeepsDebt.refl (w : World) : KeepsDebt w w := fun _ hd => ⟨hd, le_rfl, le_rfl⟩

theorem KeepsDebt.trans (h₁ : KeepsDebt w w₁) (h₂ : KeepsDebt w₁ w') (hd : w₁.denoms = w.denoms) :
    KeepsDebt w w' := by
  intro hne h0
  have hb : w₁.staking.config.baseDenom = w.staking.config.baseDenom := congrArg Prod.fst hd
  have hs : w₁.staking.config.stakedDenom = w.staking.config.stakedDenom := congrArg Prod.snd hd
  obtain ⟨h0₁, hs₁, hm₁⟩ := h₁ hne h0
  obtain ⟨h0₂, hs₂, hm₂⟩ := h₂ (by rw [hb, hs]; exact hne) h0₁
  exact ⟨h0₂, hs₁.trans hs₂, hm₁.trans hm₂⟩

theorem keepsDebt_ledger {l : Ledger}
    (h : w.ledger.supplyOf w.staking.config.baseDenom ≤ l.supplyOf w.staking.config.baseDenom) :
    KeepsDebt w { w with ledger := l } := by
  intro _ hd
  refine ⟨hd, h, ?_⟩
  simp only [debtMargin, Bond.payoutSupply]
  omega

/-- Effects that burn nothing but the staked token keep the bound, when every call they emit
keeps it. -/
theorem EffectsRun.keepsDebt
    {R : World → String → Coins → ExecuteMsg → World → List Event → List Move → Prop}
    (hR : ∀ {w s f m w' evs ms}, R w s f m w' evs ms → w'.denoms = w.denoms ∧ KeepsDebt w w')
    {c : ContractName} {es : List Effect} {evs : List Event} {ms : List Move}
    (h : EffectsRun R c w es w' evs ms) :
    (∀ e ∈ es, e.burned? = none ∨ e.burned? = some w.staking.config.stakedDenom) →
      w'.denoms = w.denoms ∧ KeepsDebt w w' := by
  induction h with
  | nil w => exact fun _ => ⟨rfl, KeepsDebt.refl w⟩
  | send _ hl _ ih =>
    intro hb
    obtain ⟨hd, hk⟩ := ih fun e he => hb e (List.mem_cons_of_mem _ he)
    refine ⟨hd, (keepsDebt_ledger ?_).trans hk rfl⟩
    simp only [Ledger.supplyOf, Ledger.supply_send hl, le_refl]
  | mint _ hl _ ih =>
    intro hb
    obtain ⟨hd, hk⟩ := ih fun e he => hb e (List.mem_cons_of_mem _ he)
    exact ⟨hd, (keepsDebt_ledger (Ledger.supplyOf_le_mint hl _)).trans hk rfl⟩
  | @burn w w' holder coin rest l evs ms _ _ hl _ ih =>
    intro hb
    obtain ⟨hd, hk⟩ := ih fun e he => hb e (List.mem_cons_of_mem _ he)
    refine ⟨hd, fun hne => (keepsDebt_ledger ?_).trans hk rfl hne⟩
    -- a burn takes only staked tokens, so the payout supply stays
    have hc : coin.denom ≠ w.staking.config.baseDenom := by
      rcases hb _ List.mem_cons_self with h | h <;> simp only [Effect.burned?, Option.some.injEq,
        reduceCtorEq] at h
      exact h ▸ hne.symm
    have := Ledger.supplyOf_burn hl w.staking.config.baseDenom
    rw [if_neg hc] at this
    omega
  | @execute w w₁ w' _ _ _ _ _ _ _ hc _ ih =>
    intro hb
    obtain ⟨hd₁, hk₁⟩ := hR hc
    have hs : w₁.staking.config.stakedDenom = w.staking.config.stakedDenom :=
      congrArg Prod.snd hd₁
    obtain ⟨hd, hk⟩ := ih fun e he => hs ▸ hb e (List.mem_cons_of_mem _ he)
    exact ⟨hd.trans hd₁, hk₁.trans hk hd₁⟩

section Handlers

variable {n : Nat} {env : Env} {s : String} {funds : Coins} {resp : Response}
  {evs : List Event} {ms : List Move}

theorem dispatch_keeps_debt {msg : ExecuteMsg} (hd : w.dispatch env s funds msg = .ok (w₂, resp))
    (hm : ∀ p dep, msg ≠ .deposit p dep) :
    w₂.bond.debt = w.bond.debt ∧
      ∀ e ∈ resp.effects, e.burned? = none ∨ e.burned? = some w.staking.config.stakedDenom := by
  by_cases hs : msg.isSetting = true
  · obtain ⟨he, -, -, hdebt, -, -⟩ := dispatch_setting hs hd
    simp [he, hdebt]
  cases msg <;>
    simp only [dispatch, Result.bind_eq_ok, Result.pure_eq_ok, Prod.exists, Prod.mk.injEq] at hd
  case deposit p dep => exact absurd rfl (hm p dep)
  case redeem =>
    obtain ⟨b, r, hb, rfl, rfl⟩ := hd
    obtain ⟨ps, rfl⟩ := Bond.redeem_frame hb
    obtain ⟨_, _, _, -, -, -, he⟩ := Bond.redeem_eq_ok hb
    refine ⟨rfl, ?_⟩
    rw [he]
    split_ifs <;> simp [Effect.burned?]
  case stake =>
    obtain ⟨st, r, hst, rfl, rfl⟩ := hd
    obtain ⟨_, _, _, _, -, -, -, ⟨-, -, he⟩ | ⟨-, -, he⟩⟩ := Staking.stake_eq_ok hst <;>
      simp [he, Effect.burned?]
  case unstake =>
    obtain ⟨st, r, hst, rfl, rfl⟩ := hd
    obtain ⟨_, _, _, _, -, -, -, he⟩ := Staking.unstake_eq_ok hst
    simp [he, Effect.burned?, Coin.of]
  case claim =>
    obtain ⟨st, r, hst, rfl, rfl⟩ := hd
    obtain ⟨_, _, _, -, -, -, he | he⟩ := Staking.claim_eq_ok hst
    · simp [he, Effect.burned?]
    · rw [he]
      split_ifs <;> simp [Effect.burned?]
  case rebase =>
    obtain ⟨st, r, hst, rfl, rfl⟩ := hd
    obtain ⟨-, -, -, he | ⟨_, he⟩⟩ := Staking.rebase_eq_ok hst <;> simp [he, Effect.burned?]
  case mint =>
    obtain ⟨r, hr, rfl, rfl⟩ := hd
    obtain ⟨-, _, -, -, he⟩ := Staking.mint_eq_ok hr
    simp [he, Effect.burned?]
  all_goals simp [ExecuteMsg.isSetting] at hs

/-- A deposit lowers the margin by its payout less what decayed, and the mint it asks for raises
the payout supply by that payout again. -/
theorem deposit_keepsDebt {R : World → String → Coins → ExecuteMsg → World → List Event →
      List Move → Prop} {p : Option Dec} {dep : String}
    (hd : w₁.dispatch env s funds (.deposit p dep) = .ok (w₂, resp))
    (hrun : EffectsRun (fun w s f m w' evs ms => w.Runs n env s f m w' evs ms ∧ R w s f m w' evs ms)
      .bond w₂ resp.effects w' evs ms) : KeepsDebt w₁ w' := by
  intro _ h0
  simp only [dispatch, Result.bind_eq_ok, Result.pure_eq_ok, Prod.exists, Prod.mk.injEq] at hd
  obtain ⟨b, r, hb, rfl, rfl⟩ := hd
  obtain ⟨amount, decay, payout, -, hd0, hdle, hdebt, -, he⟩ := Bond.deposit_debt hb h0
  rw [he] at hrun
  -- the principal goes to the treasury, then staking mints the payout
  cases hrun with
  | @send _ _ _ _ _ _ l _ _ _ hl hrest =>
    cases hrest with
    | execute hR hnil =>
      cases hnil
      obtain ⟨w₃, a, htf, ha, hpa, hmint, hw'⟩ := Runs.mint_inv hR.1
      rw [takeFunds_nil] at htf
      cases htf
      cases ha
      rw [hw']
      dsimp only at hl hmint hdebt ⊢
      have hsend : l.supplyOf w₁.staking.config.baseDenom =
          w₁.ledger.supplyOf w₁.staking.config.baseDenom := by
        simp only [Ledger.supplyOf, Ledger.supply_send hl]
      have hsup := Ledger.supplyOf_mint hmint w₁.staking.config.baseDenom
      simp only [Coin.of, Option.getD_some, ↓reduceIte] at hsup
      simp only [debtMargin, Bond.payoutSupply, hdebt]
      omega

theorem handler_keepsDebt {msg : ExecuteMsg} (hd : w₁.dispatch env s funds msg = .ok (w₂, resp))
    (hrun : EffectsRun (fun w s f m w' evs ms => w.Runs n env s f m w' evs ms ∧ KeepsDebt w w')
      msg.contract w₂ resp.effects w' evs ms) : KeepsDebt w₁ w' := by
  by_cases hm : ∃ p dep, msg = .deposit p dep
  · obtain ⟨p, dep, rfl⟩ := hm
    exact deposit_keepsDebt hd hrun
  simp only [not_exists] at hm
  obtain ⟨hdebt, hb⟩ := dispatch_keeps_debt hd hm
  have hden := dispatch_denoms hd
  have hs : w₂.staking.config.stakedDenom = w₁.staking.config.stakedDenom := congrArg Prod.snd hden
  -- the handler moves neither the ledger nor the debt; its effects burn only staked tokens
  have h₁ : KeepsDebt w₁ w₂ := by
    intro _ h0
    have hb₂ : w₂.staking.config.baseDenom = w₁.staking.config.baseDenom := congrArg Prod.fst hden
    simp only [debtMargin, Bond.payoutSupply, dispatch_ledger hd, hdebt, hb₂]
    exact ⟨h0, le_rfl, le_rfl⟩
  obtain ⟨-, h₂⟩ := hrun.keepsDebt (fun hR => ⟨(Runs.authorized hR.1).1, hR.2⟩)
    (fun e he => hs ▸ hb e he)
  exact h₁.trans h₂ hden

end Handlers

theorem Runs.keepsDebt {n : Nat} {env : Env} {s : String} {funds : Coins} {msg : ExecuteMsg}
    {evs : List Event} {ms : List Move} (h : w.Runs n env s funds msg w' evs ms) : KeepsDebt w w' := by
  refine Runs.induction (fun w _ _ _ w' => KeepsDebt w w') ?_ h
  intro n w w₁ w₂ w' s funds msg resp evs ms htf hd hrun
  obtain ⟨l, -, rfl⟩ := takeFunds_eq_ok htf
  have hsup : l.supply = w.ledger.supply := takeFunds_supply htf
  exact (keepsDebt_ledger (by simp only [Ledger.supplyOf, hsup, le_refl])).trans
    (handler_keepsDebt hd hrun) rfl

theorem dispatch_minimumPrice {env : Env} {s : String} {funds : Coins} {msg : ExecuteMsg}
    {resp : Response} (hd : w.dispatch env s funds msg = .ok (w', resp))
    (hm : 0 ≤ w.bond.terms.minimumPrice.units) : 0 ≤ w'.bond.terms.minimumPrice.units := by
  cases msg <;>
    simp only [dispatch, Result.bind_eq_ok, Result.pure_eq_ok, Prod.exists, Prod.mk.injEq] at hd
  case deposit =>
    obtain ⟨b, r, hb, rfl, -⟩ := hd
    obtain ⟨b₂, -, -, -, -, -, -, -, -, -, hterms, -, -, -, hstep, -⟩ := Bond.deposit_shape hb
    rw [(Bond.stepAdjustment_debt hstep).2]
    rcases hterms with hterms | hterms <;> rw [hterms]
    exacts [hm, le_rfl]
  case redeem =>
    obtain ⟨b, r, hb, rfl, -⟩ := hd
    obtain ⟨ps, rfl⟩ := Bond.redeem_frame hb
    exact hm
  case updateTerms =>
    obtain ⟨b, r, hb, rfl, -⟩ := hd
    obtain ⟨t', ht, rfl, -⟩ := Bond.updateTerms_state hb
    obtain ⟨_, _, _, _, -, -, -, -, -, hmp, -, -, -, rfl⟩ := TermsInput.validate_eq_ok_iff.mp ht
    exact hmp
  case updateBondConfig =>
    obtain ⟨b, r, hb, rfl, -⟩ := hd
    obtain ⟨_, _, -, rfl, -⟩ := Bond.updateConfig_state hb
    exact hm
  case updateAdjustment =>
    obtain ⟨b, r, hb, rfl, -⟩ := hd
    obtain ⟨_, rfl, -, -, -⟩ := Bond.updateAdjustment_state hb
    exact hm
  case mint =>
    obtain ⟨_, _, rfl, -⟩ := hd
    exact hm
  -- the staking and oracle handlers leave the bond alone
  all_goals obtain ⟨_, _, _, rfl, -⟩ := hd; exact hm

/-- The debt between zero and the payout supply, with what pricing needs of the settings:
distinct payout and staked tokens and a minimum price that is not negative. -/
structure DebtBounded (w : World) : Prop where
  denoms : w.staking.config.baseDenom ≠ w.staking.config.stakedDenom
  minimumPrice : 0 ≤ w.bond.terms.minimumPrice.units
  nonneg : 0 ≤ w.bond.debt.outstandingDebt
  le_supply : w.bond.debt.outstandingDebt ≤ Bond.payoutSupply w.staking w.ledger

theorem DebtBounded.run {n : Nat} {env : Env} {s : String} {funds : Coins} {msg : ExecuteMsg}
    {evs : List Event} {ms : List Move} (hw : w.DebtBounded) (h : w.Runs n env s funds msg w' evs ms) :
    w'.DebtBounded := by
  have hden := (Runs.authorized h).1
  have hmp := Runs.keeps (Q := fun w => 0 ≤ w.bond.terms.minimumPrice.units) (fun _ _ h => h)
    dispatch_minimumPrice h hw.minimumPrice
  obtain ⟨h0, -, hm⟩ := Runs.keepsDebt h hw.denoms hw.nonneg
  have hb : w'.staking.config.baseDenom = w.staking.config.baseDenom := congrArg Prod.fst hden
  have hs : w'.staking.config.stakedDenom = w.staking.config.stakedDenom := congrArg Prod.snd hden
  have := hw.le_supply
  refine ⟨by rw [hb, hs]; exact hw.denoms, hmp, h0, ?_⟩
  simp only [debtMargin] at hm
  omega

theorem DebtBounded.ledger {l : Ledger} (hw : w.DebtBounded) (h : l.supply = w.ledger.supply) :
    ({ w with ledger := l } : World).DebtBounded := by
  refine ⟨hw.denoms, hw.minimumPrice, hw.nonneg, ?_⟩
  simp only [Bond.payoutSupply, Ledger.supplyOf, h]
  exact hw.le_supply

end World

namespace Chain

open World

/-- The world a genesis leaves has no debt, distinct payout and staked tokens, a minimum price
that is not negative, and a payout supply that is not negative. -/
theorem instantiate_debtBounded {c' : Chain} {now : Instant} {g : Genesis}
    (h : ({} : Chain).instantiate now g = .ok c') : c'.world.DebtBounded := by
  obtain ⟨-, -, -, hst, hbd⟩ := instantiate_eq_ok h
  obtain ⟨-, -, hne, -, -, -, -, _, -, -, hcfg⟩ :=
    StakingConfigInput.validate_eq_ok_iff.mp (Staking.init_config hst)
  obtain ⟨_, _, _, _, -, -, -, -, -, hmp, -, -, -, hterms⟩ :=
    TermsInput.validate_eq_ok_iff.mp (Bond.init_eq_ok hbd).2.1
  have hl : c'.world.ledger.Conserved :=
    instantiate_ledger (fun hm hp => hp.mint hm) h Ledger.conserved_empty
  refine ⟨by rw [hcfg]; exact hne, by rw [hterms]; exact hmp, by rw [Bond.init_debt hbd], ?_⟩
  rw [Bond.init_debt hbd]
  exact Ledger.supplyOf_nonneg hl.supply _

theorem Reachable.debtBounded {admits : Call → Prop} {c : Chain} (hc : c.Reachable admits)
    (hi : c.instantiated = true) : c.world.DebtBounded := by
  refine Reachable.induction (P := fun c => c.instantiated = true → c.world.DebtBounded)
    ?_ ?_ ?_ ?_ hc hi
  · intro h
    cases h
  · intro c' now g _ h _
    exact instantiate_debtBounded h
  · intro c now s funds msg w evs ms _ _ hs hi hrun _
    exact (hs hi).run hrun
  · intro c now src dst coins l _ _ hs hi hl _
    exact (hs hi).ledger (Ledger.supply_send hl)

/-- In every reachable chain the minimum price is not negative and the debt lies between zero and
the payout supply; before genesis all three are zero. -/
theorem Reachable.debt_le_supply {admits : Call → Prop} {c : Chain} (hc : c.Reachable admits) :
    0 ≤ c.world.bond.terms.minimumPrice.units ∧ 0 ≤ c.world.bond.debt.outstandingDebt ∧
      c.world.bond.debt.outstandingDebt ≤ Bond.payoutSupply c.world.staking c.world.ledger := by
  cases hi : c.instantiated
  · have hg : c.genesisTime = none := by simpa [instantiated] using hi
    rw [hc.eq_empty hg]
    decide
  · have hw := hc.debtBounded hi
    exact ⟨hw.minimumPrice, hw.nonneg, hw.le_supply⟩

theorem Reachable.payoutSupply_le_step {admits : Call → Prop} {c : Chain} (hc : c.Reachable admits)
    (call : Call) : Bond.payoutSupply c.world.staking c.world.ledger ≤
      Bond.payoutSupply (c.step call).world.staking (c.step call).world.ledger := by
  rcases step_cases c call with he | ⟨now, g, -, h⟩ | ⟨now, s, funds, msg, w, evs, ms, -, hi, hrun, he⟩ |
    ⟨now, src, dst, coins, l, -, -, hl, he⟩
  · rw [he]
  · -- only the chain before genesis instantiates, and it has no supply yet
    obtain rfl := hc.eq_empty (instantiate_eq_ok h).1
    have hw := instantiate_debtBounded h
    have h0 : Bond.payoutSupply ({} : Chain).world.staking ({} : Chain).world.ledger = 0 := rfl
    have := hw.le_supply
    have := hw.nonneg
    omega
  · have hw := hc.debtBounded hi
    rw [he]
    exact (World.Runs.keepsDebt hrun hw.denoms hw.nonneg).2.1
  · rw [he]
    simp only [Bond.payoutSupply, Ledger.supplyOf, Ledger.supply_send hl, le_refl]

/-- The bond's debt stays within the payout supply: in every reachable chain no call lowers the
payout supply, the stored debt and the current debt at any time lie between zero and that supply,
the debt ratio lies between zero and one, and the bond price is at most the larger of the control
variable and the minimum price. -/
theorem debt_within_supply {admits : Call → Prop} {c : Chain} (hc : c.Reachable admits) :
    (∀ call, Bond.payoutSupply c.world.staking c.world.ledger ≤
      Bond.payoutSupply (c.step call).world.staking (c.step call).world.ledger) ∧
    0 ≤ c.world.bond.debt.outstandingDebt ∧
    c.world.bond.debt.outstandingDebt ≤ Bond.payoutSupply c.world.staking c.world.ledger ∧
    (∀ env x, c.world.bond.currentDebt env = .ok x →
      0 ≤ x ∧ x ≤ Bond.payoutSupply c.world.staking c.world.ledger) ∧
    (∀ env r, c.world.bond.debtRatio c.world.staking c.world.ledger env = .ok r →
      0 ≤ r.units ∧ r.units ≤ Dec.one.units) ∧
    (∀ env p, c.world.bond.bondPrice c.world.staking c.world.ledger env = .ok p →
      p.units ≤ max c.world.bond.terms.controlVariable.units c.world.bond.terms.minimumPrice.units) := by
  obtain ⟨hmp, h0, hle⟩ := hc.debt_le_supply
  refine ⟨hc.payoutSupply_le_step, h0, hle, fun env x hx => ?_,
    fun env r hr => Bond.debtRatio_eq_ok hr h0 hle, fun env p hp => Bond.bondPrice_le hp h0 hle hmp⟩
  have := Bond.currentDebt_eq_ok hx h0
  omega

theorem debt_within_supply_bonded :
    bondedAtZero.Reachable (fun _ => True) ∧ 0 < bondedAtZero.world.bond.debt.outstandingDebt ∧
    (∀ call, Bond.payoutSupply bondedAtZero.world.staking bondedAtZero.world.ledger ≤
      Bond.payoutSupply (bondedAtZero.step call).world.staking (bondedAtZero.step call).world.ledger) ∧
    0 ≤ bondedAtZero.world.bond.debt.outstandingDebt ∧
    bondedAtZero.world.bond.debt.outstandingDebt ≤
      Bond.payoutSupply bondedAtZero.world.staking bondedAtZero.world.ledger ∧
    (∀ env x, bondedAtZero.world.bond.currentDebt env = .ok x →
      0 ≤ x ∧ x ≤ Bond.payoutSupply bondedAtZero.world.staking bondedAtZero.world.ledger) ∧
    (∀ env r, bondedAtZero.world.bond.debtRatio bondedAtZero.world.staking bondedAtZero.world.ledger env =
      .ok r → 0 ≤ r.units ∧ r.units ≤ Dec.one.units) ∧
    (∀ env p, bondedAtZero.world.bond.bondPrice bondedAtZero.world.staking bondedAtZero.world.ledger env =
      .ok p → p.units ≤ max bondedAtZero.world.bond.terms.controlVariable.units
        bondedAtZero.world.bond.terms.minimumPrice.units) :=
  ⟨bondedAtZero_reachable, by decide +kernel, debt_within_supply bondedAtZero_reachable⟩

end Chain

end Bonding

import Mathlib
import Bonding.Proofs.Points
import Bonding.Proofs.Solvency
set_option autoImplicit false

/-!
The staked token stays fully backed: the pool holds at least as many base tokens as there are
staked tokens. A stake mints at a rate of at least one, so no more than it puts in; a claim mints
what its stake recorded and puts the escrowed principal back, which is no less; an unstake burns
the staked tokens it redeems and pays them at the pool's rate, which leaves the pool at least the
rest of the supply; everything else only adds to the pool or leaves it. With the pool at least the
supply the rate is the pool over the supply truncated to eighteen places, never below one, and an
unstake of any part of the supply pays out no more than the pool holds.
-/

namespace Bonding

namespace Dec

theorem roundNat_mul_scale (k : Nat) : roundNat (k * scale) = k := by
  have hs := scale_pos
  unfold roundNat
  simp [Nat.mul_div_cancel _ hs, Nat.mul_mod_left, hs]

theorem roundUnits_mul_scale (k : Int) : roundUnits (k * scale) = k := by
  have hn : (k * scale).natAbs = k.natAbs * scale := by rw [Int.natAbs_mul]; rfl
  have hs : (0 : Int) < scale := by exact_mod_cast scale_pos
  unfold roundUnits
  rw [hn, roundNat_mul_scale]
  split
  · rename_i hk
    have : k < 0 := by
      by_contra hk'
      exact absurd hk (not_lt.mpr (Int.mul_nonneg (not_lt.mp hk') hs.le))
    omega
  · rename_i hk
    have : 0 ≤ k := by
      by_contra hk'
      exact hk (Int.mul_neg_of_neg_of_pos (not_le.mp hk') hs)
    omega

end Dec

theorem exchangeRate_of_le {D S : Int} (h : S ≤ 0 ∨ D ≤ S) : exchangeRate D S = .ok Dec.one := by
  simp [exchangeRate, h]

theorem exchangeRate_of_lt {D S : Int} (hS : 0 < S) (hD : S < D) (hfit : D.natAbs < Int256.limit) :
    exchangeRate D S = .ok ⟨D * Dec.scale / S⟩ := by
  have hsc : (0 : Int) < Dec.scale := by exact_mod_cast Dec.scale_pos
  have hc : ¬(S ≤ 0 ∨ D ≤ S) := by omega
  have hDs : 0 ≤ D * Dec.scale := Int.mul_nonneg (by omega) hsc.le
  have hq : (D * Dec.scale * Dec.scale).tdiv (S * Dec.scale) = D * Dec.scale / S := by
    rw [Int.tdiv_eq_ediv_of_nonneg (Int.mul_nonneg hDs hsc.le)]
    exact Int.mul_ediv_mul_of_pos_left _ _ hsc
  -- the quotient is at most the pool's units, and those are in range
  have hle : D * Dec.scale / S ≤ D * Dec.scale := Int.ediv_le_self _ hDs
  have h0 : 0 ≤ D * Dec.scale / S := Int.ediv_nonneg hDs hS.le
  have hlim : (D * Dec.scale / S).natAbs < Dec.limit := by
    have hD' : D < (Int256.limit : Int) := by omega
    have : D * Dec.scale < (Int256.limit : Int) * Dec.scale := by gcongr
    simp only [Dec.limit, Int256.limit] at this ⊢
    omega
  simp only [exchangeRate, hc, if_false, Dec.quoTruncate, Dec.ofInt, hq]
  rw [if_neg (Int.mul_pos hS hsc).ne']
  simp [Dec.checked, hlim]

theorem exchangeRate_one_le {D S : Int} {r : Dec} (h : exchangeRate D S = .ok r) :
    Dec.scale ≤ r.units := by
  unfold exchangeRate at h
  split at h
  · cases h
    exact le_rfl
  rename_i hc
  have hsc : (0 : Int) < Dec.scale := by exact_mod_cast Dec.scale_pos
  have hS : 0 < S := by omega
  have hD : S < D := by omega
  have hSs : 0 < S * Dec.scale := Int.mul_pos hS hsc
  unfold Dec.quoTruncate at h
  rw [if_neg (by simp only [Dec.ofInt]; exact hSs.ne')] at h
  obtain ⟨-, rfl⟩ := Dec.checked_eq_ok.mp h
  simp only [Dec.ofInt]
  rw [Int.tdiv_eq_ediv_of_nonneg (Int.mul_nonneg (Int.mul_nonneg (by omega) hsc.le) hsc.le),
    Int.le_ediv_iff_mul_le hSs]
  calc (Dec.scale : Int) * (S * Dec.scale) ≤ Dec.scale * (D * Dec.scale) :=
        Int.mul_le_mul_of_nonneg_left (Int.mul_le_mul_of_nonneg_right hD.le hsc.le) hsc.le
    _ = D * Dec.scale * Dec.scale := by ring

/-- A pool of at least the staked supply, in range, has the rate of the pool over the supply
truncated to eighteen places and never below one (one when nothing is staked). -/
theorem exchangeRate_backed {D S : Int} (hS : 0 ≤ S) (hD : S ≤ D) (hfit : D.natAbs < Int256.limit) :
    ∃ r, exchangeRate D S = .ok r ∧ r.units = max (Dec.scale : Int) (D * Dec.scale / S) := by
  have hsc : (0 : Int) < Dec.scale := by exact_mod_cast Dec.scale_pos
  rcases lt_or_eq_of_le hS with hS | rfl
  · rcases lt_or_eq_of_le hD with hD | rfl
    · refine ⟨_, exchangeRate_of_lt hS hD hfit, ?_⟩
      -- above the supply the quotient is at least one
      have : (Dec.scale : Int) ≤ D * Dec.scale / S := by
        rw [Int.le_ediv_iff_mul_le hS]
        calc (Dec.scale : Int) * S ≤ Dec.scale * D := Int.mul_le_mul_of_nonneg_left hD.le hsc.le
          _ = D * Dec.scale := by ring
      exact (max_eq_right this).symm
    · refine ⟨_, exchangeRate_of_le (.inr le_rfl), ?_⟩
      rw [Int.mul_ediv_cancel_left _ hS.ne', max_self]
      rfl
  · refine ⟨_, exchangeRate_of_le (.inl le_rfl), ?_⟩
    simp only [Int.ediv_zero]
    exact (max_eq_left hsc.le).symm

theorem minted_le {a : Int} {r q : Dec} (ha : 0 ≤ a) (hr : Dec.scale ≤ r.units)
    (hq : (Dec.ofInt a).quoTruncate r = .ok q) : q.truncate ≤ a := by
  have hsc : (0 : Int) < Dec.scale := by exact_mod_cast Dec.scale_pos
  have hr0 : 0 < r.units := lt_of_lt_of_le hsc hr
  unfold Dec.quoTruncate at hq
  rw [if_neg hr0.ne'] at hq
  obtain ⟨-, rfl⟩ := Dec.checked_eq_ok.mp hq
  simp only [Dec.truncate, Dec.ofInt]
  have hn : 0 ≤ a * Dec.scale * Dec.scale := by positivity
  rw [Int.tdiv_eq_ediv_of_nonneg hn]
  -- dividing by the rate leaves at most `a * scale` units
  have hq : a * Dec.scale * Dec.scale / r.units ≤ a * Dec.scale :=
    Int.ediv_le_of_le_mul hr0 (Int.mul_le_mul_of_nonneg_left hr (Int.mul_nonneg ha hsc.le))
  rw [Int.tdiv_eq_ediv_of_nonneg (Int.ediv_nonneg hn hr0.le)]
  exact Int.ediv_le_of_le_mul hsc (by linarith)

/-- Unstaking `a` of a staked supply `S` at the rate of a pool `D ≥ S` in range computes its
payout without overflow, and pays at most what the pool holds beyond the rest of the supply. -/
theorem unstake_payout {D S a : Int} {r : Dec} (hS : 0 ≤ S) (hD : S ≤ D) (ha : 0 ≤ a) (haS : a ≤ S)
    (hfit : D.natAbs < Int256.limit) (hr : exchangeRate D S = .ok r) :
    ∃ p, (Dec.ofInt a).mul r = .ok p ∧ 0 ≤ p.truncate ∧ p.truncate ≤ D - S + a := by
  have hsc : (0 : Int) < Dec.scale := by exact_mod_cast Dec.scale_pos
  obtain ⟨r', hr', hq⟩ := exchangeRate_backed hS hD hfit
  rw [hr] at hr'
  cases hr'
  have hmul : a * Dec.scale * r.units = a * r.units * Dec.scale := by ring
  have hrS : S * r.units ≤ D * Dec.scale := by
    rw [hq]
    rcases max_cases (Dec.scale : Int) (D * Dec.scale / S) with ⟨hm, -⟩ | ⟨hm, hlt⟩
    · rw [hm]
      exact Int.mul_le_mul_of_nonneg_right hD hsc.le
    · rw [hm, Int.mul_comm]
      exact Int.ediv_mul_le _ (by rintro rfl; simp at hlt; omega)
  have hr0 : 0 ≤ r.units := le_trans hsc.le (hq ▸ le_max_left _ _)
  have hau : a * r.units ≤ D * Dec.scale :=
    (Int.mul_le_mul_of_nonneg_right haS hr0).trans hrS
  have hlim : (a * r.units).natAbs < Dec.limit := by
    have hD' : D < (Int256.limit : Int) := by omega
    have : D * Dec.scale < (Int256.limit : Int) * Dec.scale := by gcongr
    have h0 : 0 ≤ a * r.units := Int.mul_nonneg ha hr0
    simp only [Dec.limit, Int256.limit] at this ⊢
    omega
  refine ⟨⟨a * r.units⟩, ?_, ?_, ?_⟩
  · simp [Dec.mul, Dec.ofInt, hmul, Dec.roundUnits_mul_scale, Dec.checked, hlim]
  · exact Int.tdiv_nonneg (Int.mul_nonneg ha hr0) hsc.le
  · simp only [Dec.truncate]
    rw [Int.tdiv_eq_ediv_of_nonneg (Int.mul_nonneg ha hr0)]
    refine Int.ediv_le_of_le_mul hsc ?_
    -- a share `a ≤ S` of the supply is worth at most its share of the pool: `a (D - S) ≤ S (D - S)`
    rcases lt_or_eq_of_le hS with hS | rfl
    · have hshare : a * D ≤ (D - S + a) * S := by
        nlinarith [mul_nonneg (sub_nonneg.mpr haS) (sub_nonneg.mpr hD)]
      have hkey : a * r.units * S ≤ (D - S + a) * Dec.scale * S :=
        calc a * r.units * S = a * (S * r.units) := by ring
          _ ≤ a * (D * Dec.scale) := Int.mul_le_mul_of_nonneg_left hrS ha
          _ = Dec.scale * (a * D) := by ring
          _ ≤ Dec.scale * ((D - S + a) * S) := Int.mul_le_mul_of_nonneg_left hshare hsc.le
          _ = (D - S + a) * Dec.scale * S := by ring
      exact le_of_mul_le_mul_right hkey hS
    · have : a = 0 := by omega
      subst this
      simp only [zero_mul, sub_zero, add_zero]
      positivity

theorem Ledger.checkKey_stakingAccount : Ledger.checkKey stakingAccount = .ok () := by
  rw [moduleAccounts_text.2.1]
  decide

namespace Staking

variable {s s' : Staking} {l : Ledger} {env : Env}

def WarmupsCovered (s : Staking) : Prop :=
  ∀ a e, s.warmups.get? a = some e → 0 ≤ e.minted ∧ e.minted ≤ e.principal

theorem WarmupsCovered.of_eq (hw : s.WarmupsCovered) (h : s'.warmups = s.warmups) :
    s'.WarmupsCovered :=
  fun a e he => hw a e (h ▸ he)

theorem currentRate_eq_ok {x y : Int} {r : Dec} (h : s.currentRate l x y = .ok r) :
    Int256.fits (l.balance stakingAccount s.config.baseDenom - x) = true ∧
    Int256.fits (l.supplyOf s.config.stakedDenom - y) = true ∧
    exchangeRate (l.balance stakingAccount s.config.baseDenom - x)
      (l.supplyOf s.config.stakedDenom - y) = .ok r := by
  simp only [currentRate, poolState, Result.bind_eq_ok, Result.pure_eq_ok] at h
  obtain ⟨_, ⟨D, hD, rfl⟩, D', hD', S', hS', hr⟩ := h
  obtain ⟨-, rfl⟩ := Ledger.balanceOf_eq_ok hD
  obtain ⟨hfD, rfl⟩ := Int256.checked_eq_ok.mp hD'
  obtain ⟨hfS, rfl⟩ := Int256.checked_eq_ok.mp hS'
  exact ⟨hfD, hfS, hr⟩

theorem currentRate_zero {D S : Int} (hD : D = l.balance stakingAccount s.config.baseDenom)
    (hS : S = l.supplyOf s.config.stakedDenom) (hfD : Int256.fits D = true)
    (hfS : Int256.fits S = true) : s.currentRate l 0 0 = exchangeRate D S := by
  subst hD hS
  have hsub : ∀ x, Int256.fits x = true → Int256.sub x 0 = .ok x := fun x hx => by
    simp [Int256.sub, Int256.checked, hx]
  have hb : l.balanceOf s.config.baseDenom stakingAccount =
      .ok (l.balance stakingAccount s.config.baseDenom) := by
    simp only [Ledger.balanceOf, Ledger.checkKey_stakingAccount]
    rfl
  simp only [currentRate, poolState, hb, bind, Except.bind, pure, Except.pure, hsub _ hfD,
    hsub _ hfS]

theorem currentRate_one_le {x y : Int} {r : Dec} (h : s.currentRate l x y = .ok r) :
    Dec.scale ≤ r.units :=
  exchangeRate_one_le (currentRate_eq_ok h).2.2

/-- A stake mints at most the amount it takes, at the rate of the pool without that amount,
either at once or recorded in the recipient's warmup entry along with the amount, which then leaves
the pool for the escrow. -/
theorem stake_mints_within {sender toAddr : String} {funds : Coins} {r : Response}
    (h : s.stake l env sender funds toAddr = .ok (s', r)) :
    ∃ amount minted rcp, oneCoin funds s.config.baseDenom = .ok amount ∧ 0 ≤ minted ∧
      minted ≤ amount ∧ s'.config = s.config ∧
      (∃ rate q, s.currentRate l amount 0 = .ok rate ∧
        (Dec.ofInt amount).quoTruncate rate = .ok q ∧ minted = q.truncate) ∧
      ((s'.warmups = s.warmups ∧ r.effects = [.mint (Coin.of s.config.stakedDenom minted) rcp]) ∨
       (∃ e : WarmupEntry, s'.warmups = s.warmups.insert rcp e ∧
          e.principal = (s.warmups.getD rcp ⟨0, 0, default⟩).principal + amount ∧
          e.minted = (s.warmups.getD rcp ⟨0, 0, default⟩).minted + minted ∧
          r.effects = [.send stakingAccount warmupAccount [Coin.of s.config.baseDenom amount]])) := by
  simp only [stake, Result.bind_eq_ok] at h
  obtain ⟨amount, hamt, rcp, -, rate, hrate, q, hq, h⟩ := h
  have ha := (oneCoin_eq_ok hamt).2
  have hle := minted_le ha.le (currentRate_one_le hrate) hq
  split at h
  · cases h
  rename_i hpos
  simp only [Result.bind_eq_ok] at h
  obtain ⟨s₁, hs₁, h⟩ := h
  obtain ⟨pts, rfl⟩ := accruePoints_eq_ok hs₁
  have hmint : ∃ rate' q', s.currentRate l amount 0 = .ok rate' ∧
      (Dec.ofInt amount).quoTruncate rate' = .ok q' ∧ q.truncate = q'.truncate :=
    ⟨rate, q, hrate, hq, rfl⟩
  refine ⟨amount, q.truncate, rcp, hamt, by omega, hle, ?_⟩
  split at h
  · simp only [Result.bind_eq_ok, Result.pure_eq_ok] at h
    obtain ⟨_, rfl, h⟩ := h
    simp only [Prod.mk.injEq] at h
    obtain ⟨rfl, rfl⟩ := h
    exact ⟨rfl, hmint, .inl ⟨rfl, rfl⟩⟩
  · simp only [Result.bind_eq_ok, Result.pure_eq_ok] at h
    obtain ⟨p, hp, m, hm, s₂, hs₂, _, rfl, h⟩ := h
    simp only [Prod.mk.injEq] at h
    obtain ⟨rfl, rfl⟩ := h
    rw [setWarmup_eq_ok hs₂]
    obtain ⟨-, rfl⟩ := Int256.checked_eq_ok.mp hp
    obtain ⟨-, rfl⟩ := Int256.checked_eq_ok.mp hm
    exact ⟨rfl, hmint, .inr ⟨_, rfl, rfl, rfl, rfl⟩⟩

theorem WarmupsCovered.stake {sender toAddr : String} {funds : Coins} {r : Response}
    (h : s.stake l env sender funds toAddr = .ok (s', r)) (hw : s.WarmupsCovered) :
    s'.WarmupsCovered := by
  obtain ⟨amount, minted, rcp, -, h0, hle, -, -, ⟨hws, -⟩ | ⟨e, hws, hp, hm, -⟩⟩ := stake_mints_within h
  · exact hw.of_eq hws
  · -- the old entry, or the empty one, is covered, and so is what it grows to
    have hold : 0 ≤ (s.warmups.getD rcp ⟨0, 0, default⟩).minted ∧
        (s.warmups.getD rcp ⟨0, 0, default⟩).minted ≤ (s.warmups.getD rcp ⟨0, 0, default⟩).principal := by
      unfold KeyMap.getD
      cases hg : s.warmups.get? rcp with
      | none => exact ⟨le_rfl, le_rfl⟩
      | some x => exact hw rcp x hg
    intro a x hx
    rw [hws] at hx
    by_cases ha : rcp = a
    · subst ha
      rw [KeyMap.get?_insert_self] at hx
      cases hx
      omega
    · rw [KeyMap.get?_insert_of_ne _ _ ha] at hx
      exact hw a x hx

theorem unstake_pays {sender toAddr : String} {funds : Coins} {r : Response}
    (h : s.unstake l env sender funds toAddr = .ok (s', r)) :
    ∃ amount rate p rcp, oneCoin funds s.config.stakedDenom = .ok amount ∧
      s.currentRate l 0 0 = .ok rate ∧ (Dec.ofInt amount).mul rate = .ok p ∧
      s'.config = s.config ∧ s'.warmups = s.warmups ∧
      r.effects = [.burn stakingAccount (Coin.of s.config.stakedDenom amount),
        .send stakingAccount rcp (coinsOf s.config.baseDenom p.truncate)] := by
  simp only [unstake, Result.bind_eq_ok, Result.pure_eq_ok, Prod.mk.injEq] at h
  obtain ⟨amount, hamt, rcp, -, rate, hrate, p, hp, s₁, hs₁, rfl, rfl⟩ := h
  obtain ⟨pts, rfl⟩ := accruePoints_eq_ok hs₁
  exact ⟨amount, rate, p, rcp, hamt, hrate, hp, rfl, rfl, rfl⟩

theorem WarmupsCovered.erase (hw : s.WarmupsCovered) {k : String}
    (h : s'.warmups = s.warmups.erase k) : s'.WarmupsCovered := by
  intro a e he
  rw [h] at he
  by_cases hk : k = a
  · subst hk
    simp at he
  · rw [KeyMap.get?_erase_of_ne _ hk] at he
    exact hw a e he

end Staking

namespace Ledger

variable {l l' : Ledger}

def SupplyFits (l : Ledger) : Prop := ∀ d, Int256.fits (l.supplyOf d) = true

theorem SupplyFits.send {src dst : String} {cs : Coins} (h : l.send src dst cs = .ok l')
    (hf : l.SupplyFits) : l'.SupplyFits := by
  intro d
  simpa only [supplyOf, supply_send h] using hf d

theorem SupplyFits.mint {c : Coin} {a : String} (h : l.mint c a = .ok l') (hf : l.SupplyFits) :
    l'.SupplyFits := by
  intro d
  obtain ⟨x, hx, ⟨-, rfl⟩ | ⟨-, hfit, -⟩⟩ := mint_eq_ok h
  · exact hf d
  have hs := supplyOf_mint h d
  rw [(checkCoin_eq_ok hx).1, Option.getD_some] at hs
  rw [hs]
  split_ifs with hd
  · subst hd
    exact hfit
  · simpa using hf d

theorem SupplyFits.burn {c : Coin} {a : String} (h : l.burn c a = .ok l') (hf : l.SupplyFits)
    (hc : l'.Conserved) : l'.SupplyFits := by
  intro d
  obtain ⟨x, hx, -⟩ := burn_eq_ok h
  obtain ⟨hamt, hx0⟩ := checkCoin_eq_ok hx
  have hs := supplyOf_burn h d
  rw [hamt, Option.getD_some] at hs
  have h0 := supplyOf_nonneg hc.supply d
  have hd := hf d
  simp only [Int256.fits, decide_eq_true_eq] at hd ⊢
  split_ifs at hs <;> omega

theorem SupplyFits.apply {m : Move} (h : m.apply l = .ok l') (hf : l.SupplyFits)
    (hc : l.Conserved) : l'.SupplyFits := by
  cases m with
  | funds => exact hf.send h
  | send => exact hf.send h
  | mint => exact hf.mint h
  | burn => exact hf.burn h (hc.burn h)

end Ledger

/-- An effect that cannot lower the pool's margin over the staked supply: a move not out of the
pool, a mint of anything but the staked token, or a call of a contract that is not the pool. -/
def Effect.Feeds (c : ContractName) (staked : String) : Effect → Prop
  | .send src _ _ => src ≠ stakingAccount
  | .mint coin _ => coin.denom ≠ staked
  | .burn _ _ => False
  | .execute _ _ => c.account ≠ stakingAccount

namespace World

variable {w w₁ w₂ w' : World}

def poolMargin (w : World) : Int :=
  w.ledger.balance stakingAccount w.staking.config.baseDenom -
    w.ledger.supplyOf w.staking.config.stakedDenom

/-- What the backing rests on besides the margin: distinct base and staked tokens, a conserved
ledger with every supply in range, and warmups that mint no more than they escrow. -/
structure BackingReady (w : World) : Prop where
  denoms : w.staking.config.baseDenom ≠ w.staking.config.stakedDenom
  conserved : w.ledger.Conserved
  fits : w.ledger.SupplyFits
  warmups : w.staking.WarmupsCovered

def Backs (w w' : World) (x : Int) : Prop :=
  w'.BackingReady ∧ w.poolMargin ≤ w'.poolMargin + x

theorem Backs.trans {x y : Int} (h₁ : Backs w w₁ x) (h₂ : Backs w₁ w' y) : Backs w w' (x + y) :=
  ⟨h₂.1, by have := h₁.2; have := h₂.2; omega⟩

theorem Backs.mono {x y : Int} (h : Backs w w' x) (hxy : x ≤ y) : Backs w w' y :=
  ⟨h.1, by have := h.2; omega⟩

/-- What a call keeps of the backing: a ready world with the pool at least the staked supply
stays so. -/
def KeepsBacking (w w' : World) : Prop :=
  w.BackingReady → 0 ≤ w.poolMargin → w'.BackingReady ∧ 0 ≤ w'.poolMargin

theorem KeepsBacking.refl (w : World) : KeepsBacking w w := fun hr h0 => ⟨hr, h0⟩

theorem KeepsBacking.trans (h₁ : KeepsBacking w w₁) (h₂ : KeepsBacking w₁ w') :
    KeepsBacking w w' :=
  fun hr h0 => (h₁ hr h0).elim h₂

theorem Backs.keepsBacking {x : Int} (h : w.BackingReady → Backs w w' x) (hx : x ≤ 0) :
    KeepsBacking w w' := fun hr h0 => by
  obtain ⟨hr', hm⟩ := h hr
  exact ⟨hr', by omega⟩

theorem backs_frame (hr : w.BackingReady) (hl : w'.ledger = w.ledger) (hd : w'.denoms = w.denoms)
    (hw : w'.staking.warmups = w.staking.warmups) : Backs w w' 0 := by
  have hb : w'.staking.config.baseDenom = w.staking.config.baseDenom := congrArg Prod.fst hd
  have hs : w'.staking.config.stakedDenom = w.staking.config.stakedDenom := congrArg Prod.snd hd
  refine ⟨⟨by rw [hb, hs]; exact hr.denoms, hl ▸ hr.conserved, hl ▸ hr.fits, hr.warmups.of_eq hw⟩,
    ?_⟩
  simp only [poolMargin, hl, hb, hs, add_zero, le_refl]

theorem backs_send {src dst : String} {cs : Coins} {l : Ledger} (hr : w.BackingReady)
    (h : w.ledger.send src dst cs = .ok l) :
    Backs w { w with ledger := l }
      ((if stakingAccount = src then cs.amountOf w.staking.config.baseDenom else 0) -
        (if stakingAccount = dst then cs.amountOf w.staking.config.baseDenom else 0)) := by
  have hb := Ledger.balance_send h stakingAccount w.staking.config.baseDenom
  refine ⟨⟨hr.denoms, hr.conserved.send h, hr.fits.send h, hr.warmups⟩, ?_⟩
  simp only [poolMargin, Ledger.supplyOf, Ledger.supply_send h]
  omega

theorem backs_mint {c : Coin} {r : String} {l : Ledger} (hr : w.BackingReady)
    (h : w.ledger.mint c r = .ok l) :
    Backs w { w with ledger := l }
      (if c.denom = w.staking.config.stakedDenom then c.amount.getD 0 else 0) := by
  have hb := Ledger.balance_le_mint h stakingAccount w.staking.config.baseDenom
  have hs := Ledger.supplyOf_mint h w.staking.config.stakedDenom
  refine ⟨⟨hr.denoms, hr.conserved.mint h, hr.fits.mint h, hr.warmups⟩, ?_⟩
  simp only [poolMargin]
  omega

theorem EffectsRun.keepsBacking
    {R : World → String → Coins → ExecuteMsg → World → List Event → List Move → Prop}
    {c : ContractName}
    (hR : ∀ {w f m w' evs ms}, R w c.account f m w' evs ms → c.account ≠ stakingAccount →
      w'.denoms = w.denoms ∧ KeepsBacking w w')
    {es : List Effect} {evs : List Event} {ms : List Move} (h : EffectsRun R c w es w' evs ms) :
    (∀ e ∈ es, e.Feeds c w.staking.config.stakedDenom) →
      w'.denoms = w.denoms ∧ KeepsBacking w w' := by
  induction h with
  | nil w => exact fun _ => ⟨rfl, .refl w⟩
  | send _ hl _ ih =>
    intro hf
    obtain ⟨hd, hk⟩ := ih fun e he => hf e (List.mem_cons_of_mem _ he)
    have hsrc := hf _ List.mem_cons_self
    have hn := Ledger.amountOf_nonneg_of_send hl
    refine ⟨hd, (Backs.keepsBacking (fun hr => backs_send hr hl) ?_).trans hk⟩
    simp only [Effect.Feeds] at hsrc
    rw [if_neg (Ne.symm hsrc)]
    split_ifs <;> simp [hn]
  | mint _ hl _ ih =>
    intro hf
    obtain ⟨hd, hk⟩ := ih fun e he => hf e (List.mem_cons_of_mem _ he)
    have hc := hf _ List.mem_cons_self
    simp only [Effect.Feeds] at hc
    exact ⟨hd, (Backs.keepsBacking (fun hr => backs_mint hr hl) (by rw [if_neg hc])).trans hk⟩
  | burn =>
    intro hf
    exact (hf _ List.mem_cons_self).elim
  | @execute w w₁ w' _ _ _ _ _ _ _ hc _ ih =>
    intro hf
    obtain ⟨hd₁, hk₁⟩ := hR hc (hf _ List.mem_cons_self)
    have hs : w₁.staking.config.stakedDenom = w.staking.config.stakedDenom :=
      congrArg Prod.snd hd₁
    obtain ⟨hd, hk⟩ := ih fun e he => hs ▸ hf e (List.mem_cons_of_mem _ he)
    exact ⟨hd.trans hd₁, hk₁.trans hk⟩

section Handlers

variable {n : Nat} {env : Env} {s : String} {funds : Coins} {resp : Response}
  {R : World → String → Coins → ExecuteMsg → World → List Event → List Move → Prop}
  {evs : List Event} {ms : List Move}

theorem takeFunds_backs {c : ContractName} (h : w.takeFunds s c funds = .ok w₁)
    (hs : s ≠ stakingAccount) (hr : w.BackingReady) :
    Backs w w₁ (-(if stakingAccount = c.account then funds.amountOf w.staking.config.baseDenom
      else 0)) := by
  have hb := (takeFunds_balance h stakingAccount w.staking.config.baseDenom).1
  rw [if_neg (Ne.symm hs)] at hb
  obtain ⟨l, hl, rfl⟩ := takeFunds_eq_ok h
  have hsup : l.supply = w.ledger.supply := takeFunds_supply h
  have hl' : l.Conserved ∧ l.SupplyFits :=
    Result.foldlM_preserves (P := fun l => l.Conserved ∧ l.SupplyFits) (f := Move.apply)
      (fun hm hp => ⟨hp.1.apply hm, hp.2.apply hm hp.1⟩) hl ⟨hr.conserved, hr.fits⟩
  refine ⟨⟨hr.denoms, hl'.1, hl'.2, hr.warmups⟩, ?_⟩
  simp only [poolMargin, Ledger.supplyOf, hsup] at hb ⊢
  omega

theorem dispatch_feeds {msg : ExecuteMsg} (hd : w₁.dispatch env s funds msg = .ok (w₂, resp))
    (hm : ∀ rcp, msg ≠ .stake rcp ∧ msg ≠ .claim rcp ∧ msg ≠ .unstake rcp)
    (hne : w₁.staking.config.baseDenom ≠ w₁.staking.config.stakedDenom) :
    w₂.staking.warmups = w₁.staking.warmups ∧
      ∀ e ∈ resp.effects, e.Feeds msg.contract w₁.staking.config.stakedDenom := by
  by_cases hs : msg.isSetting = true
  · obtain ⟨he, -, -, -, hw, -⟩ := dispatch_setting hs hd
    simp [he, hw]
  cases msg <;>
    simp only [dispatch, Result.bind_eq_ok, Result.pure_eq_ok, Prod.exists, Prod.mk.injEq] at hd
  case deposit =>
    obtain ⟨b, r, hb, rfl, rfl⟩ := hd
    obtain ⟨_, _, _, _, _, _, -, -, -, -, -, -, -, -, -, he⟩ := Bond.deposit_shape hb
    simp [he, Effect.Feeds, bondAccount_ne_stakingAccount, ExecuteMsg.contract,
      ContractName.account]
  case redeem =>
    obtain ⟨b, r, hb, rfl, rfl⟩ := hd
    obtain ⟨_, _, _, -, -, -, he⟩ := Bond.redeem_eq_ok hb
    refine ⟨rfl, ?_⟩
    rw [he]
    split_ifs <;> simp [Effect.Feeds, bondAccount_ne_stakingAccount, ExecuteMsg.contract,
      ContractName.account]
  case stake rcp => exact absurd rfl (hm rcp).1
  case claim rcp => exact absurd rfl (hm rcp).2.1
  case unstake rcp => exact absurd rfl (hm rcp).2.2
  case rebase =>
    obtain ⟨st, r, hst, rfl, rfl⟩ := hd
    obtain ⟨hw, -, -, he | ⟨_, he⟩⟩ := Staking.rebase_eq_ok hst <;>
      simp [hw, he, Effect.Feeds, Coin.of, hne]
  case mint =>
    obtain ⟨r, hr, rfl, rfl⟩ := hd
    obtain ⟨-, _, -, -, he⟩ := Staking.mint_eq_ok hr
    simp [he, Effect.Feeds, Coin.of, hne]
  all_goals simp [ExecuteMsg.isSetting] at hs

/-- A stake lowers the margin by at most the base tokens it takes in: it mints no more, or moves
them on to the escrow. -/
theorem stake_backs {rcp : String} (hd : w₁.dispatch env s funds (.stake rcp) = .ok (w₂, resp))
    (hrun : EffectsRun R .staking w₂ resp.effects w' evs ms) (hr : w₁.BackingReady) :
    Backs w₁ w' (funds.amountOf w₁.staking.config.baseDenom) := by
  simp only [dispatch, Result.bind_eq_ok, Result.pure_eq_ok, Prod.exists, Prod.mk.injEq] at hd
  obtain ⟨st, r, hst, rfl, rfl⟩ := hd
  obtain ⟨amount, minted, rcp', hamt, h0, hle, hcfg, -, hcases⟩ := Staking.stake_mints_within hst
  obtain ⟨rfl, -⟩ := oneCoin_eq_ok hamt
  have h₁ : Backs w₁ { w₁ with staking := st } 0 :=
    ⟨⟨by rw [hcfg]; exact hr.denoms, hr.conserved, hr.fits, Staking.WarmupsCovered.stake hst hr.warmups⟩,
      by simp [poolMargin, hcfg]⟩
  have hfunds : Coins.amountOf [Coin.of w₁.staking.config.baseDenom amount]
      w₁.staking.config.baseDenom = amount := by simp [Coins.amountOf_single]
  rw [hfunds]
  rcases hcases with ⟨-, he⟩ | ⟨_, -, -, -, he⟩ <;> rw [he] at hrun
  · -- without a warmup the staked tokens are minted at once
    cases hrun with
    | mint _ hl hnil =>
      cases hnil
      have h₂ := backs_mint h₁.1 hl
      simp only [Coin.of, hcfg, Option.getD_some, if_true] at h₂
      exact (h₁.trans h₂).mono (by omega)
  · -- with a warmup the amount leaves the pool for the escrow
    cases hrun with
    | send _ hl hnil =>
      cases hnil
      have h₂ := backs_send h₁.1 hl
      simp only [stakingAccount_ne_warmupAccount, if_true, if_false, sub_zero,
        Coins.amountOf_single, hcfg] at h₂
      exact (h₁.trans h₂).mono (by omega)

/-- A claim mints what the warmup recorded and puts its principal, no less, back in the pool; a
refund before the unlock sends the principal out of the escrow. -/
theorem claim_backs {rcp : String} (hd : w₁.dispatch env s funds (.claim rcp) = .ok (w₂, resp))
    (hrun : EffectsRun R .staking w₂ resp.effects w' evs ms) (hr : w₁.BackingReady) :
    Backs w₁ w' 0 := by
  simp only [dispatch, Result.bind_eq_ok, Result.pure_eq_ok, Prod.exists, Prod.mk.injEq] at hd
  obtain ⟨st, r, hst, rfl, rfl⟩ := hd
  obtain ⟨wu, rcp', pts, hget, -, hst', he⟩ := Staking.claim_eq_ok hst
  obtain ⟨hm0, hmp⟩ := hr.warmups s wu hget
  have hcfg : st.config = w₁.staking.config := by rw [hst']
  have h₁ : Backs w₁ { w₁ with staking := st } 0 :=
    ⟨⟨by rw [hcfg]; exact hr.denoms, hr.conserved, hr.fits, hr.warmups.erase (by rw [hst'])⟩,
      by simp [poolMargin, hcfg]⟩
  have hlast : ∀ {w₃ : World} {dst : String} {l : Ledger}, w₃.BackingReady →
      w₃.staking.config.baseDenom = w₁.staking.config.baseDenom →
      w₃.ledger.send warmupAccount dst (coinsOf w₁.staking.config.baseDenom wu.principal) = .ok l →
      Backs w₃ { w₃ with ledger := l }
        (-(if stakingAccount = dst then wu.principal else 0)) := by
    intro w₃ dst l hr₃ hden hl
    have h₂ := backs_send hr₃ hl
    simp only [stakingAccount_ne_warmupAccount, if_false, zero_sub, hden,
      Coins.amountOf_coinsOf _ (hm0.trans hmp)] at h₂
    exact h₂
  rcases he with he | he <;> rw [he] at hrun
  · -- refunded before the unlock
    cases hrun with
    | send _ hl hnil =>
      cases hnil
      exact (h₁.trans (hlast h₁.1 (by simp [hcfg]) hl)).mono (by split_ifs <;> omega)
  · split_ifs at hrun
    · cases hrun with
      | mint _ hm hrest =>
        cases hrest with
        | send _ hl hnil =>
          cases hnil
          have h₂ := backs_mint h₁.1 hm
          simp only [Coin.of, Option.getD_some, hcfg, if_true] at h₂
          exact ((h₁.trans h₂).trans (hlast h₂.1 (by simp [hcfg]) hl)).mono (by simp; omega)
    · cases hrun with
      | send _ hl hnil =>
        cases hnil
        exact (h₁.trans (hlast h₁.1 (by simp [hcfg]) hl)).mono (by simp; omega)

/-- An unstake burns the staked tokens it redeems and pays them at the pool's rate out of the
pool: what it pays is at most the pool's margin and what it burns, so the pool stays at least the
rest of the supply. -/
theorem unstake_keepsBacking {rcp : String}
    (hd : w₁.dispatch env s funds (.unstake rcp) = .ok (w₂, resp))
    (hrun : EffectsRun R .staking w₂ resp.effects w' evs ms)
    (hheld : funds.amountOf w₁.staking.config.stakedDenom ≤
      w₁.ledger.balance stakingAccount w₁.staking.config.stakedDenom) :
    KeepsBacking w₁ w' := by
  intro hr h0
  simp only [dispatch, Result.bind_eq_ok, Result.pure_eq_ok, Prod.exists, Prod.mk.injEq] at hd
  obtain ⟨st, r, hst, rfl, rfl⟩ := hd
  obtain ⟨amount, rate, p, rcp', hamt, hrate, hp, hcfg, hws, he⟩ := Staking.unstake_pays hst
  obtain ⟨rfl, ha⟩ := oneCoin_eq_ok hamt
  obtain ⟨hfD, -, hrate'⟩ := Staking.currentRate_eq_ok hrate
  simp only [sub_zero] at hfD hrate'
  -- what is redeemed is part of the supply, which the pool covers
  have haS : amount ≤ w₁.ledger.supplyOf w₁.staking.config.stakedDenom := by
    have := hr.conserved.balance_le_supplyOf stakingAccount w₁.staking.config.stakedDenom
    simp only [Coins.amountOf_single, if_true] at hheld
    omega
  have hS0 := Ledger.supplyOf_nonneg hr.conserved.supply w₁.staking.config.stakedDenom
  have hfit : (w₁.ledger.balance stakingAccount w₁.staking.config.baseDenom).natAbs <
      Int256.limit := by simpa [Int256.fits] using hfD
  obtain ⟨p', hp', hp0, hple⟩ :=
    unstake_payout hS0 (by simp only [poolMargin] at h0; omega) ha.le haS hfit hrate'
  rw [hp] at hp'
  cases hp'
  rw [he] at hrun
  cases hrun with
  | @burn _ _ _ _ _ l₁ _ _ _ _ hl₁ hrest =>
    cases hrest with
    | @send _ _ _ _ _ _ l₂ _ _ _ hl₂ hnil =>
      cases hnil
      -- the burn takes what is redeemed out of the supply and leaves the pool's base tokens
      have hD₁ : l₁.balance stakingAccount w₁.staking.config.baseDenom =
          w₁.ledger.balance stakingAccount w₁.staking.config.baseDenom := by
        have := Ledger.balance_burn hl₁ stakingAccount w₁.staking.config.baseDenom
        simpa [Coin.of, hr.denoms.symm] using this
      have hS₁ : l₁.supplyOf w₁.staking.config.stakedDenom + amount =
          w₁.ledger.supplyOf w₁.staking.config.stakedDenom := by
        simpa [Coin.of] using Ledger.supplyOf_burn hl₁ w₁.staking.config.stakedDenom
      -- the payout leaves the pool, unless it pays the pool itself
      have hD₂ : l₁.balance stakingAccount w₁.staking.config.baseDenom - p.truncate ≤
          l₂.balance stakingAccount w₁.staking.config.baseDenom := by
        have := Ledger.balance_send hl₂ stakingAccount w₁.staking.config.baseDenom
        simp only [if_true, Coins.amountOf_coinsOf _ hp0] at this
        split_ifs at this <;> omega
      have hS₂ : l₂.supplyOf w₁.staking.config.stakedDenom =
          l₁.supplyOf w₁.staking.config.stakedDenom := by
        simp only [Ledger.supplyOf, Ledger.supply_send hl₂]
      have hc₁ := hr.conserved.burn hl₁
      refine ⟨⟨by rw [hcfg]; exact hr.denoms, hc₁.send hl₂, (hr.fits.burn hl₁ hc₁).send hl₂,
        hr.warmups.of_eq hws⟩, ?_⟩
      simp only [poolMargin, hcfg]
      omega

/-- A handler called by anyone but the pool keeps the backing, with the funds it takes in and the
effects it emits: what a stake mints is paid for by its funds, and every other handler but an
unstake only feeds the pool. -/
theorem handler_keepsBacking {msg : ExecuteMsg} (hs : s ≠ stakingAccount)
    (htf : w.takeFunds s msg.contract funds = .ok w₁)
    (hd : w₁.dispatch env s funds msg = .ok (w₂, resp))
    (hrun : EffectsRun (fun w s f m w' evs ms => w.Runs n env s f m w' evs ms ∧
      (s ≠ stakingAccount → KeepsBacking w w')) msg.contract w₂ resp.effects w' evs ms) :
    KeepsBacking w w' := by
  intro hr h0
  have h₁ := takeFunds_backs htf hs hr
  have hin : 0 ≤ w₁.poolMargin := by
    have := h₁.2
    have := (takeFunds_balance htf stakingAccount w.staking.config.baseDenom).2
    split_ifs at * <;> omega
  have hgen : (∀ rcp, msg ≠ .stake rcp ∧ msg ≠ .claim rcp ∧ msg ≠ .unstake rcp) →
      w'.BackingReady ∧ 0 ≤ w'.poolMargin := by
    intro hm
    obtain ⟨hw, hfe⟩ := dispatch_feeds hd hm h₁.1.denoms
    have h₂ := backs_frame h₁.1 (dispatch_ledger hd) (dispatch_denoms hd) hw
    have hs₂ : w₂.staking.config.stakedDenom = w₁.staking.config.stakedDenom :=
      congrArg Prod.snd (dispatch_denoms hd)
    obtain ⟨-, h₃⟩ := hrun.keepsBacking (fun hR hc => ⟨(Runs.authorized hR.1).1, hR.2 hc⟩)
      (fun e he => hs₂ ▸ hfe e he)
    exact h₃ h₂.1 (by have := h₂.2; omega)
  cases msg
  case stake rcp =>
    have h₂ := stake_backs hd hrun h₁.1
    obtain ⟨l, -, rfl⟩ := takeFunds_eq_ok htf
    have := (h₁.trans h₂).2
    simp only [ExecuteMsg.contract, ContractName.account, if_true, neg_add_cancel, add_zero] at this
    exact ⟨h₂.1, by omega⟩
  case claim rcp =>
    have h₂ := claim_backs hd hrun h₁.1
    exact ⟨h₂.1, by have := h₂.2; omega⟩
  case unstake rcp =>
    -- the pool holds at least the staked tokens the call brought in
    have hheld : funds.amountOf w₁.staking.config.stakedDenom ≤
        w₁.ledger.balance stakingAccount w₁.staking.config.stakedDenom := by
      have hb := (takeFunds_balance htf stakingAccount w.staking.config.stakedDenom).1
      have := Ledger.balance_nonneg hr.conserved.balances stakingAccount w.staking.config.stakedDenom
      obtain ⟨l, -, rfl⟩ := takeFunds_eq_ok htf
      simp only [ExecuteMsg.contract, ContractName.account, if_true, Ne.symm hs, if_false,
        add_zero] at hb ⊢
      omega
    exact unstake_keepsBacking hd hrun hheld h₁.1 hin
  all_goals exact hgen (by simp)

end Handlers

theorem Runs.keepsBacking {n : Nat} {env : Env} {s : String} {funds : Coins} {msg : ExecuteMsg}
    {evs : List Event} {ms : List Move} (h : w.Runs n env s funds msg w' evs ms)
    (hs : s ≠ stakingAccount) : KeepsBacking w w' := by
  refine Runs.induction (fun w s _ _ w' => s ≠ stakingAccount → KeepsBacking w w') ?_ h hs
  intro n w w₁ w₂ w' s funds msg resp evs ms htf hd hrun hs
  exact handler_keepsBacking hs htf hd hrun

/-- A pool at least the staked supply, in a conserved ledger with every supply in range, has the
rate of the pool over the supply, never below one, and pays an unstake of any amount a holder has
staked out of what it holds. -/
theorem backed_rate (hc : w.ledger.Conserved) (hf : w.ledger.SupplyFits)
    (h0 : w.ledger.supplyOf w.staking.config.stakedDenom ≤
      w.ledger.balance stakingAccount w.staking.config.baseDenom) :
    (∃ r, w.staking.currentRate w.ledger 0 0 = .ok r ∧
      r.units = max (Dec.scale : Int) (w.ledger.balance stakingAccount w.staking.config.baseDenom *
        Dec.scale / w.ledger.supplyOf w.staking.config.stakedDenom)) ∧
    ∀ holder a r, 0 ≤ a → a ≤ w.ledger.balance holder w.staking.config.stakedDenom →
      w.staking.currentRate w.ledger 0 0 = .ok r →
      ∃ p, (Dec.ofInt a).mul r = .ok p ∧ 0 ≤ p.truncate ∧
        p.truncate ≤ w.ledger.balance stakingAccount w.staking.config.baseDenom := by
  have hS0 := Ledger.supplyOf_nonneg hc.supply w.staking.config.stakedDenom
  -- the pool is in range, being part of the supply of the base token
  have hfit : (w.ledger.balance stakingAccount w.staking.config.baseDenom).natAbs <
      Int256.limit := by
    have hD0 := Ledger.balance_nonneg hc.balances stakingAccount w.staking.config.baseDenom
    have hDle := hc.balance_le_supplyOf stakingAccount w.staking.config.baseDenom
    have hB := hf w.staking.config.baseDenom
    simp only [Int256.fits, decide_eq_true_eq] at hB
    omega
  have hrate := Staking.currentRate_zero rfl rfl (by simpa [Int256.fits] using hfit)
    (hf w.staking.config.stakedDenom)
  refine ⟨hrate ▸ exchangeRate_backed hS0 h0 hfit, fun holder a r ha hle hr => ?_⟩
  rw [hrate] at hr
  have haS : a ≤ w.ledger.supplyOf w.staking.config.stakedDenom :=
    hle.trans (hc.balance_le_supplyOf holder _)
  obtain ⟨p, hp, hp0, hple⟩ := unstake_payout hS0 h0 ha haS hfit hr
  exact ⟨p, hp, hp0, by omega⟩

end World

namespace Chain

open World

def Call.Backed (call : Call) : Prop :=
  call.External ∧ ∀ now g c', call = .instantiate now g → ({} : Chain).instantiate now g = .ok c' →
    c'.world.ledger.supplyOf c'.world.staking.config.stakedDenom ≤
      c'.world.ledger.balance stakingAccount c'.world.staking.config.baseDenom

theorem instantiate_backingReady {c' : Chain} {now : Instant} {g : Genesis}
    (h : ({} : Chain).instantiate now g = .ok c') : c'.world.BackingReady := by
  obtain ⟨-, -, -, hst, -⟩ := instantiate_eq_ok h
  have hl : c'.world.ledger.Conserved ∧ c'.world.ledger.SupplyFits :=
    instantiate_ledger (P := fun l => l.Conserved ∧ l.SupplyFits)
      (fun hm hp => ⟨hp.1.mint hm, hp.2.mint hm⟩) h
      ⟨Ledger.conserved_empty, fun _ => rfl⟩
  refine ⟨(instantiate_debtBounded h).denoms, hl.1, hl.2, fun a e he => ?_⟩
  rw [Staking.init_warmups hst] at he
  simp [KeyMap.empty, KeyMap.get?] at he

/-- In every instantiated chain that outside calls reach from a backed genesis, the backing is
ready and the pool holds at least the staked supply. -/
theorem Reachable.backed {c : Chain} (hc : c.Reachable Call.Backed) (hi : c.instantiated = true) :
    c.world.BackingReady ∧ 0 ≤ c.world.poolMargin := by
  refine Reachable.induction
    (P := fun c => c.instantiated = true → c.world.BackingReady ∧ 0 ≤ c.world.poolMargin)
    ?_ ?_ ?_ ?_ hc hi
  · intro h
    cases h
  · intro c' now g ha h _
    have := ha.2 now g c' rfl h
    exact ⟨instantiate_backingReady h, by simp only [poolMargin]; omega⟩
  · intro c now s funds msg w evs ms ha _ hs hi hrun _
    obtain ⟨hr, h0⟩ := hs hi
    exact hrun.keepsBacking (ha.1 s rfl).2.1 hr h0
  · -- a transfer from an outside account only adds to the pool
    intro c now src dst coins l ha _ hs hi hl _
    dsimp only
    obtain ⟨hr, h0⟩ := hs hi
    have hb := backs_send hr hl
    have hn := Ledger.amountOf_nonneg_of_send hl c.world.staking.config.baseDenom
    rw [if_neg (Ne.symm (ha.1 src rfl).2.1)] at hb
    exact ⟨hb.1, by have := hb.2; split_ifs at this <;> omega⟩

theorem Reachable.pool_covers {c : Chain} (hc : c.Reachable Call.Backed) :
    c.world.ledger.Conserved ∧ c.world.ledger.SupplyFits ∧
      c.world.ledger.supplyOf c.world.staking.config.stakedDenom ≤
        c.world.ledger.balance stakingAccount c.world.staking.config.baseDenom := by
  cases hi : c.instantiated
  · have hg : c.genesisTime = none := by simpa [instantiated] using hi
    rw [hc.eq_empty hg]
    exact ⟨Ledger.conserved_empty, fun _ => rfl, le_rfl⟩
  · obtain ⟨hr, h0⟩ := hc.backed hi
    exact ⟨hr.conserved, hr.fits, by simp only [poolMargin] at h0; omega⟩

/-- The staked token stays fully backed. In every chain that outside accounts reach from a genesis
that leaves the pool at least the staked supply, the pool still holds at least the staked supply;
the rate is the larger of one and the pool over the supply truncated to eighteen places; and an
unstake of any amount up to what a holder has staked pays out no more than the pool holds. -/
theorem staked_fully_backed {c : Chain} (hc : c.Reachable Call.Backed) :
    c.world.ledger.supplyOf c.world.staking.config.stakedDenom ≤
      c.world.ledger.balance stakingAccount c.world.staking.config.baseDenom ∧
    (∃ r, c.world.staking.currentRate c.world.ledger 0 0 = .ok r ∧
      r.units = max (Dec.scale : Int)
        (c.world.ledger.balance stakingAccount c.world.staking.config.baseDenom * Dec.scale /
          c.world.ledger.supplyOf c.world.staking.config.stakedDenom)) ∧
    ∀ holder a r, 0 ≤ a → a ≤ c.world.ledger.balance holder c.world.staking.config.stakedDenom →
      c.world.staking.currentRate c.world.ledger 0 0 = .ok r →
      ∃ p, (Dec.ofInt a).mul r = .ok p ∧ 0 ≤ p.truncate ∧
        p.truncate ≤ c.world.ledger.balance stakingAccount c.world.staking.config.baseDenom := by
  obtain ⟨hcon, hfit, h0⟩ := hc.pool_covers
  exact ⟨h0, backed_rate hcon hfit h0⟩

/-- The deployment, with the treasury's stake at second 10, is reached by backed calls: the
deployment genesis leaves an empty pool and no staked supply, and the treasury is an outside
account. -/
theorem stakedAtTen_reachable : stakedAtTen.Reachable Call.Backed := by
  refine .step _ ⟨?_, ?_⟩ (.step _ ⟨?_, ?_⟩ .empty)
  · -- the treasury is none of the module accounts
    intro a ha
    cases ha
    decide +kernel
  · intro now g c' heq
    cases heq
  · intro a ha
    cases ha
  · -- the deployment mints no staked tokens, and no balance is negative
    intro now g c' heq h
    obtain ⟨hnow, hg⟩ := Call.instantiate.inj heq
    have hD := Ledger.balance_nonneg (instantiate_backingReady h).conserved.balances stakingAccount
      c'.world.staking.config.baseDenom
    have hS : (({} : Chain).instantiate now g).map
        (fun c => c.world.ledger.supplyOf c.world.staking.config.stakedDenom) = .ok 0 := by
      rw [← hnow, ← hg]
      decide +kernel
    rw [h] at hS
    have hS0 : c'.world.ledger.supplyOf c'.world.staking.config.stakedDenom = 0 := Except.ok.inj hS
    omega

theorem staked_fully_backed_after_stake :
    stakedAtTen.world.ledger.supplyOf stakedAtTen.world.staking.config.stakedDenom ≤
      stakedAtTen.world.ledger.balance stakingAccount stakedAtTen.world.staking.config.baseDenom ∧
    (∃ r, stakedAtTen.world.staking.currentRate stakedAtTen.world.ledger 0 0 = .ok r ∧
      r.units = max (Dec.scale : Int)
        (stakedAtTen.world.ledger.balance stakingAccount stakedAtTen.world.staking.config.baseDenom *
          Dec.scale / stakedAtTen.world.ledger.supplyOf stakedAtTen.world.staking.config.stakedDenom)) ∧
    ∀ holder a r, 0 ≤ a →
      a ≤ stakedAtTen.world.ledger.balance holder stakedAtTen.world.staking.config.stakedDenom →
      stakedAtTen.world.staking.currentRate stakedAtTen.world.ledger 0 0 = .ok r →
      ∃ p, (Dec.ofInt a).mul r = .ok p ∧ 0 ≤ p.truncate ∧
        p.truncate ≤
          stakedAtTen.world.ledger.balance stakingAccount stakedAtTen.world.staking.config.baseDenom :=
  staked_fully_backed stakedAtTen_reachable

end Chain

end Bonding

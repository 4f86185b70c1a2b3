import Mathlib
import Bonding.Proofs.Ledger
import Bonding.Staking.Contract
set_option autoImplicit false

/-!
What each staking handler does when it succeeds: which parts of the contract state it changes and
which effects it emits. The handlers never touch the two denominations of the configuration; the
warmups change only by a stake (one entry grows by the staked amount) and a claim (the claimant's
entry is removed and its principal leaves escrow).
-/

namespace Bonding

theorem StakingConfigInput.validate_eq_ok {c : StakingConfigInput} {cfg : StakingConfig}
    (h : c.validate = .ok cfg) : ∃ apr, c.epochApr = some apr ∧
      cfg = ⟨c.admin, c.baseDenom, c.stakedDenom, c.epochLength, apr, c.nextEpochApr, c.warmupLength,
        c.minters.getD [], c.pointsEnabled⟩ := by
  unfold StakingConfigInput.validate at h
  dsimp only at h
  -- the checks before the yield: each failing one throws
  split at h
  · cases h
  split at h
  · cases h
  split at h
  · cases h
  split at h
  · cases h
  split at h
  · cases h
  split at h
  · split at h
    · cases h
    refine ⟨_, ‹_›, ?_⟩
    -- what is left is the optional next yield and the minter loop, and neither changes the record
    have hlast : ∀ {x : Result PUnit} {r : StakingConfig}, (x >>= fun _ => pure r) = .ok cfg → cfg = r := by
      intro x r hx
      obtain ⟨_, -, hr⟩ := Result.bind_eq_ok.mp hx
      exact (Result.pure_eq_ok.mp hr).symm
    simp only [pure_bind] at h
    split at h
    · split at h
      · cases h
      · exact hlast h
    · exact hlast h
  · cases h

namespace Staking

variable {s s' : Staking}

theorem setEpoch_eq_ok {e : EpochState} (h : s.setEpoch e = .ok s') : s' = { s with epoch := e } := by
  simp only [setEpoch, Result.bind_eq_ok, Result.pure_eq_ok] at h
  obtain ⟨-, -, rfl⟩ := h
  rfl

theorem setWarmup_eq_ok {a : String} {w : WarmupEntry} (h : s.setWarmup a w = .ok s') :
    s' = { s with warmups := s.warmups.insert a w } := by
  simp only [setWarmup, Result.bind_eq_ok, Result.pure_eq_ok] at h
  obtain ⟨-, -, rfl⟩ := h
  rfl

theorem setPoints_eq_ok {a : String} {p : StakingPoints} (h : s.setPoints a p = .ok s') :
    s' = { s with points := s.points.insert a p } := by
  simp only [setPoints, Result.bind_eq_ok, Result.pure_eq_ok] at h
  obtain ⟨-, -, rfl⟩ := h
  rfl

theorem accruePoints_eq_ok {l : Ledger} {env : Env} {a : String} {held : Int}
    (h : s.accruePoints l env a held = .ok s') : ∃ pts, s' = { s with points := pts } := by
  unfold accruePoints at h
  cases he : s.config.pointsEnabled with
  | false =>
    simp only [he, Bool.not_false, if_true, Result.pure_eq_ok] at h
    exact ⟨s.points, h.symm⟩
  | true =>
    cases hj : (s.pointsOf a).jailed with
    | true =>
      simp only [he, hj, Bool.not_true, Bool.false_eq_true, if_false, if_true,
        Result.pure_eq_ok] at h
      exact ⟨s.points, h.symm⟩
    | false =>
      simp only [he, hj, Bool.not_true, Bool.false_eq_true, if_false, Result.bind_eq_ok] at h
      obtain ⟨pending, -, total, -, h⟩ := h
      exact ⟨_, setPoints_eq_ok h⟩

/-- Staking takes one coin of the base denomination and either mints the staked tokens at once
or, with a warmup, adds the amount to the recipient's escrowed principal and moves it to escrow. -/
theorem stake_eq_ok {l : Ledger} {env : Env} {sender toAddr : String} {funds : Coins}
    {r : Response} (h : s.stake l env sender funds toAddr = .ok (s', r)) :
    ∃ amount recipient minted pts,
      oneCoin funds s.config.baseDenom = .ok amount ∧ recipientOf toAddr sender = .ok recipient ∧
      0 < minted ∧
      ((s.config.warmupLength = 0 ∧ s' = { s with points := pts } ∧
          r.effects = [.mint (Coin.of s.config.stakedDenom minted) recipient]) ∨
       (s.config.warmupLength ≠ 0 ∧
          (∃ w : WarmupEntry,
            w.principal = (s.warmups.getD recipient ⟨0, 0, default⟩).principal + amount ∧
            s' = { s with points := pts, warmups := s.warmups.insert recipient w }) ∧
          r.effects = [.send stakingAccount warmupAccount [Coin.of s.config.baseDenom amount]])) := by
  simp only [stake, Result.bind_eq_ok] at h
  obtain ⟨amount, hamt, recipient, hrec, rate, -, minted, -, h⟩ := h
  split at h
  · cases h
  rename_i hpos
  simp only [Result.bind_eq_ok] at h
  obtain ⟨s₁, hs₁, h⟩ := h
  obtain ⟨pts, rfl⟩ := accruePoints_eq_ok hs₁
  refine ⟨amount, recipient, minted.truncate, pts, hamt, hrec, by omega, ?_⟩
  split at h
  · rename_i hw
    simp only [Result.bind_eq_ok, Result.pure_eq_ok] at h
    obtain ⟨_, rfl, h⟩ := h
    simp only [Prod.mk.injEq] at h
    obtain ⟨rfl, rfl⟩ := h
    exact .inl ⟨hw, rfl, rfl⟩
  · rename_i hw
    simp only [Result.bind_eq_ok, Result.pure_eq_ok] at h
    obtain ⟨p, hp, m, -, s₂, hs₂, _, rfl, h⟩ := h
    simp only [Prod.mk.injEq] at h
    obtain ⟨rfl, rfl⟩ := h
    refine .inr ⟨hw, ⟨_, ?_, setWarmup_eq_ok hs₂⟩, rfl⟩
    -- the new principal is the checked sum, which is the plain sum when it is in range
    simp only [Int256.add, Int256.checked] at hp
    split at hp
    · cases hp
      rfl
    · cases hp

/-- A claim removes the claimant's warmup entry and sends its principal out of escrow: back to the
recipient before the unlock time, into the pool after it, with the staked tokens minted. -/
theorem claim_eq_ok {l : Ledger} {env : Env} {sender recipient : String} {r : Response}
    (h : s.claim l env sender recipient = .ok (s', r)) :
    ∃ w rcp pts, s.warmups.get? sender = some w ∧ recipientOf recipient sender = .ok rcp ∧
      s' = { s with warmups := s.warmups.erase sender, points := pts } ∧
      (r.effects = [.send warmupAccount rcp (coinsOf s.config.baseDenom w.principal)] ∨
       r.effects = (if w.minted > 0 then [.mint (Coin.of s.config.stakedDenom w.minted) rcp] else []) ++
         [.send warmupAccount stakingAccount (coinsOf s.config.baseDenom w.principal)]) := by
  unfold claim at h
  cases hw : s.warmups.get? sender with
  | none =>
    simp only [hw] at h
    cases h
  | some w =>
    simp only [hw, Result.bind_eq_ok] at h
    obtain ⟨rcp, hrcp, s₁, hs₁, h⟩ := h
    obtain ⟨pts, rfl⟩ := accruePoints_eq_ok hs₁
    refine ⟨w, rcp, pts, rfl, hrcp, ?_⟩
    split at h
    · simp only [Result.pure_eq_ok, Prod.mk.injEq] at h
      obtain ⟨rfl, rfl⟩ := h
      exact ⟨rfl, .inl rfl⟩
    · simp only [Result.pure_eq_ok, Prod.mk.injEq] at h
      obtain ⟨rfl, rfl⟩ := h
      exact ⟨rfl, .inr rfl⟩

theorem unstake_eq_ok {l : Ledger} {env : Env} {sender toAddr : String} {funds : Coins}
    {r : Response} (h : s.unstake l env sender funds toAddr = .ok (s', r)) :
    ∃ amount rcp redeemed pts, oneCoin funds s.config.stakedDenom = .ok amount ∧
      recipientOf toAddr sender = .ok rcp ∧ s' = { s with points := pts } ∧
      r.effects = [.burn stakingAccount (Coin.of s.config.stakedDenom amount),
        .send stakingAccount rcp (coinsOf s.config.baseDenom redeemed)] := by
  simp only [unstake, Result.bind_eq_ok, Result.pure_eq_ok, Prod.mk.injEq] at h
  obtain ⟨amount, hamt, rcp, hrcp, rate, -, redeemed, -, s₁, hs₁, rfl, rfl⟩ := h
  obtain ⟨pts, rfl⟩ := accruePoints_eq_ok hs₁
  exact ⟨amount, rcp, redeemed.truncate, pts, hamt, hrcp, rfl, rfl⟩

/-- A rebase keeps the warmups and the two denominations, and mints nothing but base tokens for
the pool. -/
theorem rebase_eq_ok {l : Ledger} {env : Env} {r : Response} (h : s.rebase l env = .ok (s', r)) :
    s'.warmups = s.warmups ∧ s'.config.baseDenom = s.config.baseDenom ∧
      s'.config.stakedDenom = s.config.stakedDenom ∧
      (r.effects = [] ∨ ∃ amount, r.effects = [.mint (Coin.of s.config.baseDenom amount) stakingAccount]) := by
  unfold rebase at h
  split at h
  · simp only [Result.pure_eq_ok, Prod.mk.injEq] at h
    obtain ⟨rfl, rfl⟩ := h
    exact ⟨rfl, rfl, rfl, .inl rfl⟩
  dsimp only at h
  split at h
  · cases h
  simp only [Result.bind_eq_ok, Result.pure_eq_ok, Prod.mk.injEq] at h
  obtain ⟨balance, -, amount, -, s₁, hs₁, rfl, rfl⟩ := h
  have hs₁' := setEpoch_eq_ok hs₁
  subst hs₁'
  -- a staged yield replaces the running one; nothing else of the configuration moves
  refine ⟨?_, ?_, ?_, ?_⟩
  · split <;> rfl
  · split <;> rfl
  · split <;> rfl
  · dsimp only
    split
    · exact .inr ⟨_, rfl⟩
    · exact .inl rfl

theorem mint_eq_ok {sender toAddr : String} {amount : Option Int} {r : Response}
    (h : s.mint sender toAddr amount = .ok r) :
    s.config.isMinter sender = true ∧ ∃ a, amount = some a ∧ 0 < a ∧
      r.effects = [.mint (Coin.of s.config.baseDenom a) toAddr] := by
  unfold mint at h
  cases hm : s.config.isMinter sender with
  | false =>
    simp only [hm, Bool.not_false, if_true] at h
    cases h
  | true =>
    simp only [hm, Bool.not_true, Bool.false_eq_true, if_false] at h
    refine ⟨rfl, ?_⟩
    cases amount with
    | none => cases h
    | some a =>
      by_cases ha : a > 0
      · simp only [ha, if_true, pure_bind] at h
        split at h
        · cases h
        · exact ⟨a, rfl, ha, by cases h; rfl⟩
      · simp only [ha, if_false] at h
        cases h

/-- A configuration update replaces the configuration by one with the same two denominations
and emits nothing. -/
theorem updateConfig_eq_ok {sender : String} {u : StakingConfigUpdate} {r : Response}
    (h : s.updateConfig sender u = .ok (s', r)) :
    ∃ cfg, s' = { s with config := cfg } ∧ cfg.baseDenom = s.config.baseDenom ∧
      cfg.stakedDenom = s.config.stakedDenom ∧ r.effects = [] := by
  unfold updateConfig at h
  by_cases ha : (sender != s.config.admin) = true
  · rw [if_pos ha] at h
    cases h
  simp only [ha, Bool.false_eq_true, if_false, Result.bind_eq_ok, Result.pure_eq_ok,
    Prod.mk.injEq] at h
  obtain ⟨cfg, hv, rfl, rfl⟩ := h
  obtain ⟨apr, -, rfl⟩ := StakingConfigInput.validate_eq_ok hv
  exact ⟨_, rfl, rfl, rfl, rfl⟩

theorem jail_eq_ok {env : Env} {sender addr : String} {jailed : Bool} {r : Response}
    (h : s.jail env sender addr jailed = .ok (s', r)) :
    ∃ p, s' = { s with points := s.points.insert addr p } ∧ r.effects = [] := by
  unfold jail at h
  by_cases ha : (sender != s.config.admin) = true
  · rw [if_pos ha] at h
    cases h
  rw [if_neg ha] at h
  cases hf : Address.fault? addr with
  | some f =>
    simp only [hf] at h
    cases h
  | none =>
    simp only [hf, Result.bind_eq_ok, Result.pure_eq_ok, Prod.mk.injEq] at h
    obtain ⟨s₁, hs₁, rfl, rfl⟩ := h
    exact ⟨_, setPoints_eq_ok hs₁, rfl⟩

end Staking

end Bonding

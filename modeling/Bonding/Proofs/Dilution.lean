import Mathlib
import Bonding.Proofs.Backing
set_option autoImplicit false

/-!
Staking dilutes only by rounding. The rate of the pool is its base balance over the staked supply,
truncated to eighteen places and never below one. An unstake pays the amount times that rate,
rounded down, which is at most its share of the pool. A stake mints the amount over the rate,
rounded down; since the truncated rate lies below the true one, that can exceed the share the
amount buys, by less than one part in 10^18 of what is minted. Still, a stake followed by an
unstake of what it minted never returns more than was staked.

Two more ways through are not rounding. The rate of a stake leaves out of the pool the amount the
call brought in, which is right only when the call brought it in: the pool staking its own tokens
mints at the rate of a pool without them. And a claim mints what its warmup recorded at the rate of
the stake, whatever the rate has become since.
-/

namespace Bonding

namespace Dec

theorem quoTruncate_truncate {a : Int} {r q : Dec} (ha : 0 ≤ a) (hr : 0 < r.units)
    (hq : (Dec.ofInt a).quoTruncate r = .ok q) : q.truncate = a * scale / r.units := by
  have hsc : (0 : Int) < scale := by exact_mod_cast scale_pos
  unfold quoTruncate at hq
  rw [if_neg hr.ne'] at hq
  obtain ⟨-, rfl⟩ := checked_eq_ok.mp hq
  have hn : 0 ≤ a * scale * scale := by positivity
  simp only [truncate, ofInt]
  rw [Int.tdiv_eq_ediv_of_nonneg hn, Int.tdiv_eq_ediv_of_nonneg (Int.ediv_nonneg hn hr.le),
    Int.ediv_ediv_of_nonneg hr.le, Int.mul_ediv_mul_of_pos_left _ _ hsc]

theorem mul_truncate {a : Int} {r p : Dec} (ha : 0 ≤ a) (hr : 0 ≤ r.units)
    (hp : (Dec.ofInt a).mul r = .ok p) : p.truncate = a * r.units / scale := by
  have hmul : a * scale * r.units = a * r.units * scale := by ring
  simp only [mul, ofInt, hmul, roundUnits_mul_scale] at hp
  obtain ⟨-, rfl⟩ := checked_eq_ok.mp hp
  exact Int.tdiv_eq_ediv_of_nonneg (Int.mul_nonneg ha hr)

end Dec

/-- Behind a positive supply the rate is the pool over the supply, truncated to eighteen places,
and never below one. -/
theorem exchangeRate_units {D S : Int} {r : Dec} (hS : 0 < S) (h : exchangeRate D S = .ok r) :
    r.units = max (Dec.scale : Int) (D * Dec.scale / S) := by
  have hsc : (0 : Int) < Dec.scale := by exact_mod_cast Dec.scale_pos
  unfold exchangeRate at h
  split at h
  · cases h
    rename_i hle
    have hD : D ≤ S := by omega
    -- a pool at most the supply gives a quotient of at most one
    have : D * Dec.scale / S ≤ Dec.scale :=
      Int.ediv_le_of_le_mul hS (by rw [Int.mul_comm Dec.scale]; exact Int.mul_le_mul_of_nonneg_right hD hsc.le)
    exact (max_eq_left this).symm
  · rename_i hlt
    simp only [Dec.quoTruncate, Dec.ofInt, (Int.mul_pos hS hsc).ne', if_false] at h
    obtain ⟨-, rfl⟩ := Dec.checked_eq_ok.mp h
    have hDs : 0 ≤ D * Dec.scale := Int.mul_nonneg (by omega) hsc.le
    rw [Int.tdiv_eq_ediv_of_nonneg (Int.mul_nonneg hDs hsc.le), Int.mul_ediv_mul_of_pos_left _ _ hsc]
    -- above the supply the quotient is at least one
    refine (max_eq_right ((Int.le_ediv_iff_mul_le hS).mpr ?_)).symm
    rw [Int.mul_comm]
    exact Int.mul_le_mul_of_nonneg_right (show S ≤ D by omega) hsc.le

section Rates

variable {a D S r : Int}

/-- What `a` over the rate mints is worth at most `a` in the pool plus one part in 10^18 of
itself: the rate is short of the pool over the supply by less than one unit. -/
theorem mint_share (ha : 0 ≤ a) (hS : 0 < S) (hr : r = max (Dec.scale : Int) (D * Dec.scale / S)) :
    a * Dec.scale / r * D * Dec.scale ≤ (a * Dec.scale + a * Dec.scale / r) * S := by
  have hsc : (0 : Int) < Dec.scale := by exact_mod_cast Dec.scale_pos
  have hr0 : 0 < r := hr ▸ lt_max_of_lt_left hsc
  set m := a * Dec.scale / r
  have hm0 : 0 ≤ m := Int.ediv_nonneg (by positivity) hr0.le
  have hmr : m * r ≤ a * Dec.scale := Int.ediv_mul_le _ hr0.ne'
  have hD : D * Dec.scale ≤ (r + 1) * S := by
    have hlt := Int.lt_ediv_add_one_mul_self (D * Dec.scale) hS
    have hq : D * Dec.scale / S + 1 ≤ r + 1 := by
      have := le_max_right (Dec.scale : Int) (D * Dec.scale / S)
      omega
    exact hlt.le.trans (Int.mul_le_mul_of_nonneg_right hq hS.le)
  calc m * D * Dec.scale = m * (D * Dec.scale) := by ring
    _ ≤ m * ((r + 1) * S) := Int.mul_le_mul_of_nonneg_left hD hm0
    _ = m * r * S + m * S := by ring
    _ ≤ a * Dec.scale * S + m * S := by
      have := Int.mul_le_mul_of_nonneg_right hmr hS.le
      omega
    _ = (a * Dec.scale + m) * S := by ring

theorem pay_share (ha : 0 ≤ a) (hS : 0 < S) (hD : S ≤ D)
    (hr : r = max (Dec.scale : Int) (D * Dec.scale / S)) : a * r / Dec.scale * S ≤ a * D := by
  have hsc : (0 : Int) < Dec.scale := by exact_mod_cast Dec.scale_pos
  have hr0 : 0 ≤ r := hr ▸ le_max_of_le_left hsc.le
  have hrS : r * S ≤ D * Dec.scale := by
    rcases max_cases (Dec.scale : Int) (D * Dec.scale / S) with ⟨hm, -⟩ | ⟨hm, -⟩
    · rw [hr, hm, Int.mul_comm]
      exact Int.mul_le_mul_of_nonneg_right hD hsc.le
    · rw [hr, hm]
      exact Int.ediv_mul_le _ hS.ne'
  have hp : a * r / Dec.scale * Dec.scale ≤ a * r := Int.ediv_mul_le _ hsc.ne'
  have hkey : a * r / Dec.scale * S * Dec.scale ≤ a * D * Dec.scale :=
    calc a * r / Dec.scale * S * Dec.scale = a * r / Dec.scale * Dec.scale * S := by ring
      _ ≤ a * r * S := Int.mul_le_mul_of_nonneg_right hp hS.le
      _ = a * (r * S) := by ring
      _ ≤ a * (D * Dec.scale) := Int.mul_le_mul_of_nonneg_left hrS ha
      _ = a * D * Dec.scale := by ring
  exact le_of_mul_le_mul_right hkey hsc

/-- Minting against a pool and paying back at the rate of the pool with the stake in it never
pays out more than was staked. The rate can only rise past the rate of the stake when the stake
brought more than its share, and then the new rate is at most what the stake paid per token. -/
theorem round_trip {r' : Int} (ha : 0 ≤ a) (hS : 0 < S)
    (hr : r = max (Dec.scale : Int) (D * Dec.scale / S))
    (hr' : r' = max (Dec.scale : Int) ((D + a) * Dec.scale / (S + a * Dec.scale / r))) :
    a * Dec.scale / r * r' / Dec.scale ≤ a := by
  have hsc : (0 : Int) < Dec.scale := by exact_mod_cast Dec.scale_pos
  have hr0 : 0 < r := hr ▸ lt_max_of_lt_left hsc
  set m := a * Dec.scale / r
  have hm0 : 0 ≤ m := Int.ediv_nonneg (by positivity) hr0.le
  have hmr : m * r ≤ a * Dec.scale := Int.ediv_mul_le _ hr0.ne'
  have hmE : m * Dec.scale ≤ a * Dec.scale :=
    (Int.mul_le_mul_of_nonneg_left (hr ▸ le_max_left _ _) hm0).trans hmr
  have hS' : 0 < S + m := by omega
  -- it suffices that the minted tokens at the new rate are worth at most `a`
  suffices hkey : m * r' ≤ a * Dec.scale from Int.ediv_le_of_le_mul hsc (by linarith)
  rcases max_cases (Dec.scale : Int) ((D + a) * Dec.scale / (S + m)) with ⟨hm, -⟩ | ⟨hm, -⟩
  · rw [hr', hm]
    exact hmE
  rw [hr', hm]
  by_cases hc : D * m ≤ a * S
  · -- the stake brought at least its share: the new rate is at most `a` per minted token
    have hx : m * ((D + a) * Dec.scale) ≤ a * Dec.scale * (S + m) := by
      have := Int.mul_le_mul_of_nonneg_right hc hsc.le
      linarith
    have hq : (D + a) * Dec.scale / (S + m) * (S + m) ≤ (D + a) * Dec.scale := Int.ediv_mul_le _ hS'.ne'
    have : m * ((D + a) * Dec.scale / (S + m)) * (S + m) ≤ a * Dec.scale * (S + m) := by
      calc m * ((D + a) * Dec.scale / (S + m)) * (S + m)
          = m * ((D + a) * Dec.scale / (S + m) * (S + m)) := by ring
        _ ≤ m * ((D + a) * Dec.scale) := Int.mul_le_mul_of_nonneg_left hq hm0
        _ ≤ a * Dec.scale * (S + m) := hx
    exact le_of_mul_le_mul_right this hS'
  · -- the stake brought less than its share: the pool per token fell, and so did the rate
    have hx : (D + a) * Dec.scale * S ≤ D * Dec.scale * (S + m) := by
      have := Int.mul_le_mul_of_nonneg_right (le_of_lt (not_le.mp hc)) hsc.le
      linarith
    have hdiv : (D + a) * Dec.scale / (S + m) ≤ D * Dec.scale / S := by
      rw [Int.le_ediv_iff_mul_le hS]
      have hq : (D + a) * Dec.scale / (S + m) * (S + m) ≤ (D + a) * Dec.scale :=
        Int.ediv_mul_le _ hS'.ne'
      have : (D + a) * Dec.scale / (S + m) * S * (S + m) ≤ D * Dec.scale * (S + m) :=
        calc (D + a) * Dec.scale / (S + m) * S * (S + m)
            = (D + a) * Dec.scale / (S + m) * (S + m) * S := by ring
          _ ≤ (D + a) * Dec.scale * S := Int.mul_le_mul_of_nonneg_right hq hS.le
          _ ≤ D * Dec.scale * (S + m) := hx
      exact le_of_mul_le_mul_right this hS'
    have hle : (D + a) * Dec.scale / (S + m) ≤ r := hdiv.trans (hr ▸ le_max_right _ _)
    exact (Int.mul_le_mul_of_nonneg_left hle hm0).trans hmr

end Rates

namespace Staking

variable {s s' : Staking} {l : Ledger} {env : Env}

/-- A stake of `a` mints `a` over the rate of the pool without `a`, rounded down, at once or
into the recipient's warmup entry. -/
theorem stake_minted {sender toAddr : String} {funds : Coins} {r : Response}
    (h : s.stake l env sender funds toAddr = .ok (s', r))
    (hS : 0 < l.supplyOf s.config.stakedDenom) :
    ∃ a m rcp, oneCoin funds s.config.baseDenom = .ok a ∧ s'.config = s.config ∧
      m = a * Dec.scale / max (Dec.scale : Int)
        ((l.balance stakingAccount s.config.baseDenom - a) * Dec.scale /
          l.supplyOf s.config.stakedDenom) ∧
      ((s'.warmups = s.warmups ∧ r.effects = [.mint (Coin.of s.config.stakedDenom m) rcp]) ∨
       (∃ e : WarmupEntry, s'.warmups = s.warmups.insert rcp e ∧
          e.principal = (s.warmups.getD rcp ⟨0, 0, default⟩).principal + a ∧
          e.minted = (s.warmups.getD rcp ⟨0, 0, default⟩).minted + m ∧
          r.effects = [.send stakingAccount warmupAccount [Coin.of s.config.baseDenom a]])) := by
  obtain ⟨a, m, rcp, hamt, -, -, hcfg, ⟨rate, q, hrate, hq, rfl⟩, hcases⟩ := stake_mints_within h
  obtain ⟨-, -, hx⟩ := currentRate_eq_ok hrate
  rw [Int.sub_zero] at hx
  have hu := exchangeRate_units hS hx
  have hr0 : 0 < rate.units := by
    rw [hu]
    exact lt_max_of_lt_left (by exact_mod_cast Dec.scale_pos)
  refine ⟨a, q.truncate, rcp, hamt, hcfg, ?_, hcases⟩
  rw [Dec.quoTruncate_truncate (oneCoin_eq_ok hamt).2.le hr0 hq, hu]

theorem unstake_paid {sender toAddr : String} {funds : Coins} {r : Response}
    (h : s.unstake l env sender funds toAddr = .ok (s', r))
    (hS : 0 < l.supplyOf s.config.stakedDenom) :
    ∃ a p rcp, oneCoin funds s.config.stakedDenom = .ok a ∧
      p = a * max (Dec.scale : Int) (l.balance stakingAccount s.config.baseDenom * Dec.scale /
        l.supplyOf s.config.stakedDenom) / Dec.scale ∧
      r.effects = [.burn stakingAccount (Coin.of s.config.stakedDenom a),
        .send stakingAccount rcp (coinsOf s.config.baseDenom p)] := by
  obtain ⟨a, rate, p, rcp, hamt, hrate, hp, -, -, he⟩ := unstake_pays h
  obtain ⟨-, -, hx⟩ := currentRate_eq_ok hrate
  simp only [Int.sub_zero] at hx
  have hu := exchangeRate_units hS hx
  have hr0 : 0 ≤ rate.units := by
    rw [hu]
    exact le_max_of_le_left (by exact_mod_cast (Nat.zero_le _))
  refine ⟨a, p.truncate, rcp, hamt, ?_, he⟩
  rw [Dec.mul_truncate (oneCoin_eq_ok hamt).2.le hr0 hp, hu]

end Staking

/-- Staking dilutes only by rounding. Let `D` be the pool's base balance and `S > 0` the staked
supply that a handler sees, the funds of its call already moved in. A stake of `a` mints `m`, the
amount over the rate of the pool without `a`, truncated, and `m` is worth at most `a` in that pool
plus one part in 10^18 of `m`, at once or into a warmup entry. An unstake of `a` with `S ≤ D` pays
`p` with `p * S ≤ a * D`. A claim refunds the principal or mints the amount its warmup recorded at
the rate of the stake. A stake minted at once, followed by an unstake of what it minted against
the same pool and that much more supply, pays back no more than the stake. -/
theorem staking_dilutes_by_rounding (s : Staking) (l : Ledger) (env : Env)
    (hS : 0 < l.supplyOf s.config.stakedDenom) :
    (∀ sender funds toAddr s' r, s.stake l env sender funds toAddr = .ok (s', r) →
      ∃ a m, oneCoin funds s.config.baseDenom = .ok a ∧
        m = a * Dec.scale / max (Dec.scale : Int)
          ((l.balance stakingAccount s.config.baseDenom - a) * Dec.scale /
            l.supplyOf s.config.stakedDenom) ∧
        m * (l.balance stakingAccount s.config.baseDenom - a) * Dec.scale ≤
          (a * Dec.scale + m) * l.supplyOf s.config.stakedDenom ∧
        ((∃ rcp, r.effects = [.mint (Coin.of s.config.stakedDenom m) rcp]) ∨
          ∃ rcp e, s'.warmups = s.warmups.insert rcp e ∧
            e.minted = (s.warmups.getD rcp ⟨0, 0, default⟩).minted + m)) ∧
    (∀ sender funds toAddr s' r, s.unstake l env sender funds toAddr = .ok (s', r) →
      l.supplyOf s.config.stakedDenom ≤ l.balance stakingAccount s.config.baseDenom →
      ∃ a p rcp, oneCoin funds s.config.stakedDenom = .ok a ∧
        p * l.supplyOf s.config.stakedDenom ≤ a * l.balance stakingAccount s.config.baseDenom ∧
        r.effects = [.burn stakingAccount (Coin.of s.config.stakedDenom a),
          .send stakingAccount rcp (coinsOf s.config.baseDenom p)]) ∧
    (∀ sender recipient s' r w, s.warmups.get? sender = some w →
      s.claim l env sender recipient = .ok (s', r) →
      ∃ rcp, r.effects = [.send warmupAccount rcp (coinsOf s.config.baseDenom w.principal)] ∨
        r.effects = (if w.minted > 0 then [.mint (Coin.of s.config.stakedDenom w.minted) rcp]
          else []) ++ [.send warmupAccount stakingAccount (coinsOf s.config.baseDenom w.principal)]) ∧
    (∀ sender funds toAddr s₁ r₁ m rcp, s.stake l env sender funds toAddr = .ok (s₁, r₁) →
      r₁.effects = [.mint (Coin.of s.config.stakedDenom m) rcp] →
      ∀ (l' : Ledger) (env' : Env) (sender' toAddr' : String) (s₂ : Staking) (r₂ : Response),
        l'.balance stakingAccount s.config.baseDenom = l.balance stakingAccount s.config.baseDenom →
        l'.supplyOf s.config.stakedDenom = l.supplyOf s.config.stakedDenom + m →
        s₁.unstake l' env' sender' [Coin.of s.config.stakedDenom m] toAddr' = .ok (s₂, r₂) →
        ∃ a p rcp', oneCoin funds s.config.baseDenom = .ok a ∧ p ≤ a ∧
          r₂.effects = [.burn stakingAccount (Coin.of s.config.stakedDenom m),
            .send stakingAccount rcp' (coinsOf s.config.baseDenom p)]) := by
  refine ⟨fun sender funds toAddr s' r h => ?_, fun sender funds toAddr s' r h hD => ?_,
    fun sender recipient s' r w hw h => ?_, fun sender funds toAddr s₁ r₁ m rcp h he => ?_⟩
  · obtain ⟨a, m, rcp, hamt, -, hm, hcases⟩ := Staking.stake_minted h hS
    refine ⟨a, m, hamt, hm, ?_, ?_⟩
    · rw [hm]
      exact mint_share (oneCoin_eq_ok hamt).2.le hS rfl
    · rcases hcases with ⟨-, he⟩ | ⟨e, hws, -, hem, -⟩
      · exact .inl ⟨rcp, he⟩
      · exact .inr ⟨rcp, e, hws, hem⟩
  · obtain ⟨a, p, rcp, hamt, hp, he⟩ := Staking.unstake_paid h hS
    exact ⟨a, p, rcp, hamt, hp ▸ pay_share (oneCoin_eq_ok hamt).2.le hS hD rfl, he⟩
  · obtain ⟨w', rcp, -, hw', -, -, he⟩ := Staking.claim_eq_ok h
    obtain rfl : w' = w := Option.some.inj (hw'.symm.trans hw)
    exact ⟨rcp, he⟩
  · -- the stake minted `m` at once, at the rate of the pool without the stake
    obtain ⟨a, m₀, rcp₀, hamt, hcfg, hm, hcases⟩ := Staking.stake_minted h hS
    obtain rfl : m₀ = m := by
      rcases hcases with ⟨-, he₀⟩ | ⟨-, -, -, -, he₀⟩ <;> rw [he₀] at he
      · simp only [List.cons.injEq, Effect.mint.injEq, Coin.of, Coin.mk.injEq, Option.some.injEq,
          and_true] at he
        exact he.1.2
      · simp at he
    intro l' env' sender' toAddr' s₂ r₂ hpool hsupply hu
    have hS' : 0 < l'.supplyOf s₁.config.stakedDenom := by
      have : 0 ≤ m₀ := hm ▸ Int.ediv_nonneg (by
        have := (oneCoin_eq_ok hamt).2
        positivity) (le_max_of_le_left (by exact_mod_cast (Nat.zero_le _)))
      rw [hcfg, hsupply]
      omega
    obtain ⟨a', p, rcp', hamt', hp, he'⟩ := Staking.unstake_paid hu hS'
    rw [hcfg] at hamt' hp he'
    obtain ⟨hfunds, -⟩ := oneCoin_eq_ok hamt'
    obtain rfl : m₀ = a' := by
      simpa [Coin.of] using hfunds
    refine ⟨a, p, rcp', hamt, ?_, he'⟩
    rw [hp, hpool, hsupply, hm]
    have hkey := round_trip (D := l.balance stakingAccount s.config.baseDenom - a)
      (oneCoin_eq_ok hamt).2.le hS rfl rfl
    rw [Int.sub_add_cancel] at hkey
    exact hkey

open Chain

def plainStaking : StakingConfig :=
  ⟨deploymentAdmin, "ubond", "usbond", 1000000, Dec.zero, none, 0, [], false⟩

def poolOfFour (funds : Int) : World where
  ledger := ⟨⟨[((stakingAccount, "ubond"), 4), ((deploymentAdmin, "usbond"), 3),
    ((deploymentTreasury, "ubond"), funds)]⟩, ⟨[("ubond", 4 + funds), ("usbond", 3)]⟩⟩
  staking := { config := plainStaking }

theorem staking_dilutes_by_rounding_four :
    0 < (poolOfFour 0).ledger.supplyOf (poolOfFour 0).staking.config.stakedDenom ∧
    (∀ sender funds toAddr s' r, (poolOfFour 0).staking.stake (poolOfFour 0).ledger ⟨⟨0, 0, 0⟩, 1⟩
        sender funds toAddr = .ok (s', r) →
      ∃ a m, oneCoin funds (poolOfFour 0).staking.config.baseDenom = .ok a ∧
        m = a * Dec.scale / max (Dec.scale : Int)
          (((poolOfFour 0).ledger.balance stakingAccount (poolOfFour 0).staking.config.baseDenom - a) *
            Dec.scale / (poolOfFour 0).ledger.supplyOf (poolOfFour 0).staking.config.stakedDenom) ∧
        m * ((poolOfFour 0).ledger.balance stakingAccount (poolOfFour 0).staking.config.baseDenom - a) *
            Dec.scale ≤
          (a * Dec.scale + m) * (poolOfFour 0).ledger.supplyOf (poolOfFour 0).staking.config.stakedDenom ∧
        ((∃ rcp, r.effects = [.mint (Coin.of (poolOfFour 0).staking.config.stakedDenom m) rcp]) ∨
          ∃ rcp e, s'.warmups = (poolOfFour 0).staking.warmups.insert rcp e ∧
            e.minted = ((poolOfFour 0).staking.warmups.getD rcp ⟨0, 0, default⟩).minted + m)) ∧
    (∀ sender funds toAddr s' r, (poolOfFour 0).staking.unstake (poolOfFour 0).ledger
        ⟨⟨0, 0, 0⟩, 1⟩ sender funds toAddr = .ok (s', r) →
      (poolOfFour 0).ledger.supplyOf (poolOfFour 0).staking.config.stakedDenom ≤
        (poolOfFour 0).ledger.balance stakingAccount (poolOfFour 0).staking.config.baseDenom →
      ∃ a p rcp, oneCoin funds (poolOfFour 0).staking.config.stakedDenom = .ok a ∧
        p * (poolOfFour 0).ledger.supplyOf (poolOfFour 0).staking.config.stakedDenom ≤
          a * (poolOfFour 0).ledger.balance stakingAccount (poolOfFour 0).staking.config.baseDenom ∧
        r.effects = [.burn stakingAccount (Coin.of (poolOfFour 0).staking.config.stakedDenom a),
          .send stakingAccount rcp (coinsOf (poolOfFour 0).staking.config.baseDenom p)]) ∧
    (∀ sender recipient s' r w, (poolOfFour 0).staking.warmups.get? sender = some w →
      (poolOfFour 0).staking.claim (poolOfFour 0).ledger ⟨⟨0, 0, 0⟩, 1⟩ sender recipient =
        .ok (s', r) →
      ∃ rcp, r.effects =
          [.send warmupAccount rcp (coinsOf (poolOfFour 0).staking.config.baseDenom w.principal)] ∨
        r.effects = (if w.minted > 0 then
            [.mint (Coin.of (poolOfFour 0).staking.config.stakedDenom w.minted) rcp] else []) ++
          [.send warmupAccount stakingAccount
            (coinsOf (poolOfFour 0).staking.config.baseDenom w.principal)]) ∧
    (∀ sender funds toAddr s₁ r₁ m rcp, (poolOfFour 0).staking.stake (poolOfFour 0).ledger
        ⟨⟨0, 0, 0⟩, 1⟩ sender funds toAddr = .ok (s₁, r₁) →
      r₁.effects = [.mint (Coin.of (poolOfFour 0).staking.config.stakedDenom m) rcp] →
      ∀ (l' : Ledger) (env' : Env) (sender' toAddr' : String) (s₂ : Staking) (r₂ : Response),
        l'.balance stakingAccount (poolOfFour 0).staking.config.baseDenom =
          (poolOfFour 0).ledger.balance stakingAccount (poolOfFour 0).staking.config.baseDenom →
        l'.supplyOf (poolOfFour 0).staking.config.stakedDenom =
          (poolOfFour 0).ledger.supplyOf (poolOfFour 0).staking.config.stakedDenom + m →
        s₁.unstake l' env' sender' [Coin.of (poolOfFour 0).staking.config.stakedDenom m] toAddr' =
          .ok (s₂, r₂) →
        ∃ a p rcp', oneCoin funds (poolOfFour 0).staking.config.baseDenom = .ok a ∧ p ≤ a ∧
          r₂.effects = [.burn stakingAccount (Coin.of (poolOfFour 0).staking.config.stakedDenom m),
            .send stakingAccount rcp' (coinsOf (poolOfFour 0).staking.config.baseDenom p)]) :=
  have hS : 0 < (poolOfFour 0).ledger.supplyOf (poolOfFour 0).staking.config.stakedDenom := by decide
  ⟨hS, staking_dilutes_by_rounding (poolOfFour 0).staking (poolOfFour 0).ledger ⟨⟨0, 0, 0⟩, 1⟩ hS⟩

def warmupStaking : StakingConfig :=
  ⟨deploymentAdmin, "ubond", "usbond", 5, Dec.one, none, 10, [], false⟩

def warmupPool : World where
  ledger := ⟨⟨[((stakingAccount, "ubond"), 100), ((deploymentAdmin, "usbond"), 100),
    ((deploymentTreasury, "ubond"), 100)]⟩, ⟨[("ubond", 200), ("usbond", 100)]⟩⟩
  staking := { config := warmupStaking, epoch := ⟨⟨0, 0, 0⟩, ⟨5, 0, 0⟩, 0⟩ }

/-- The treasury stakes its 100 tokens at second 0, a rebase at second 5 doubles the pool, and the
treasury claims at second 10: the worlds after the rebase and after the claim. -/
def claimAfterRebase : Result (World × World) := do
  let (w₁, _) ← warmupPool.execute (maxCallDepth + 1) ⟨⟨0, 0, 0⟩, 1⟩ deploymentTreasury
    [Coin.of "ubond" 100] (.stake "")
  let (w₂, _) ← w₁.execute (maxCallDepth + 1) ⟨⟨5, 0, 0⟩, 2⟩ deploymentTreasury [] .rebase
  let (w₃, _) ← w₂.execute (maxCallDepth + 1) ⟨⟨10, 0, 0⟩, 3⟩ deploymentTreasury [] (.claim "")
  pure (w₂, w₃)

/-- Where the ratio of the pool to the staked supply falls. A stake of 10^19 base tokens into a
pool of 4 behind 3 staked tokens mints 7500000000000000001 at the rate 1.333333333333333333, one
more than its share; the pool staking 2 of its own 4 tokens mints 2, at the rate of a pool of 2;
and a claim after a rebase that doubled the pool during the warmup mints the 100 tokens recorded
at the rate of one. Each time the pool `D'` behind the supply `S'` after the call falls below
`D / S` before: `D' * S < D * S'`. -/
theorem stake_and_claim_dilute :
    ((poolOfFour 10000000000000000000).execute (maxCallDepth + 1) ⟨⟨0, 0, 0⟩, 1⟩
        deploymentTreasury [Coin.of "ubond" 10000000000000000000] (.stake "")).map
      (fun x => (x.1.ledger.balance stakingAccount "ubond", x.1.ledger.supplyOf "usbond")) =
      .ok (10000000000000000004, 7500000000000000004) ∧
    (10000000000000000004 : Int) * 3 < 4 * 7500000000000000004 ∧
    ((poolOfFour 0).execute (maxCallDepth + 1) ⟨⟨0, 0, 0⟩, 1⟩ stakingAccount [Coin.of "ubond" 2]
        (.stake "")).map
      (fun x => (x.1.ledger.balance stakingAccount "ubond", x.1.ledger.supplyOf "usbond")) =
      .ok (4, 5) ∧
    (4 : Int) * 3 < 4 * 5 ∧
    claimAfterRebase.map (fun x =>
      ((x.1.ledger.balance stakingAccount "ubond", x.1.ledger.supplyOf "usbond"),
        (x.2.ledger.balance stakingAccount "ubond", x.2.ledger.supplyOf "usbond"))) =
      .ok ((200, 100), (300, 200)) ∧
    (300 : Int) * 100 < 200 * 200 := by
  decide +kernel

end Bonding

import Mathlib
import Bonding.Proofs.RedeemStake
set_option autoImplicit false

/-!
Which calls settle the points of an address. A stake or a claim settles its recipient, an unstake
its sender, and a redemption into a stake the recipient of the position; on a reachable chain each
of these, when it succeeds, settles that address whenever points are on and the address is not
jailed. With the steps every call may take on a record, this says how points accrue: lazily, at
the settlements, against the staked balance each settlement sees.
-/

namespace Bonding

/-- The address whose points a call of `msg` from `s` settles: the recipient of a stake or a
claim, the sender of an unstake, the recipient of a redemption into a stake. -/
def ExecuteMsg.settled (msg : ExecuteMsg) (s : String) : Option String :=
  match msg with
  | .stake t | .claim t | .redeem t true => some (if t.isEmpty then s else t)
  | .unstake _ => some s
  | _ => none

/-- A redemption into a stake from live positions stakes a positive payout for the recipient of
the position, an account address. -/
theorem Bond.redeem_stakes {b b' : Bond} {st : Staking} {env : Env} {sender recipient : String}
    {r : Response} (hb : b.PositionsLive) (h : b.redeem st env sender recipient true = .ok (b', r)) :
    Address.fault? (if recipient.isEmpty = true then sender else recipient) = none ∧
    ∃ d, 0 < d ∧ r.effects = [.execute [Coin.of st.config.baseDenom d]
      (.stake (if recipient.isEmpty = true then sender else recipient))] := by
  obtain ⟨rcp, pos, d, rfl, hpos, hcase, he⟩ := Bond.redeem_eq_ok h
  obtain ⟨hf, hpay⟩ := hb.live _ _ hpos
  have hd := (Position.delivered_pos hpay hcase).2
  exact ⟨hf, d, hd, by rw [he, if_pos hd, if_pos rfl]⟩

namespace World

variable {w w' : World} {env : Env} {s : String} {funds : Coins} {msg : ExecuteMsg} {a : String}

variable {n : Nat} {evs : List Event} {ms : List Move}

/-- A call that settles `a` settles it, when points are on and `a` is not jailed, at the block
time against the staked balance `a` holds once the call's funds have moved, with the staked tokens
of its own unstake counted back. -/
theorem Runs.settles (hb : w.staking.config.baseDenom ≠ w.staking.config.stakedDenom)
    (hlive : w.bond.PositionsLive) (h : w.Runs n env s funds msg w' evs ms)
    (hx : msg.settled s = some a) (he : w.staking.config.pointsEnabled = true)
    (hj : (w.staking.pointsOf a).jailed = false) :
    ∃ w₁, w.takeFunds s msg.contract funds = .ok w₁ ∧
      w'.staking.pointsOf a = (w.staking.pointsOf a).settle
        (w₁.ledger.balance a w.staking.config.stakedDenom +
          msg.held s a funds w.staking.config.stakedDenom) env.now := by
  cases n with
  | zero => exact h.elim
  | succ n =>
  obtain ⟨-, -, w₁, w₂, resp, evs', ms', htf, hd, hrun, -, -⟩ := h
  cases msg
  case stake t =>
    obtain rfl := Option.some.inj hx
    exact (stake_accrual htf hd hrun).settle he hj
  case claim t =>
    obtain rfl := Option.some.inj hx
    exact (claim_accrual htf hd hrun).settle he hj
  case unstake t =>
    obtain rfl := Option.some.inj hx
    exact (unstake_accrual htf hd hrun).settle he hj
  case redeem t stake =>
    cases stake
    · cases hx
    obtain rfl := Option.some.inj hx
    simp only [dispatch, Result.bind_eq_ok, Result.pure_eq_ok, Prod.exists, Prod.mk.injEq] at hd
    obtain ⟨bd, r, hbd, rfl, rfl⟩ := hd
    -- the position is live, so its recipient is an address and the stake is for it
    obtain ⟨hf, d, -, he'⟩ := Bond.redeem_stakes (by rw [takeFunds_frame htf]; exact hlive) hbd
    rw [he'] at hrun
    have hacc := redeem_stake_accrual hb htf hrun
    rw [Address.isEmpty_of_fault hf, if_neg Bool.false_ne_true] at hacc
    exact hacc.settle he hj
  all_goals cases hx

end World

namespace Chain

open World

variable {admits : Call → Prop} {c : Chain}

/-- On a reachable chain, a call that succeeds settles the address it settles whenever points are
on and that address is not jailed. -/
theorem execute_settles (hc : c.Reachable admits) {c' : Chain} {now : Instant} {s : String}
    {funds : Coins} {msg : ExecuteMsg} {evs : List Event} {a : String}
    (h : c.execute now s funds msg = .ok (c', evs)) (hx : msg.settled s = some a)
    (he : c.world.staking.config.pointsEnabled = true)
    (hj : (c.world.staking.pointsOf a).jailed = false) :
    ∃ w₁, c.world.takeFunds s msg.contract funds = .ok w₁ ∧
      c'.world.staking.pointsOf a = (c.world.staking.pointsOf a).settle
        (w₁.ledger.balance a c.world.staking.config.stakedDenom +
          msg.held s a funds c.world.staking.config.stakedDenom) now := by
  obtain ⟨hi, w, ms, hrun, rfl⟩ := execute_eq_ok.mp h
  have hs := Runs.settles (hc.debtBounded hi).denoms (hc.positionsLive hi) hrun hx he hj
  exact hs

/-- Points are settled lazily. In every reachable chain a jailed record holds no points and
accrues none; a call changes a jailed record only by jailing or unjailing that address, and
unjailing at a block time restarts the clock there. The pending points of an unjailed record are
the staked balance times the seconds since its last update. A stake or a claim for an address, its
own unstake and a redemption into a stake for it settle it when they succeed, with points on and
the address not jailed: the total grows by the staked balance it holds once the call's funds have
moved (with the staked tokens of its own unstake counted back) times the seconds since the last
update, and the clock restarts at the block time. Every call leaves the record of an address as it
is or makes the step the record allows: a jail call resets or resumes it, and any other change is
such a settlement. -/
theorem points_settle_lazily (hc : c.Reachable admits) (a : String) (call : Call) :
    ((c.world.staking.pointsOf a).jailed = true → (c.world.staking.pointsOf a).total = 0 ∧
      ∀ l env held, c.world.staking.pendingPoints l env a (c.world.staking.pointsOf a) held = .ok 0) ∧
    (∀ l env held x, c.world.staking.pendingPoints l env a (c.world.staking.pointsOf a) held = .ok x →
      (c.world.staking.pointsOf a).jailed = false →
      x = if (c.world.staking.pointsOf a).lastUpdated.isUnset then 0 else
        (l.balance a c.world.staking.config.stakedDenom + held) *
          ((c.world.staking.pointsOf a).lastUpdated.elapsed env.now : Int)) ∧
    (∀ now s funds msg c' evs, c.execute now s funds msg = .ok (c', evs) →
      msg.settled s = some a → c.world.staking.config.pointsEnabled = true →
      (c.world.staking.pointsOf a).jailed = false →
      ∃ w₁, c.world.takeFunds s msg.contract funds = .ok w₁ ∧
        c'.world.staking.pointsOf a = (c.world.staking.pointsOf a).settle
          (w₁.ledger.balance a c.world.staking.config.stakedDenom +
            msg.held s a funds c.world.staking.config.stakedDenom) now) ∧
    ((c.world.staking.pointsOf a).jailed = true →
      (∀ now s funds j, call ≠ .execute now s funds (.jail a j)) →
      (c.step call).world.staking.pointsOf a = c.world.staking.pointsOf a) ∧
    (∀ now s funds, call = .execute now s funds (.jail a false) →
      (c.step call).world.staking.pointsOf a = c.world.staking.pointsOf a ∨
      (c.step call).world.staking.pointsOf a = (c.world.staking.pointsOf a).jailAt false now) ∧
    ((c.step call).world.staking.pointsOf a = c.world.staking.pointsOf a ∨
      ∃ now s funds msg, call = .execute now s funds msg ∧
        PointsStep a ⟨now, c.height + 1⟩ s funds msg c.world (c.step call).world) := by
  have hstep := hc.pointsStep a call
  refine ⟨fun hj => ⟨hc.jailed_total a hj, fun _ _ held => Staking.pendingPoints_jailed hj held⟩,
    fun l env held x hx hj => Staking.pendingPoints_eq_ok hx hj,
    fun now s funds msg c' evs h hx he hj => execute_settles hc h hx he hj,
    fun hj hcall => ?_, fun now s funds hcall => ?_, hstep⟩
  · -- a settlement needs an unjailed record, and a jail of `a` is ruled out
    rcases hstep with hp | ⟨now, s, funds, msg, rfl, hp | ⟨j, rfl, -⟩ | ⟨hj₀, -⟩⟩
    · exact hp
    · exact hp
    · exact absurd rfl (hcall now s funds j)
    · rw [hj] at hj₀
      cases hj₀
  · -- the block time of an unjail is the time of its call
    rcases hstep with hp | ⟨now', s', funds', msg, hc', hp | ⟨j, rfl, hp⟩ | ⟨-, -, hm, -⟩⟩
    · exact .inl hp
    · exact .inl hp
    · rw [hcall] at hc'
      obtain ⟨rfl, -, -, hj⟩ := Call.execute.inj hc'
      obtain ⟨-, rfl⟩ := ExecuteMsg.jail.inj hj
      exact .inr hp
    · -- a jail call does not accrue
      rw [hcall] at hc'
      obtain ⟨-, -, -, rfl⟩ := Call.execute.inj hc'
      cases hm

theorem points_settle_lazily_deployed :
    deployed.Reachable (fun _ => True) ∧
    ((deployed.world.staking.pointsOf deploymentTreasury).jailed = true →
      (deployed.world.staking.pointsOf deploymentTreasury).total = 0 ∧
      ∀ l env held, deployed.world.staking.pendingPoints l env deploymentTreasury
        (deployed.world.staking.pointsOf deploymentTreasury) held = .ok 0) ∧
    (∀ l env held x, deployed.world.staking.pendingPoints l env deploymentTreasury
        (deployed.world.staking.pointsOf deploymentTreasury) held = .ok x →
      (deployed.world.staking.pointsOf deploymentTreasury).jailed = false →
      x = if (deployed.world.staking.pointsOf deploymentTreasury).lastUpdated.isUnset then 0 else
        (l.balance deploymentTreasury deployed.world.staking.config.stakedDenom + held) *
          ((deployed.world.staking.pointsOf deploymentTreasury).lastUpdated.elapsed env.now : Int)) ∧
    (∀ now s funds msg c' evs, deployed.execute now s funds msg = .ok (c', evs) →
      msg.settled s = some deploymentTreasury → deployed.world.staking.config.pointsEnabled = true →
      (deployed.world.staking.pointsOf deploymentTreasury).jailed = false →
      ∃ w₁, deployed.world.takeFunds s msg.contract funds = .ok w₁ ∧
        c'.world.staking.pointsOf deploymentTreasury =
          (deployed.world.staking.pointsOf deploymentTreasury).settle
            (w₁.ledger.balance deploymentTreasury deployed.world.staking.config.stakedDenom +
              msg.held s deploymentTreasury funds deployed.world.staking.config.stakedDenom) now) ∧
    ((deployed.world.staking.pointsOf deploymentTreasury).jailed = true →
      (∀ now s funds j, stakeAtTen ≠ .execute now s funds (.jail deploymentTreasury j)) →
      (deployed.step stakeAtTen).world.staking.pointsOf deploymentTreasury =
        deployed.world.staking.pointsOf deploymentTreasury) ∧
    (∀ now s funds, stakeAtTen = .execute now s funds (.jail deploymentTreasury false) →
      (deployed.step stakeAtTen).world.staking.pointsOf deploymentTreasury =
        deployed.world.staking.pointsOf deploymentTreasury ∨
      (deployed.step stakeAtTen).world.staking.pointsOf deploymentTreasury =
        (deployed.world.staking.pointsOf deploymentTreasury).jailAt false now) ∧
    ((deployed.step stakeAtTen).world.staking.pointsOf deploymentTreasury =
        deployed.world.staking.pointsOf deploymentTreasury ∨
      ∃ now s funds msg, stakeAtTen = .execute now s funds msg ∧
        PointsStep deploymentTreasury ⟨now, deployed.height + 1⟩ s funds msg deployed.world
          (deployed.step stakeAtTen).world) :=
  have hc : deployed.Reachable fun _ => True := .step _ trivial .empty
  ⟨hc, points_settle_lazily hc deploymentTreasury stakeAtTen⟩

end Chain

end Bonding

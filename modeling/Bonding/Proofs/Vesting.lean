import Mathlib
import Bonding.Proofs.Calls
import Bonding.Proofs.Epoch
set_option autoImplicit false

/-!
Vesting conserves payout. A deposit adds to the depositor's position the payout it asks staking to
mint, and restarts its vesting at the block time; a redemption hands over in the base token what has
vested and takes exactly that off the position. So for every address, along any run of deposits,
redemptions and other calls, what has been handed over plus what the position holds is what
deposits have credited.

Block times are whole seconds of UTC. Between them a partial redemption moves the start of vesting
to the block time and shortens the time left by the seconds elapsed, so the end of vesting stays
where it was; from the end on, a redemption hands over all that is left and removes the position.
-/

namespace Bonding

namespace Instant

def IsBlockTime (t : Instant) : Prop :=
  t.nanos = 0 ∧ t.offset = 0 ∧ -(2 ^ 63) ≤ t.unix ∧ t.unix < 2 ^ 63

instance (t : Instant) : Decidable t.IsBlockTime :=
  inferInstanceAs (Decidable (_ ∧ _ ∧ _ ∧ _))

theorem elapsed_of_isBlockTime {a b : Instant} (ha : a.IsBlockTime) (hb : b.IsBlockTime) :
    (a.elapsed b : Int) = max (b.unix - a.unix) 0 := by
  obtain ⟨ha0, -, ha1, ha2⟩ := ha
  obtain ⟨hb0, -, hb1, hb2⟩ := hb
  unfold elapsed
  split
  · rename_i hab
    rw [before_eq_true, ha0, hb0] at hab
    rw [wordMod_of_lt (by omega) (by omega)]
    omega
  · rename_i hab
    rw [Bool.not_eq_true, before_eq_false, ha0, hb0] at hab
    simp only [Nat.cast_zero]
    omega

/-- Restarting a span of `v` seconds from `a` at a later block time `b`, with the seconds elapsed
taken off, keeps its end. -/
theorem addSeconds_sub_elapsed {a b : Instant} (ha : a.IsBlockTime) (hb : b.IsBlockTime)
    (hpos : 0 < a.elapsed b) {v : Nat} (hv : a.elapsed b ≤ v) :
    b.addSeconds (v - a.elapsed b : Nat) = a.addSeconds v := by
  have he := elapsed_of_isBlockTime ha hb
  obtain ⟨ha0, ha1, -, -⟩ := ha
  obtain ⟨hb0, hb1, -, -⟩ := hb
  simp only [addSeconds, Instant.mk.injEq, ha0, hb0, ha1, hb1, and_true]
  push_cast [hv]
  omega

/-- A block time not before the end of a span of `v` seconds from a block time is at least `v`
seconds past its start. -/
theorem le_elapsed_of_not_before {a b : Instant} (ha : a.IsBlockTime) (hb : b.IsBlockTime)
    {v : Nat} (hend : b.before (a.addSeconds v) = false) : v ≤ a.elapsed b := by
  have he := elapsed_of_isBlockTime ha hb
  rw [before_eq_false, unix_addSeconds, nanos_addSeconds, ha.1, hb.1] at hend
  omega

end Instant

namespace Response

def handedOut (r : Response) (denom : String) : Int :=
  (r.effects.map fun
    | .send _ _ coins => coins.amountOf denom
    | .execute funds _ => funds.amountOf denom
    | _ => 0).sum

def mintRequested (r : Response) : Int :=
  (r.effects.map fun
    | .execute _ (.mint _ (some x)) => x
    | _ => 0).sum

theorem handedOut_redeem {r : Response} {denom rcp : String} {stake : Bool} {d : Int}
    (he : r.effects = if d > 0 then
        (if stake then [.execute [Coin.of denom d] (.stake rcp)]
         else [.send bondAccount rcp [Coin.of denom d]])
      else []) (hd : 0 ≤ d) : r.handedOut denom = d := by
  rw [handedOut, he]
  split_ifs
  · simp [Coins.amountOf_single]
  · simp [Coins.amountOf_single]
  · simp only [List.map_nil, List.sum_nil]
    omega

end Response

namespace Bond

def payoutOf (b : Bond) (a : String) : Int := (b.positions.getD a ⟨0, Dec.zero, 0, default⟩).payout

def VestingReady (b : Bond) (a : String) : Prop :=
  ∀ p, b.positions.get? a = some p → 0 ≤ p.payout ∧ p.lastTime.IsBlockTime

/-- A run from `b` of deposits and redemptions at block times, among other calls that leave the
position of `a` alone: `credited` is the payout that deposits for `a` asked staking to mint, and
`delivered` what redemptions for `a` handed over in the base token. Each deposit is made while the
minimum payout is positive, as the configuration check demands. -/
inductive VestingRun (b : Bond) (a : String) : Bond → Int → Int → Prop where
  | nil : VestingRun b a b 0 0
  | deposit {b₁ b₂ : Bond} {credited delivered : Int} {o : Oracle} {s : Staking} {l : Ledger}
      {env : Env} {sender : String} {funds : Coins} {maxPrice : Option Dec} {depositor : String}
      {r : Response} :
      VestingRun b a b₁ credited delivered → env.now.IsBlockTime → 0 < b₁.config.minPayout →
      b₁.deposit o s l env sender funds maxPrice depositor = .ok (b₂, r) →
      VestingRun b a b₂
        (credited + if (if depositor.isEmpty = true then sender else depositor) = a then
          r.mintRequested else 0) delivered
  | redeem {b₁ b₂ : Bond} {credited delivered : Int} {s : Staking} {env : Env}
      {sender recipient : String} {stake : Bool} {r : Response} :
      VestingRun b a b₁ credited delivered → env.now.IsBlockTime →
      b₁.redeem s env sender recipient stake = .ok (b₂, r) →
      VestingRun b a b₂ credited
        (delivered + if (if recipient.isEmpty = true then sender else recipient) = a then
          r.handedOut s.config.baseDenom else 0)
  | keep {b₁ b₂ : Bond} {credited delivered : Int} :
      VestingRun b a b₁ credited delivered → b₂.positions.get? a = b₁.positions.get? a →
      VestingRun b a b₂ credited delivered

variable {b b' : Bond} {a : String}

theorem payoutOf_nonneg (hb : b.VestingReady a) : 0 ≤ b.payoutOf a := by
  unfold payoutOf KeyMap.getD
  cases hp : b.positions.get? a with
  | none => exact le_rfl
  | some p => exact (hb p hp).1

theorem payoutOf_of_get? {p : Position} (h : b.positions.get? a = some p) : b.payoutOf a = p.payout := by
  simp [payoutOf, KeyMap.getD, h]

theorem payoutOf_of_get?_none (h : b.positions.get? a = none) : b.payoutOf a = 0 := by
  simp [payoutOf, KeyMap.getD, h]

/-- A deposit at a block time credits its depositor with the payout it asks staking to mint, which
is positive, and leaves every other position. -/
theorem deposit_vests {o : Oracle} {s : Staking} {l : Ledger} {env : Env} {sender : String}
    {funds : Coins} {maxPrice : Option Dec} {depositor : String} {r : Response}
    (h : b.deposit o s l env sender funds maxPrice depositor = .ok (b', r))
    (hnow : env.now.IsBlockTime) (hmin : 0 < b.config.minPayout) (hb : b.VestingReady a) :
    b'.VestingReady a ∧ 0 < r.mintRequested ∧
      b'.payoutOf a = b.payoutOf a +
        if (if depositor.isEmpty = true then sender else depositor) = a then r.mintRequested else 0 := by
  obtain ⟨amount, payout, dep, p, -, hpp, hpos, rfl, -, hlast, hpay, he⟩ := deposit_eq_ok h
  have hmint : r.mintRequested = payout := by simp [Response.mintRequested, he]
  rw [hmint]
  refine ⟨?_, by omega, ?_⟩
  · intro q hq
    rw [hpos] at hq
    by_cases hda : (if depositor.isEmpty = true then sender else depositor) = a
    · -- the depositor's position grows by a positive payout and restarts at the block time
      rw [hda, KeyMap.get?_insert_self] at hq
      cases hq
      rw [hlast, hpp]
      have := payoutOf_nonneg hb
      rw [payoutOf, ← hda] at this
      exact ⟨by omega, hnow⟩
    · rw [KeyMap.get?_insert_of_ne _ _ hda] at hq
      exact hb q hq
  · by_cases hda : (if depositor.isEmpty = true then sender else depositor) = a
    · rw [if_pos hda, payoutOf_of_get? (by rw [hpos, hda, KeyMap.get?_insert_self]), hpp, payoutOf,
        hda]
    · rw [if_neg hda, payoutOf, payoutOf, hpos, KeyMap.getD_insert, if_neg hda]
      omega

/-- A redemption at a block time takes off the position of its recipient exactly what it hands
over, which is not negative, and leaves every other position. -/
theorem redeem_vests {s : Staking} {env : Env} {sender recipient : String} {stake : Bool}
    {r : Response} (h : b.redeem s env sender recipient stake = .ok (b', r))
    (hnow : env.now.IsBlockTime) (hb : b.VestingReady a) :
    b'.VestingReady a ∧
      b'.payoutOf a + (if (if recipient.isEmpty = true then sender else recipient) = a then
        r.handedOut s.config.baseDenom else 0) = b.payoutOf a ∧
      0 ≤ (if (if recipient.isEmpty = true then sender else recipient) = a then
        r.handedOut s.config.baseDenom else 0) := by
  obtain ⟨rcp, pos, delivered, hrcp, hpos, hcase, he⟩ := redeem_eq_ok h
  rw [← hrcp]
  by_cases hra : rcp = a
  · subst hra
    obtain ⟨hnn, -⟩ := hb pos hpos
    rcases hcase with ⟨-, rfl, hb'⟩ | ⟨-, hd, -, hb'⟩
    · -- fully vested: the whole payout goes and so does the position
      have hout := Response.handedOut_redeem he hnn
      rw [if_pos rfl, hout]
      refine ⟨fun q hq => by simp [hb'] at hq, ?_, hnn⟩
      rw [payoutOf_of_get?_none (by rw [hb', KeyMap.get?_erase_self]), payoutOf_of_get? hpos]
      omega
    · -- partly vested: the pending part goes and the rest restarts at the block time
      obtain ⟨h0, hle⟩ := Position.pendingPayout_le hd hnn
      rw [if_pos rfl, Response.handedOut_redeem he h0]
      refine ⟨fun q hq => ?_, ?_, h0⟩
      · rw [hb', KeyMap.get?_insert_self] at hq
        cases hq
        exact ⟨by dsimp only; omega, hnow⟩
      · rw [payoutOf_of_get? (by rw [hb', KeyMap.get?_insert_self]), payoutOf_of_get? hpos]
        dsimp only
        omega
  · -- another recipient's position changes, and that of `a` stays
    have hkeep : b'.positions.get? a = b.positions.get? a := by
      rcases hcase with ⟨-, -, hb'⟩ | ⟨-, -, -, hb'⟩
      · rw [hb', KeyMap.get?_erase_of_ne _ hra]
      · rw [hb', KeyMap.get?_insert_of_ne _ _ hra]
    rw [if_neg hra]
    refine ⟨fun q hq => hb q (hkeep ▸ hq), ?_, le_rfl⟩
    rw [payoutOf, payoutOf, KeyMap.getD, KeyMap.getD, hkeep]
    omega

/-- Along a run the position of `a` stays ready, and what was handed over plus what the position
holds is what it held plus what deposits credited; nothing handed over is negative. -/
theorem VestingRun.conserves {credited delivered : Int} (hrun : b.VestingRun a b' credited delivered)
    (hb : b.VestingReady a) :
    b'.VestingReady a ∧ b'.payoutOf a + delivered = b.payoutOf a + credited ∧ 0 ≤ delivered := by
  induction hrun with
  | nil => exact ⟨hb, by omega, le_rfl⟩
  | deposit _ hnow hmin hd ih =>
    obtain ⟨hready, hsum, hdel⟩ := ih
    obtain ⟨hready', hpos, hpay⟩ := deposit_vests hd hnow hmin hready
    exact ⟨hready', by rw [hpay]; omega, hdel⟩
  | redeem _ hnow hd ih =>
    obtain ⟨hready, hsum, hdel⟩ := ih
    obtain ⟨hready', hpay, hnn⟩ := redeem_vests hd hnow hready
    exact ⟨hready', by omega, by omega⟩
  | keep _ hkeep ih =>
    obtain ⟨hready, hsum, hdel⟩ := ih
    have hpay : _ = _ := congrArg (fun o => (o.getD ⟨0, Dec.zero, 0, default⟩).payout) hkeep
    exact ⟨fun q hq => hready q (hkeep ▸ hq), by simp only [payoutOf, KeyMap.getD] at *; omega,
      hdel⟩

/-- A redemption for `a` at a block time either finds the position vested, hands over all of it
and removes it, or hands over the share of the payout that the seconds elapsed are of the time
left, a positive amount, and keeps the rest, a positive payout, with the same end of vesting. -/
theorem redeem_outcome {s : Staking} {env : Env} {sender recipient : String} {stake : Bool}
    {r : Response} {p : Position} (h : b.redeem s env sender recipient stake = .ok (b', r))
    (hra : (if recipient.isEmpty = true then sender else recipient) = a)
    (hp : b.positions.get? a = some p) (hb : b.VestingReady a) (hnow : env.now.IsBlockTime) :
    (p.vestingTimeLeft ≤ p.lastTime.elapsed env.now ∧ r.handedOut s.config.baseDenom = p.payout ∧
      b'.positions.get? a = none) ∨
    (p.lastTime.elapsed env.now < p.vestingTimeLeft ∧
      r.handedOut s.config.baseDenom = p.payout * p.lastTime.elapsed env.now / p.vestingTimeLeft ∧
      0 < r.handedOut s.config.baseDenom ∧
      ∃ p', b'.positions.get? a = some p' ∧ p'.payout = p.payout - r.handedOut s.config.baseDenom ∧
        0 < p'.payout ∧
        p'.lastTime.addSeconds p'.vestingTimeLeft = p.lastTime.addSeconds p.vestingTimeLeft) := by
  obtain ⟨rcp, pos, delivered, hrcp, hpos, hcase, he⟩ := redeem_eq_ok h
  obtain rfl : rcp = a := hrcp.trans hra
  obtain rfl : pos = p := Option.some.inj (hpos.symm.trans hp)
  obtain ⟨hnn, hlast⟩ := hb pos hp
  rcases hcase with ⟨hf, rfl, hb'⟩ | ⟨hf, hd, hd0, hb'⟩
  · refine .inl ⟨by simpa [Position.fullyVested] using hf, Response.handedOut_redeem he hnn, ?_⟩
    rw [hb', KeyMap.get?_erase_self]
  · have hlt : pos.lastTime.elapsed env.now < pos.vestingTimeLeft := by
      simpa [Position.fullyVested] using hf
    obtain ⟨h0, hle⟩ := Position.pendingPayout_le hd hnn
    have heq := Position.pendingPayout_eq hd hf hnn
    rw [Response.handedOut_redeem he h0]
    -- something was delivered, so seconds have elapsed and the payout is positive
    have hel : 0 < pos.lastTime.elapsed env.now := by
      rcases Nat.eq_zero_or_pos (pos.lastTime.elapsed env.now) with h' | h'
      · rw [h', Nat.cast_zero, Int.mul_zero, Int.zero_ediv] at heq
        exact absurd heq hd0
      · exact h'
    have hvp : (0 : Int) < pos.vestingTimeLeft := by omega
    -- the elapsed share of the term is below one, so part of the payout stays
    have hrest : delivered < pos.payout := by
      have hP : 0 < pos.payout := by
        rcases lt_or_eq_of_le hnn with hP | hP
        · exact hP
        · rw [← hP, Int.zero_mul, Int.zero_ediv] at heq
          exact absurd heq hd0
      rw [heq, Int.ediv_lt_iff_lt_mul hvp]
      exact Int.mul_lt_mul_of_pos_left (by exact_mod_cast hlt) hP
    refine .inr ⟨hlt, heq, by omega, _, by rw [hb', KeyMap.get?_insert_self], rfl, by dsimp only; omega,
      ?_⟩
    exact Instant.addSeconds_sub_elapsed hlast hnow hel hlt.le

/-- From the end of vesting on, a redemption for `a` at a block time succeeds, hands over all the
payout left and removes the position. -/
theorem redeem_after_end {s : Staking} {env : Env} {sender recipient : String} {stake : Bool}
    {p : Position} (hra : (if recipient.isEmpty = true then sender else recipient) = a)
    (hp : b.positions.get? a = some p) (hb : b.VestingReady a) (hnow : env.now.IsBlockTime)
    (hend : env.now.before (p.lastTime.addSeconds p.vestingTimeLeft) = false) :
    ∃ b' r, b.redeem s env sender recipient stake = .ok (b', r) ∧
      r.handedOut s.config.baseDenom = p.payout ∧ b'.positions.get? a = none := by
  obtain ⟨hnn, hlast⟩ := hb p hp
  have hv : p.fullyVested env.now = true := by
    simpa [Position.fullyVested] using Instant.le_elapsed_of_not_before hlast hnow hend
  refine ⟨_, _, by simp only [redeem, hra, hp, hv, if_true]; rfl, ?_, by simp⟩
  exact Response.handedOut_redeem rfl hnn

end Bond

namespace Chain

theorem step_redeem_of_error {c : Chain} {now : Instant} {sender recipient : String}
    {funds : Coins} {stake : Bool} {f : Fault}
    (h : c.world.bond.redeem c.world.staking ⟨now, c.height + 1⟩ sender recipient stake = .error f) :
    c.step (.execute now sender funds (.redeem recipient stake)) = c := by
  rcases step_cases c (.execute now sender funds (.redeem recipient stake)) with
    he | ⟨_, _, hcall, -⟩ | ⟨now', s, funds', msg, w, evs, ms, hcall, -, hrun, -⟩ |
    ⟨_, _, _, _, _, hcall, -⟩
  · exact he
  · cases hcall
  · -- a committed call runs the handler on the world with only its funds moved
    obtain ⟨rfl, rfl, rfl, rfl⟩ := Call.execute.inj hcall
    obtain ⟨-, -, w₁, w₂, resp, -, -, htf, hd, -⟩ := hrun
    obtain ⟨l, -, rfl⟩ := World.takeFunds_eq_ok htf
    simp only [World.dispatch, Result.bind_eq_ok, Result.pure_eq_ok, Prod.exists] at hd
    obtain ⟨b, r, hb, -⟩ := hd
    rw [h] at hb
    cases hb
  · cases hcall

end Chain

/-- Vesting and redemption conserve payout. Along every run from a bond whose position of `a` is
ready, what redemptions handed over to `a` plus what its position holds is what the position held
plus what deposits credited to `a`, and nothing handed over exceeds that. At every point of the run
a redemption for `a` at a block time hands over either the whole payout once the position has
vested, removing it, or the payout times the seconds elapsed over the time left, rounded down, with
fewer seconds elapsed than are left, keeping a positive rest and the end of vesting; from the end of
vesting on it succeeds and hands over all that is left. A redemption whose handler fails leaves the
chain as it was. -/
theorem vesting_conserves_payout {a : String} {b b' : Bond} {credited delivered : Int}
    (hb : b.VestingReady a) (hrun : b.VestingRun a b' credited delivered) :
    b'.payoutOf a + delivered = b.payoutOf a + credited ∧ 0 ≤ delivered ∧
    delivered ≤ b.payoutOf a + credited ∧
    (∀ (s : Staking) (env : Env) (sender recipient : String) (stake : Bool) (p : Position),
      env.now.IsBlockTime → (if recipient.isEmpty = true then sender else recipient) = a →
      b'.positions.get? a = some p →
      (∀ b'' r, b'.redeem s env sender recipient stake = .ok (b'', r) →
        (p.vestingTimeLeft ≤ p.lastTime.elapsed env.now ∧
          r.handedOut s.config.baseDenom = p.payout ∧ b''.positions.get? a = none) ∨
        (p.lastTime.elapsed env.now < p.vestingTimeLeft ∧
          r.handedOut s.config.baseDenom =
            p.payout * p.lastTime.elapsed env.now / p.vestingTimeLeft ∧
          0 < r.handedOut s.config.baseDenom ∧
          ∃ p', b''.positions.get? a = some p' ∧
            p'.payout = p.payout - r.handedOut s.config.baseDenom ∧ 0 < p'.payout ∧
            p'.lastTime.addSeconds p'.vestingTimeLeft =
              p.lastTime.addSeconds p.vestingTimeLeft)) ∧
      (env.now.before (p.lastTime.addSeconds p.vestingTimeLeft) = false →
        ∃ b'' r, b'.redeem s env sender recipient stake = .ok (b'', r) ∧
          r.handedOut s.config.baseDenom = p.payout ∧ b''.positions.get? a = none)) ∧
    ∀ (c : Chain) (now : Instant) (sender : String) (funds : Coins) (recipient : String)
      (stake : Bool) (f : Fault),
      c.world.bond.redeem c.world.staking ⟨now, c.height + 1⟩ sender recipient stake = .error f →
      c.step (.execute now sender funds (.redeem recipient stake)) = c := by
  obtain ⟨hready, hsum, hdel⟩ := hrun.conserves hb
  have hleft := Bond.payoutOf_nonneg hready
  refine ⟨hsum, hdel, by omega, fun s env sender recipient stake p hnow hra hp => ⟨?_, ?_⟩,
    fun c now sender funds recipient stake f h => Chain.step_redeem_of_error h⟩
  · intro b'' r h
    exact Bond.redeem_outcome h hra hp hready hnow
  · intro hend
    exact Bond.redeem_after_end hra hp hready hnow hend

/-- The holder's deposit on the bond of the bonding genesis at second 0, and its redemption at
second 1800, halfway through the vesting term. -/
def vestingDeposit : Bond × Response :=
  (Chain.bondingChain.world.bond.deposit Chain.bondingChain.world.oracle
    Chain.bondingChain.world.staking Chain.bondingChain.world.ledger ⟨⟨0, 0, 0⟩, 1⟩ Chain.bondHolder
    [Coin.of "ulp" 10000] (some (Dec.ofInt 10)) "").toOption.getD default

def vestingRedeem : Bond × Response :=
  (vestingDeposit.1.redeem Chain.bondingChain.world.staking ⟨⟨1800, 0, 0⟩, 2⟩ Chain.bondHolder ""
    false).toOption.getD default

theorem vesting_conserves_payout_halfway :
    (Chain.bondingChain.world.bond.VestingReady Chain.bondHolder ∧
      Chain.bondingChain.world.bond.VestingRun Chain.bondHolder vestingRedeem.1 5000 2500) ∧
    vestingRedeem.1.payoutOf Chain.bondHolder + 2500 =
      Chain.bondingChain.world.bond.payoutOf Chain.bondHolder + 5000 ∧ 0 ≤ (2500 : Int) ∧
    (2500 : Int) ≤ Chain.bondingChain.world.bond.payoutOf Chain.bondHolder + 5000 ∧
    (∀ (s : Staking) (env : Env) (sender recipient : String) (stake : Bool) (p : Position),
      env.now.IsBlockTime → (if recipient.isEmpty = true then sender else recipient) = Chain.bondHolder →
      vestingRedeem.1.positions.get? Chain.bondHolder = some p →
      (∀ b'' r, vestingRedeem.1.redeem s env sender recipient stake = .ok (b'', r) →
        (p.vestingTimeLeft ≤ p.lastTime.elapsed env.now ∧
          r.handedOut s.config.baseDenom = p.payout ∧ b''.positions.get? Chain.bondHolder = none) ∨
        (p.lastTime.elapsed env.now < p.vestingTimeLeft ∧
          r.handedOut s.config.baseDenom =
            p.payout * p.lastTime.elapsed env.now / p.vestingTimeLeft ∧
          0 < r.handedOut s.config.baseDenom ∧
          ∃ p', b''.positions.get? Chain.bondHolder = some p' ∧
            p'.payout = p.payout - r.handedOut s.config.baseDenom ∧ 0 < p'.payout ∧
            p'.lastTime.addSeconds p'.vestingTimeLeft =
              p.lastTime.addSeconds p.vestingTimeLeft)) ∧
      (env.now.before (p.lastTime.addSeconds p.vestingTimeLeft) = false →
        ∃ b'' r, vestingRedeem.1.redeem s env sender recipient stake = .ok (b'', r) ∧
          r.handedOut s.config.baseDenom = p.payout ∧ b''.positions.get? Chain.bondHolder = none)) ∧
    ∀ (c : Chain) (now : Instant) (sender : String) (funds : Coins) (recipient : String)
      (stake : Bool) (f : Fault),
      c.world.bond.redeem c.world.staking ⟨now, c.height + 1⟩ sender recipient stake = .error f →
      c.step (.execute now sender funds (.redeem recipient stake)) = c := by
  -- one evaluation of the genesis gives the empty position, the minimum payout and both outcomes
  have hw : (fun w : World => ((w.bond.positions.get? Chain.bondHolder).isNone,
      decide (0 < w.bond.config.minPayout),
      (fun p : Bond × Response => (p.2.mintRequested,
          (fun q : Bond × Response => q.2.handedOut w.staking.config.baseDenom) <$>
            p.1.redeem w.staking ⟨⟨1800, 0, 0⟩, 2⟩ Chain.bondHolder "" false)) <$>
        w.bond.deposit w.oracle w.staking w.ledger ⟨⟨0, 0, 0⟩, 1⟩ Chain.bondHolder
          [Coin.of "ulp" 10000] (some (Dec.ofInt 10)) ""))
      Chain.bondingChain.world = (true, true, .ok (5000, .ok 2500)) := by
    decide +kernel
  simp only [Prod.mk.injEq] at hw
  obtain ⟨hnone, hmin, hdep⟩ := hw
  obtain ⟨⟨b₁, r₁⟩, hd, hr⟩ := Result.map_eq_ok.mp hdep
  simp only [Prod.mk.injEq] at hr
  obtain ⟨hmint, hred⟩ := hr
  obtain ⟨⟨b₂, r₂⟩, hd₂, hout⟩ := Result.map_eq_ok.mp hred
  have h₁ : vestingDeposit = (b₁, r₁) := by
    rw [vestingDeposit, hd]
    rfl
  have h₂ : vestingRedeem = (b₂, r₂) := by
    rw [vestingRedeem, h₁]
    dsimp only
    rw [hd₂]
    rfl
  have hready : Chain.bondingChain.world.bond.VestingReady Chain.bondHolder := fun p hp => by
    simp [hp] at hnone
  have hrun := Bond.VestingRun.redeem
    (Bond.VestingRun.deposit (a := Chain.bondHolder) .nil (by decide) (of_decide_eq_true hmin) hd)
    (by decide) hd₂
  simp only [show ("" : String).isEmpty = true from rfl, if_pos, hmint, hout, zero_add] at hrun
  rw [h₂]
  exact ⟨⟨hready, hrun⟩, vesting_conserves_payout hready hrun⟩

end Bonding

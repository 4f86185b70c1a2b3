import Mathlib
import Bonding.Proofs.Debt
set_option autoImplicit false

/-!
Points are settled lazily. Settling an address adds the staked balance it holds at that moment
times the seconds since its last update, and restarts its clock; between two settlements nothing
is charged, so a balance that changes in between (by a transfer, say) is charged at whatever the
next settlement sees. Every call leaves the points of an address as they are, settles them at the
block time, or, when it jails or unjails that address, resets or resumes them; a jailed record
holds no points and accrues none.
-/

namespace Bonding

namespace StakingPoints

/-- The record settled at `now` against `balance`: the balance times the seconds since the last
update joins the total (nothing when the clock never started), and the clock restarts at `now`. -/
def settle (p : StakingPoints) (balance : Int) (now : Instant) : StakingPoints :=
  { p with
    total := p.total + if p.lastUpdated.isUnset then 0 else balance * (p.lastUpdated.elapsed now : Int)
    lastUpdated := now }

/-- The record a jail call leaves at `now`: jailing clears the total, and either way the clock
restarts at `now`. -/
def jailAt (p : StakingPoints) (jailed : Bool) (now : Instant) : StakingPoints :=
  { p with total := if jailed then 0 else p.total, jailed, lastUpdated := now }

end StakingPoints

namespace Staking

variable {s s' : Staking} {l : Ledger} {env : Env}

theorem pointsOf_insert (a b : String) (p : StakingPoints) :
    ({ s with points := s.points.insert a p } : Staking).pointsOf b =
      if a = b then p else s.pointsOf b := by
  simp only [pointsOf, KeyMap.getD_insert]

theorem pendingPoints_jailed {a : String} {p : StakingPoints} (hj : p.jailed = true) (held : Int) :
    s.pendingPoints l env a p held = .ok 0 := by
  simp [pendingPoints, hj, pure, Except.pure]

theorem pendingPoints_eq_ok {a : String} {p : StakingPoints} {held x : Int}
    (h : s.pendingPoints l env a p held = .ok x) (hj : p.jailed = false) :
    x = if p.lastUpdated.isUnset then 0 else
      (l.balance a s.config.stakedDenom + held) * (p.lastUpdated.elapsed env.now : Int) := by
  unfold pendingPoints at h
  cases hu : p.lastUpdated.isUnset
  · simp only [hj, hu, Bool.or_false, Bool.false_eq_true, if_false, Result.bind_eq_ok] at h ⊢
    obtain ⟨b, hb, y, hadd, hmul⟩ := h
    obtain ⟨-, rfl⟩ := Ledger.balanceOf_eq_ok hb
    obtain ⟨-, rfl⟩ := Int256.checked_eq_ok.mp hadd
    exact (Int256.checked_eq_ok.mp hmul).2.symm
  · simp only [hj, hu, Bool.or_true, if_true] at h ⊢
    cases h
    rfl

/-- Accruing settles the accrued address, when points are on and it is not jailed, against its
staked balance plus `held`; every other record stays. -/
theorem accruePoints_pointsOf {a : String} {held : Int} (h : s.accruePoints l env a held = .ok s')
    (b : String) :
    s'.pointsOf b = if a = b ∧ s.config.pointsEnabled = true ∧ (s.pointsOf a).jailed = false then
      (s.pointsOf a).settle (l.balance a s.config.stakedDenom + held) env.now else s.pointsOf b := by
  unfold accruePoints at h
  cases he : s.config.pointsEnabled with
  | false =>
    simp only [he, Bool.not_false, if_true, Result.pure_eq_ok] at h
    simp [← h]
  | true =>
    cases hj : (s.pointsOf a).jailed with
    | true =>
      simp only [he, hj, Bool.not_true, Bool.false_eq_true, if_false, if_true,
        Result.pure_eq_ok] at h
      simp [← h]
    | false =>
      simp only [he, hj, Bool.not_true, Bool.false_eq_true, if_false, Result.bind_eq_ok] at h
      obtain ⟨pending, hp, total, ht, h⟩ := h
      rw [setPoints_eq_ok h, pointsOf_insert]
      obtain ⟨-, rfl⟩ := Int256.checked_eq_ok.mp ht
      rw [pendingPoints_eq_ok hp hj]
      simp only [and_true, StakingPoints.settle, hj]

theorem recipientOf_eq_ok {given sender rcp : String} (h : recipientOf given sender = .ok rcp) :
    rcp = if given.isEmpty = true then sender else given := by
  unfold recipientOf at h
  cases hf : Address.fault? (if given.isEmpty then sender else given) with
  | some f => simp only [hf, reduceCtorEq] at h
  | none =>
    simp only [hf, Except.ok.injEq] at h
    exact h.symm

theorem stake_accrues {sender toAddr : String} {funds : Coins} {r : Response}
    (h : s.stake l env sender funds toAddr = .ok (s', r)) :
    ∃ s₁, s.accruePoints l env (if toAddr.isEmpty = true then sender else toAddr) 0 = .ok s₁ ∧
      s'.points = s₁.points := by
  simp only [stake, Result.bind_eq_ok] at h
  obtain ⟨amount, -, rcp, hrcp, rate, -, minted, -, h⟩ := h
  obtain rfl := recipientOf_eq_ok hrcp
  split at h
  · cases h
  simp only [Result.bind_eq_ok] at h
  obtain ⟨s₁, hs₁, h⟩ := h
  refine ⟨s₁, hs₁, ?_⟩
  split at h
  · simp only [Result.bind_eq_ok, Result.pure_eq_ok] at h
    obtain ⟨_, rfl, h⟩ := h
    simp only [Prod.mk.injEq] at h
    rw [← h.1]
  · simp only [Result.bind_eq_ok, Result.pure_eq_ok] at h
    obtain ⟨p, -, m, -, s₂, hs₂, _, rfl, h⟩ := h
    simp only [Prod.mk.injEq] at h
    rw [← h.1, setWarmup_eq_ok hs₂]

theorem claim_accrues {sender recipient : String} {r : Response}
    (h : s.claim l env sender recipient = .ok (s', r)) :
    ∃ s₁, ({ s with warmups := s.warmups.erase sender } : Staking).accruePoints l env
      (if recipient.isEmpty = true then sender else recipient) 0 = .ok s₁ ∧ s'.points = s₁.points := by
  unfold claim at h
  cases hw : s.warmups.get? sender with
  | none =>
    simp only [hw] at h
    cases h
  | some w =>
    simp only [hw, Result.bind_eq_ok] at h
    obtain ⟨rcp, hrcp, s₁, hs₁, h⟩ := h
    obtain rfl := recipientOf_eq_ok hrcp
    refine ⟨s₁, hs₁, ?_⟩
    split at h <;> simp only [Result.pure_eq_ok, Prod.mk.injEq] at h <;> rw [← h.1]

theorem unstake_accrues {sender toAddr : String} {funds : Coins} {r : Response}
    (h : s.unstake l env sender funds toAddr = .ok (s', r)) :
    ∃ amount s₁, oneCoin funds s.config.stakedDenom = .ok amount ∧
      s.accruePoints l env sender amount = .ok s₁ ∧ s'.points = s₁.points := by
  simp only [unstake, Result.bind_eq_ok, Result.pure_eq_ok, Prod.mk.injEq] at h
  obtain ⟨amount, hamt, rcp, -, rate, -, redeemed, -, s₁, hs₁, rfl, -⟩ := h
  exact ⟨amount, s₁, hamt, hs₁, rfl⟩

theorem jail_pointsOf {sender addr : String} {jailed : Bool} {r : Response}
    (h : s.jail env sender addr jailed = .ok (s', r)) (b : String) :
    s'.config = s.config ∧ r.effects = [] ∧
      s'.pointsOf b = if addr = b then (s.pointsOf addr).jailAt jailed env.now else s.pointsOf b := by
  unfold jail at h
  by_cases ha : (sender != s.config.admin) = true
  · rw [if_pos ha] at h
    cases h
  rw [if_neg ha] at h
  cases hf : Address.fault? addr with
  | some f =>
    simp only [hf] at h
    cases h
  | none =>
    simp only [hf, Result.bind_eq_ok, Result.pure_eq_ok, Prod.mk.injEq] at h
    obtain ⟨s₁, hs₁, rfl, rfl⟩ := h
    rw [setPoints_eq_ok hs₁, pointsOf_insert]
    exact ⟨rfl, rfl, rfl⟩

theorem init_pointsOf {g : StakingGenesis} (h : Staking.init env g = .ok s) (a : String) :
    s.pointsOf a = StakingPoints.fresh := by
  simp only [init, Result.bind_eq_ok] at h
  obtain ⟨cfg, -, he⟩ := h
  rw [setEpoch_eq_ok he]
  rfl

end Staking

/-- The staked tokens that the sender `s` of a call hands to an unstake of its own, which the
unstake counts back into the balance it settles `a` against. -/
def ExecuteMsg.held (msg : ExecuteMsg) (s a : String) (funds : Coins) (denom : String) : Int :=
  match msg with
  | .unstake _ => if s = a then funds.amountOf denom else 0
  | _ => 0

/-- The messages whose handling may settle points: the staking calls that move staked tokens, and a
redeem, which may stake its payout. -/
def ExecuteMsg.mayAccrue : ExecuteMsg → Bool
  | .stake _ | .claim _ | .unstake _ | .redeem _ _ => true
  | _ => false

namespace World

variable {w w' : World} {env : Env} {s : String} {funds : Coins} {msg : ExecuteMsg} {a : String}

/-- What a call of `msg` from `s` with `funds` at `env` may do to the points of `a`: leave them,
reset or resume them when it jails or unjails `a`, or, when points are on, `a` is not jailed and
the message is one that may accrue, settle them at the block time against the staked balance `a`
holds once the call's funds have moved, with the staked tokens of an unstake of its own counted
back. -/
def PointsStep (a : String) (env : Env) (s : String) (funds : Coins) (msg : ExecuteMsg)
    (w w' : World) : Prop :=
  w'.staking.pointsOf a = w.staking.pointsOf a ∨
  (∃ j, msg = .jail a j ∧ w'.staking.pointsOf a = (w.staking.pointsOf a).jailAt j env.now) ∨
  ((w.staking.pointsOf a).jailed = false ∧ w.staking.config.pointsEnabled = true ∧
    msg.mayAccrue = true ∧ ∃ w₁, w.takeFunds s msg.contract funds = .ok w₁ ∧
      w'.staking.pointsOf a = (w.staking.pointsOf a).settle
        (w₁.ledger.balance a w.staking.config.stakedDenom +
          msg.held s a funds w.staking.config.stakedDenom) env.now)

theorem PointsStep.of_points (h : w'.staking.points = w.staking.points) :
    PointsStep a env s funds msg w w' :=
  .inl (by simp only [Staking.pointsOf, h])

theorem takeFunds_frame {w₁ : World} {c : ContractName} (h : w.takeFunds s c funds = .ok w₁) :
    w₁ = { w with ledger := w₁.ledger } := by
  obtain ⟨l₁, -, rfl⟩ := takeFunds_eq_ok h
  rfl

/-- The call accrues the points of `x` and touches no other record: once its funds have moved, `x`
is settled at the block time, when points are on and `x` is not jailed, against the staked balance
it holds then, with the staked tokens of an unstake of its own counted back. -/
def Accrues (x : String) (env : Env) (s : String) (funds : Coins) (msg : ExecuteMsg)
    (w w' : World) : Prop :=
  ∃ w₁, w.takeFunds s msg.contract funds = .ok w₁ ∧ ∀ b, w'.staking.pointsOf b =
    if x = b ∧ w.staking.config.pointsEnabled = true ∧ (w.staking.pointsOf x).jailed = false then
      (w.staking.pointsOf x).settle (w₁.ledger.balance x w.staking.config.stakedDenom +
        msg.held s x funds w.staking.config.stakedDenom) env.now
    else w.staking.pointsOf b

/-- One accrual for `x`, by a staking state with the call's configuration and points and against
the balance a settlement of `x` is charged at, is all the call does to the points. -/
theorem Accrues.of_accrue {w₁ : World} {x : String} {held : Int} {l : Ledger} {st s₁ : Staking}
    (htf : w.takeFunds s msg.contract funds = .ok w₁)
    (hacc : st.accruePoints l env x held = .ok s₁)
    (hcfg : st.config = w.staking.config) (hst : st.points = w.staking.points)
    (hbal : l.balance x w.staking.config.stakedDenom + held =
      w₁.ledger.balance x w.staking.config.stakedDenom +
        msg.held s x funds w.staking.config.stakedDenom)
    (hpts : w'.staking.points = s₁.points) : Accrues x env s funds msg w w' := by
  have hof : ∀ b, st.pointsOf b = w.staking.pointsOf b := fun b => by
    simp only [Staking.pointsOf, hst]
  refine ⟨w₁, htf, fun b => ?_⟩
  have hp : w'.staking.pointsOf b = s₁.pointsOf b := by simp only [Staking.pointsOf, hpts]
  rw [hp, Staking.accruePoints_pointsOf hacc b, hof, hof, hcfg, hbal]

theorem Accrues.settle (h : Accrues a env s funds msg w w')
    (he : w.staking.config.pointsEnabled = true) (hj : (w.staking.pointsOf a).jailed = false) :
    ∃ w₁, w.takeFunds s msg.contract funds = .ok w₁ ∧
      w'.staking.pointsOf a = (w.staking.pointsOf a).settle
        (w₁.ledger.balance a w.staking.config.stakedDenom +
          msg.held s a funds w.staking.config.stakedDenom) env.now := by
  obtain ⟨w₁, htf, hp⟩ := h
  exact ⟨w₁, htf, by rw [hp a, if_pos ⟨rfl, he, hj⟩]⟩

theorem Accrues.pointsStep {x : String} (hm : msg.mayAccrue = true)
    (h : Accrues x env s funds msg w w') : PointsStep a env s funds msg w w' := by
  by_cases hc : x = a ∧ w.staking.config.pointsEnabled = true ∧ (w.staking.pointsOf x).jailed = false
  · obtain ⟨rfl, he, hj⟩ := hc
    exact .inr (.inr ⟨hj, he, hm, h.settle he hj⟩)
  · obtain ⟨w₁, -, hp⟩ := h
    exact .inl (by rw [hp a, if_neg hc])

theorem EffectsRun.ledger_only
    {R : World → String → Coins → ExecuteMsg → World → List Event → List Move → Prop}
    {c : ContractName} {es : List Effect} {evs : List Event} {ms : List Move}
    (h : EffectsRun R c w es w' evs ms) (hs : ∀ e ∈ es, ∀ f m, e ≠ .execute f m) :
    w' = { w with ledger := w'.ledger } := by
  induction h with
  | nil w => rfl
  | send _ _ _ ih => exact ih fun e he => hs e (List.mem_cons_of_mem _ he)
  | mint _ _ _ ih => exact ih fun e he => hs e (List.mem_cons_of_mem _ he)
  | burn _ _ _ _ ih => exact ih fun e he => hs e (List.mem_cons_of_mem _ he)
  | execute _ _ _ => exact absurd rfl (hs _ List.mem_cons_self _ _)

section Handlers

variable {n : Nat} {w₁ w₂ : World} {resp : Response} {evs : List Event} {ms : List Move}
  {t : String}

theorem dispatch_setting_points (hs : msg.isSetting = true)
    (hd : w.dispatch env s funds msg = .ok (w₂, resp)) :
    (∃ j, msg = .jail a j ∧ w₂.staking.pointsOf a = (w.staking.pointsOf a).jailAt j env.now) ∨
      w₂.staking.pointsOf a = w.staking.pointsOf a := by
  cases msg <;> simp only [ExecuteMsg.isSetting, Bool.false_eq_true] at hs <;>
    simp only [dispatch, Result.bind_eq_ok, Result.pure_eq_ok, Prod.exists, Prod.mk.injEq] at hd
  case updateStakingConfig =>
    obtain ⟨st, r, hst, rfl, -⟩ := hd
    obtain ⟨_, rfl, -⟩ := Staking.updateConfig_eq_ok hst
    exact .inr rfl
  case jail addr j =>
    obtain ⟨st, r, hst, rfl, -⟩ := hd
    obtain ⟨-, -, hp⟩ := Staking.jail_pointsOf hst a
    by_cases ha : addr = a
    · subst ha
      exact .inl ⟨j, rfl, by rw [hp, if_pos rfl]⟩
    · exact .inr (by rw [hp, if_neg ha])
  all_goals obtain ⟨_, _, _, rfl, -⟩ := hd; exact .inr rfl

theorem deposit_pointsStep {p : Option Dec} {dep : String}
    (hd : w.dispatch env s funds (.deposit p dep) = .ok (w₂, resp))
    (hrun : EffectsRun (fun w s f m => w.Runs n env s f m) .bond w₂ resp.effects w' evs ms) :
    w'.staking = w.staking := by
  simp only [dispatch, Result.bind_eq_ok, Result.pure_eq_ok, Prod.exists, Prod.mk.injEq] at hd
  obtain ⟨b, r, hb, rfl, rfl⟩ := hd
  obtain ⟨_, _, _, _, _, _, -, -, -, -, -, -, -, -, -, he⟩ := Bond.deposit_shape hb
  rw [he] at hrun
  cases hrun with
  | send _ _ hrest =>
    cases hrest with
    | execute hR hnil =>
      cases hnil
      obtain ⟨w₃, _, htf, -, -, -, hw'⟩ := Runs.mint_inv hR
      rw [takeFunds_nil] at htf
      cases htf
      rw [hw']

theorem stake_accrual (htf : w.takeFunds s (ExecuteMsg.stake t).contract funds = .ok w₁)
    (hd : w₁.dispatch env s funds (.stake t) = .ok (w₂, resp))
    (hrun : EffectsRun (fun w s f m => w.Runs n env s f m) .staking w₂ resp.effects w' evs ms) :
    Accrues (if t.isEmpty = true then s else t) env s funds (.stake t) w w' := by
  have hw₁ := takeFunds_frame htf
  simp only [dispatch, Result.bind_eq_ok, Result.pure_eq_ok, Prod.exists, Prod.mk.injEq] at hd
  obtain ⟨st, r, hst, rfl, rfl⟩ := hd
  obtain ⟨s₁, hacc, hpts⟩ := Staking.stake_accrues hst
  obtain ⟨_, _, _, _, -, -, -, ⟨-, -, he⟩ | ⟨-, -, he⟩⟩ := Staking.stake_eq_ok hst <;>
  · rw [he] at hrun
    exact Accrues.of_accrue htf hacc (by rw [hw₁]) (by rw [hw₁]) (by simp [ExecuteMsg.held])
      (by rw [hrun.ledger_only (by simp), hpts])

theorem claim_accrual (htf : w.takeFunds s (ExecuteMsg.claim t).contract funds = .ok w₁)
    (hd : w₁.dispatch env s funds (.claim t) = .ok (w₂, resp))
    (hrun : EffectsRun (fun w s f m => w.Runs n env s f m) .staking w₂ resp.effects w' evs ms) :
    Accrues (if t.isEmpty = true then s else t) env s funds (.claim t) w w' := by
  have hw₁ := takeFunds_frame htf
  simp only [dispatch, Result.bind_eq_ok, Result.pure_eq_ok, Prod.exists, Prod.mk.injEq] at hd
  obtain ⟨st, r, hst, rfl, rfl⟩ := hd
  obtain ⟨s₁, hacc, hpts⟩ := Staking.claim_accrues hst
  have hno : ∀ e ∈ r.effects, ∀ f m, e ≠ .execute f m := by
    obtain ⟨_, _, _, -, -, -, he | he⟩ := Staking.claim_eq_ok hst <;> rw [he]
    · simp
    · split_ifs <;> simp
  exact Accrues.of_accrue htf hacc (by rw [hw₁]) (by rw [hw₁]) (by simp [ExecuteMsg.held])
    (by rw [hrun.ledger_only hno, hpts])

/-- An unstake accrues for its sender with the staked tokens it brought counted back: they are
the call's one coin of the staked token. -/
theorem unstake_accrual (htf : w.takeFunds s (ExecuteMsg.unstake t).contract funds = .ok w₁)
    (hd : w₁.dispatch env s funds (.unstake t) = .ok (w₂, resp))
    (hrun : EffectsRun (fun w s f m => w.Runs n env s f m) .staking w₂ resp.effects w' evs ms) :
    Accrues s env s funds (.unstake t) w w' := by
  have hw₁ := takeFunds_frame htf
  simp only [dispatch, Result.bind_eq_ok, Result.pure_eq_ok, Prod.exists, Prod.mk.injEq] at hd
  obtain ⟨st, r, hst, rfl, rfl⟩ := hd
  obtain ⟨amount, s₁, hamt, hacc, hpts⟩ := Staking.unstake_accrues hst
  obtain ⟨_, _, _, _, -, -, -, he⟩ := Staking.unstake_eq_ok hst
  rw [he] at hrun
  refine Accrues.of_accrue htf hacc (by rw [hw₁]) (by rw [hw₁]) ?_
    (by rw [hrun.ledger_only (by simp), hpts])
  rw [hw₁] at hamt
  simp only [ExecuteMsg.held, if_true, (oneCoin_eq_ok hamt).1, Coins.amountOf_single]

/-- The stake a redemption calls with its payout accrues for the stake's recipient against what
that recipient held once the redemption's funds moved: the payout it brings is in the base token,
which the stake does not count. -/
theorem redeem_stake_accrual {rcp : String} {stake : Bool} {bd : Bond} {d : Int}
    (hb : w.staking.config.baseDenom ≠ w.staking.config.stakedDenom)
    (htf : w.takeFunds s (ExecuteMsg.redeem rcp stake).contract funds = .ok w₁)
    (hrun : EffectsRun (fun w s f m => w.Runs n env s f m) .bond { w₁ with bond := bd }
      [.execute [Coin.of w₁.staking.config.baseDenom d] (.stake t)] w' evs ms) :
    Accrues (if t.isEmpty = true then bondAccount else t) env s funds (.redeem rcp stake) w w' := by
  have hw₁ := takeFunds_frame htf
  cases hrun with
  | execute hR hnil =>
    cases hnil
    cases n with
    | zero => exact hR.elim
    | succ n =>
      obtain ⟨-, -, w₃, w₄, resp', evs', ms', htf', hd', hrun', -, -⟩ := hR
      obtain ⟨l₃, -, rfl⟩ := takeFunds_eq_ok htf'
      simp only [dispatch, Result.bind_eq_ok, Result.pure_eq_ok, Prod.exists,
        Prod.mk.injEq] at hd'
      obtain ⟨st, r', hst', rfl, rfl⟩ := hd'
      obtain ⟨s₁, hacc, hpts⟩ := Staking.stake_accrues hst'
      have hbal := (takeFunds_balance htf' (if t.isEmpty = true then bondAccount else t)
        w.staking.config.stakedDenom).1
      rw [hw₁] at hbal
      simp only [Coins.amountOf_single, hb, if_false, ite_self, add_zero] at hbal
      obtain ⟨_, _, _, _, -, -, -, ⟨-, -, he⟩ | ⟨-, -, he⟩⟩ := Staking.stake_eq_ok hst' <;>
      · rw [he] at hrun'
        refine Accrues.of_accrue htf hacc (by rw [hw₁]) (by rw [hw₁]) ?_
          (by rw [hrun'.ledger_only (by simp), hpts])
        simp only [ExecuteMsg.held, add_zero]
        rw [hw₁]
        exact hbal

/-- A redeem leaves the points alone, unless it stakes the payout for its recipient, which that
stake then accrues. -/
theorem redeem_pointsStep {rcp : String} {stake : Bool}
    (hb : w.staking.config.baseDenom ≠ w.staking.config.stakedDenom)
    (htf : w.takeFunds s (ExecuteMsg.redeem rcp stake).contract funds = .ok w₁)
    (hd : w₁.dispatch env s funds (.redeem rcp stake) = .ok (w₂, resp))
    (hrun : EffectsRun (fun w s f m => w.Runs n env s f m) .bond w₂ resp.effects w' evs ms) :
    PointsStep a env s funds (.redeem rcp stake) w w' := by
  have hw₁ := takeFunds_frame htf
  simp only [dispatch, Result.bind_eq_ok, Result.pure_eq_ok, Prod.exists, Prod.mk.injEq] at hd
  obtain ⟨bd, r, hbd, rfl, rfl⟩ := hd
  obtain ⟨rcp', -, delivered, -, -, -, he⟩ := Bond.redeem_eq_ok hbd
  rw [he] at hrun
  split_ifs at hrun with hpos hst
  · exact (redeem_stake_accrual hb htf hrun).pointsStep rfl
  · exact PointsStep.of_points (by rw [hrun.ledger_only (by simp), hw₁])
  · cases hrun
    exact PointsStep.of_points (by rw [hw₁])

/-- Every call changes the points of `a` as a step allows: the staking handlers settle the
address they serve against the ledger they see, which the call's funds alone have moved, and
nothing else touches the points but a jail. -/
theorem Runs.pointsStep (hb : w.staking.config.baseDenom ≠ w.staking.config.stakedDenom)
    (h : w.Runs n env s funds msg w' evs ms) : PointsStep a env s funds msg w w' := by
  cases n with
  | zero => exact h.elim
  | succ n =>
  obtain ⟨-, -, w₁, w₂, resp, evs', ms', htf, hd, hrun, -, -⟩ := h
  by_cases hs : msg.isSetting = true
  · -- a setting emits nothing, so the handler's world is the call's
    rw [(dispatch_setting hs hd).1] at hrun
    cases hrun
    obtain ⟨l₁, -, rfl⟩ := takeFunds_eq_ok htf
    rcases dispatch_setting_points (a := a) hs hd with ⟨j, rfl, hp⟩ | hp
    · exact .inr (.inl ⟨j, rfl, hp⟩)
    · exact .inl hp
  have hw₁ := takeFunds_frame htf
  cases msg
  case deposit => exact PointsStep.of_points (by rw [deposit_pointsStep hd hrun, hw₁])
  case redeem => exact redeem_pointsStep hb htf hd hrun
  case stake => exact (stake_accrual htf hd hrun).pointsStep rfl
  case claim => exact (claim_accrual htf hd hrun).pointsStep rfl
  case unstake => exact (unstake_accrual htf hd hrun).pointsStep rfl
  all_goals try (simp [ExecuteMsg.isSetting] at hs; done)
  all_goals
    simp only [dispatch, Result.bind_eq_ok, Result.pure_eq_ok, Prod.exists, Prod.mk.injEq] at hd
  case rebase =>
    obtain ⟨st, r, hst, rfl, rfl⟩ := hd
    obtain ⟨_, _, rfl, -⟩ := Staking.rebase_state hst
    obtain ⟨-, -, -, he | ⟨_, he⟩⟩ := Staking.rebase_eq_ok hst <;> rw [he] at hrun
    · cases hrun
      exact PointsStep.of_points (by rw [hw₁])
    · exact PointsStep.of_points (by rw [hrun.ledger_only (by simp), hw₁])
  case mint =>
    obtain ⟨r, hr, rfl, rfl⟩ := hd
    obtain ⟨-, _, -, -, he⟩ := Staking.mint_eq_ok hr
    rw [he] at hrun
    exact PointsStep.of_points (by rw [hrun.ledger_only (by simp), hw₁])

end Handlers

end World

namespace Chain

open World

theorem Reachable.pointsStep {admits : Call → Prop} {c : Chain} (hc : c.Reachable admits)
    (a : String) (call : Call) :
    (c.step call).world.staking.pointsOf a = c.world.staking.pointsOf a ∨
    ∃ now s funds msg, call = .execute now s funds msg ∧
      PointsStep a ⟨now, c.height + 1⟩ s funds msg c.world (c.step call).world := by
  rcases step_cases c call with he | ⟨now, g, -, h⟩ | ⟨now, s, funds, msg, w, evs, ms, rfl, hi, hrun, he⟩ |
    ⟨now, src, dst, coins, l, -, -, -, he⟩
  · exact .inl (by rw [he])
  · -- only the chain before genesis instantiates, and neither holds a record yet
    obtain ⟨hg, -, -, hst, -⟩ := instantiate_eq_ok h
    obtain rfl := hc.eq_empty hg
    exact .inl (by rw [Staking.init_pointsOf hst]; rfl)
  · refine .inr ⟨now, s, funds, msg, rfl, ?_⟩
    rw [he]
    exact Runs.pointsStep (hc.debtBounded hi).denoms hrun
  · exact .inl (by rw [he])

theorem Reachable.jailed_total {admits : Call → Prop} {c : Chain} (hc : c.Reachable admits)
    (a : String) (hj : (c.world.staking.pointsOf a).jailed = true) :
    (c.world.staking.pointsOf a).total = 0 := by
  induction hc generalizing a with
  | empty => cases hj
  | step call _ hc ih =>
    rename_i c
    -- a jail call that jails clears the total; every other change keeps the record unjailed
    rcases hc.pointsStep a call with hp | ⟨now, s, funds, msg, -, hp | ⟨j, -, hp⟩ | ⟨hj₀, -, -, _, -, hp⟩⟩
    · rw [hp] at hj ⊢
      exact ih a hj
    · rw [hp] at hj ⊢
      exact ih a hj
    · rw [hp] at hj ⊢
      cases j
      · cases hj
      · rfl
    · rw [hp] at hj
      simp only [StakingPoints.settle] at hj
      rw [hj₀] at hj
      cases hj

def stakeAtTen : Call := .execute ⟨10, 0, 0⟩ deploymentTreasury [Coin.of "ubond" 100] (.stake "")

def stakedAtTen : Chain := deployed.step stakeAtTen

def handedOverAtTwenty : Chain :=
  stakedAtTen.step (.transfer ⟨20, 0, 0⟩ deploymentTreasury deploymentAdmin [Coin.of "usbond" 100])

/-- A transfer goes unsettled: the treasury's clock starts at second 10 with 100 staked tokens,
which it holds until second 20, yet at second 30 its total and its pending points are both zero,
where the staked time is 100 tokens for 10 seconds. -/
theorem transfer_goes_unsettled :
    stakedAtTen.world.staking.config.pointsEnabled = true ∧
    stakedAtTen.world.staking.pointsOf deploymentTreasury = ⟨0, ⟨10, 0, 0⟩, false⟩ ∧
    stakedAtTen.world.ledger.balance deploymentTreasury "usbond" = 100 ∧
    handedOverAtTwenty.world.ledger.balance deploymentTreasury "usbond" = 0 ∧
    handedOverAtTwenty.world.staking.pointsOf deploymentTreasury = ⟨0, ⟨10, 0, 0⟩, false⟩ ∧
    handedOverAtTwenty.world.staking.pendingPoints handedOverAtTwenty.world.ledger ⟨⟨30, 0, 0⟩, 3⟩
      deploymentTreasury (handedOverAtTwenty.world.staking.pointsOf deploymentTreasury) 0 = .ok 0 := by
  decide +kernel

end Chain

end Bonding

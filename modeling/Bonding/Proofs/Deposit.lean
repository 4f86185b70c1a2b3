import Mathlib
import Bonding.Proofs.Dilution
set_option autoImplicit false

/-!
Which check a deposit fails, and what a deposit that passes them does.

A deposit call meets the host's checks first: the sender's address, then the funds, which move from
the sender to the bond account before the handler runs. The handler decays the debt to the block
time and checks, in order, the max debt, the max price, the oracle prices of a bond priced in USD,
that the price is positive, the min payout and the cap on one payout. Last the bond asks staking to
mint the payout, which only a minter may do.

Each of these checks fails with an error class (`Fault.sentinel?`). An overflow, a time that a
record cannot store, or a panic fails with none. So a run that fails, if at all, with a class
(`Result.Classed`) is one in which nothing overflowed, and in such a run the error is the class of
the first check that fails. The checks are stated over the numbers they read: the decayed debt, the
price at the debt ratio and the payout it buys.
-/

namespace Bonding

def Result.failure {α : Type} : Result α → Option Sentinel
  | .ok _ => none
  | .error f => f.sentinel?

def Result.Classed {α : Type} (r : Result α) : Prop := ∀ f, r = .error f → f.sentinel?.isSome

/-- A result that, if it fails, fails with no error class: a step whose only failures are
overflows and panics. -/
def Result.Unclassed {α : Type} (r : Result α) : Prop := ∀ f, r = .error f → f.sentinel? = none

namespace Result

variable {α β : Type}

@[simp] theorem ok_bind (a : α) (g : α → Result β) : (Except.ok a >>= g) = g a := rfl

@[simp] theorem error_bind (f : Fault) (g : α → Result β) : (Except.error f >>= g) = .error f := rfl

/-- A step that fails with no class, followed by the rest of a run that fails only with a class,
succeeded: the step is peeled off. -/
theorem Classed.bind {x : Result α} {g : α → Result β} {r : Result β}
    (h : (x >>= g) = r) (hr : r.Classed) (hx : x.Unclassed) : ∃ a, x = .ok a ∧ g a = r := by
  cases x with
  | error f =>
    have hc := hr f h.symm
    rw [hx f rfl] at hc
    cases hc
  | ok a => exact ⟨a, rfl, h⟩

theorem Unclassed.bind {x : Result α} {g : α → Result β} (hx : x.Unclassed)
    (hg : ∀ a, (g a).Unclassed) : (x >>= g).Unclassed := by
  intro f h
  cases x with
  | error e => exact hx f (by simpa using h)
  | ok a => exact hg a f h

theorem unclassed_pure (a : α) : (pure a : Result α).Unclassed := fun _ h => nomatch h

theorem unclassed_panic (v : String) : Result.Unclassed (α := α) (.error (.panic v)) := by
  rintro f ⟨⟩
  rfl

theorem Unclassed.context {r : Result α} {ctx : String} (hr : r.Unclassed) :
    (Result.context ctx r).Unclassed := by
  intro f h
  cases r with
  | ok a => cases h
  | error e =>
    cases h
    have := hr e rfl
    cases e <;> simp_all [Fault.context, Fault.sentinel?]

@[simp] theorem failure_context {r : Result α} {ctx : String} :
    (Result.context ctx r).failure = r.failure := by
  cases r with
  | ok a => rfl
  | error e => cases e <;> rfl

theorem Classed.of_context {r : Result α} {ctx : String} (hr : (Result.context ctx r).Classed) :
    r.Classed := by
  intro f h
  subst h
  have := hr (f.context ctx) rfl
  cases f <;> simp_all [Fault.context, Fault.sentinel?]

theorem failure_eq_none {r : Result α} (hr : r.Classed) (hu : r.Unclassed) : r.failure = none := by
  cases r with
  | ok a => rfl
  | error f =>
    have := hr f rfl
    rw [hu f rfl] at this
    cases this

theorem failure_bind_pure (x : Result α) (f : α → β) :
    (x >>= fun a => pure (f a)).failure = x.failure := by
  cases x <;> rfl

theorem Classed.of_bind_pure {x : Result α} {f : α → β}
    (h : (x >>= fun a => pure (f a)).Classed) : x.Classed := by
  intro e he
  subst he
  exact h e rfl

/-- A check that fails throws its class: that class is the first failure, and there is no
success. -/
theorem wrap_first {γ : Type} {c : Sentinel} {m : String} {P : Prop} [Decidable P]
    {rest : Option Sentinel} {Q : α → γ → Prop} (hP : P) :
    Result.failure (Except.error (Fault.wrap c m) : Result (α × γ)) = (if P then some c else rest) ∧
      ∀ a b, (Except.error (Fault.wrap c m) : Result (α × γ)) = .ok (a, b) → Q a b :=
  ⟨by rw [if_pos hP]; rfl, by rintro _ _ ⟨⟩⟩

theorem ok_iff_failure {r : Result α} (hr : r.Classed) : (∃ v, r = .ok v) ↔ r.failure = none := by
  cases r with
  | ok a => exact ⟨fun _ => rfl, fun _ => ⟨a, rfl⟩⟩
  | error f =>
    have := hr f rfl
    constructor
    · rintro ⟨v, ⟨⟩⟩
    · intro h
      change f.sentinel? = none at h
      rw [h] at this
      cases this

theorem classed_of_ok {r : Result α} (h : (r.map fun _ => ()) = .ok ()) : r.Classed := by
  rintro f rfl
  cases h

end Result

theorem Int256.checked_unclassed (x : Int) : (Int256.checked x).Unclassed := fun _ h => by
  rw [Int256.checked_error h]
  rfl

theorem Dec.checked_unclassed (u : Int) : (Dec.checked u).Unclassed := fun _ h => by
  rw [Dec.checked_error h]
  rfl

theorem Dec.quoTruncate_unclassed (a b : Dec) : (a.quoTruncate b).Unclassed := by
  unfold Dec.quoTruncate
  split
  · exact Result.unclassed_panic _
  · exact Dec.checked_unclassed _

theorem Dec.quo_unclassed (a b : Dec) : (a.quo b).Unclassed := by
  unfold Dec.quo
  split
  · exact Result.unclassed_panic _
  · exact Dec.checked_unclassed _

theorem Dec.mul_eq {a b p : Dec} (h : a.mul b = .ok p) : p = ⟨Dec.roundUnits (a.units * b.units)⟩ :=
  (Dec.checked_eq_ok.mp h).2

theorem Record.checkTimes_unclassed (ts : List Instant) : (Record.checkTimes ts).Unclassed :=
  fun _ h => Record.checkTimes_error h

theorem Ledger.checkKey_unclassed (a : String) : (Ledger.checkKey a).Unclassed :=
  fun _ h => Ledger.checkKey_error h

theorem decayAmount_unclassed {d : DebtState} {vt : Nat} {now : Instant} (hv : 0 < vt) :
    (decayAmount d vt now).Unclassed := fun _ h => by
  rw [decayAmount_error hv h]
  rfl

theorem decayAmount_eq {d : DebtState} {vt : Nat} {now : Instant} {x : Int}
    (hd : 0 ≤ d.outstandingDebt) (h : decayAmount d vt now = .ok x) :
    x = min (d.outstandingDebt * d.lastDecayTime.elapsed now / vt) d.outstandingDebt := by
  unfold decayAmount at h
  simp -zeta only [Result.throw_bind] at h
  split at h
  · cases h
  dsimp only at h
  rw [Result.bind_eq_ok] at h
  obtain ⟨y, hy, h⟩ := h
  obtain ⟨-, rfl⟩ := Int256.checked_eq_ok.mp hy
  rw [Result.bind_eq_ok] at h
  obtain ⟨q, hq, h⟩ := h
  rw [Result.pure_eq_ok] at h
  subst h
  unfold Int256.quo at hq
  split at hq
  · cases hq
  cases hq
  rw [Int.tdiv_eq_ediv_of_nonneg (Int.mul_nonneg hd (Int.natCast_nonneg _))]

theorem oneCoin_of {d : String} {a : Int} (ha : 0 < a) : oneCoin [Coin.of d a] d = .ok a := by
  simp [oneCoin, Coin.of, ha]

theorem Coins.validate_one {d : String} {x : Int} (hd : Denom.fault? d = none) (hx : 0 < x) :
    Coins.validate [Coin.of d x] = .ok none := by
  simp [Coins.validate, Coins.validate.loop, Coin.of, Coin.isPositive, hd, hx]
  rfl

/-! ### The numbers a deposit reads -/

def payoutFor (amount : Int) (price : Dec) : Int := amount * Dec.scale / price.units

theorem payoutAt_of_nonpos {amount : Int} {price : Dec} (hp : price.units ≤ 0) :
    payoutAt amount price = .error (.wrap .arithmetic "bond price is zero") := by
  simp [payoutAt, Dec.isPositive, not_lt.mpr hp, throw, throwThe, MonadExceptOf.throw]

theorem payoutAt_unclassed {amount : Int} {price : Dec} (hp : 0 < price.units) :
    (payoutAt amount price).Unclassed := by
  simp only [payoutAt, Dec.isPositive, hp, decide_true, Bool.not_true, Bool.false_eq_true,
    if_false]
  exact (Dec.quoTruncate_unclassed _ _).bind fun _ => Result.unclassed_pure _

theorem payoutAt_eq {amount x : Int} {price : Dec} (ha : 0 ≤ amount) (hp : 0 < price.units)
    (h : payoutAt amount price = .ok x) : x = payoutFor amount price := by
  simp only [payoutAt, Dec.isPositive, hp, decide_true, Bool.not_true, Bool.false_eq_true,
    if_false, Result.bind_eq_ok, Result.pure_eq_ok] at h
  obtain ⟨q, hq, rfl⟩ := h
  exact Dec.quoTruncate_truncate ha hp hq

/-- The debt ratio at a debt: the debt over the payout supply, truncated to eighteen places; zero
without supply. -/
def debtRatioAt (debt supply : Int) : Dec :=
  if supply ≤ 0 then Dec.zero else ⟨debt * Dec.scale / supply⟩

/-- The price at a debt ratio: the control variable times the ratio, rounded to eighteen places,
and never below the minimum price. -/
def Terms.priceAt (t : Terms) (ratio : Dec) : Dec :=
  let raw : Dec := ⟨Dec.roundUnits (t.controlVariable.units * ratio.units)⟩
  if raw < t.minimumPrice then t.minimumPrice else raw

/-- The largest payout of one deposit at a payout supply: the supply times the max payout share,
rounded down. -/
def Terms.payoutCap (t : Terms) (supply : Int) : Int := supply * t.maxPayout.units / Dec.scale

/-- The class of the oracle check of a deposit priced in USD: both prices must be known, and
neither older than the trust period. -/
def BondConfig.oracleCheck (cfg : BondConfig) (o : Oracle) (env : Env) : Option Sentinel :=
  if cfg.usd.isEmpty then none
  else match o.price env cfg.principal, o.price env cfg.usd with
    | .ok p, .ok q =>
      if Quote.isFresh ⟨none, p.lastUpdated, q.lastUpdated⟩ env.now cfg.oracleTrustPeriod then none
      else some .stalePrice
    | _, _ => some .priceNotFound

namespace Ledger

variable {l : Ledger}

theorem balanceOf_unclassed (d a : String) : (l.balanceOf d a).Unclassed :=
  (checkKey_unclassed a).bind fun _ => Result.unclassed_pure _

theorem setBalance_unclassed (a d : String) (x : Int) : (l.setBalance a d x).Unclassed := by
  refine (checkKey_unclassed a).bind fun _ => ?_
  split <;> exact Result.unclassed_pure _

theorem credit_unclassed (a d : String) (x : Int) : (l.credit a d x).Unclassed :=
  (balanceOf_unclassed d a).bind fun _ =>
    (Int256.checked_unclassed _).bind fun _ => setBalance_unclassed a d _

theorem checkCoin_of {d : String} {x : Int} (hd : Denom.fault? d = none) (hx : 0 ≤ x) :
    checkCoin (Coin.of d x) = .ok x := by
  simp [checkCoin, Coin.of, hd, not_lt.mpr hx]

theorem debit_failure {a d : String} {x : Int} (hr : (l.debit a d x).Classed) :
    (l.debit a d x).failure = if l.balance a d < x then some .insufficientBalance else none := by
  generalize hq : l.debit a d x = r at hr
  unfold debit at hq
  obtain ⟨b, hb, hq⟩ := Result.Classed.bind hq hr (balanceOf_unclassed d a)
  obtain ⟨-, rfl⟩ := balanceOf_eq_ok hb
  split at hq
  · rename_i hlt
    rw [← hq, if_pos hlt]
    rfl
  · rename_i hge
    rw [if_neg hge]
    obtain ⟨y, -, hq⟩ := Result.Classed.bind hq hr (Int256.checked_unclassed _)
    exact Result.failure_eq_none hr (hq ▸ setBalance_unclassed a d y)

/-- Minting a coin of a valid denomination and an amount that is not negative fails with no
class. -/
theorem mint_unclassed {d a : String} {x : Int} (hd : Denom.fault? d = none) (hx : 0 ≤ x) :
    (l.mint (Coin.of d x) a).Unclassed := by
  unfold mint
  rw [checkCoin_of hd hx, Result.ok_bind]
  split
  · exact Result.unclassed_pure _
  · exact (Int256.checked_unclassed _).bind fun _ => credit_unclassed _ _ _

/-- Sending one coin of a valid denomination and a positive amount fails with a class only when
the source holds less than the amount. -/
theorem send_one_failure {src dst d : String} {x : Int} (hd : Denom.fault? d = none) (hx : 0 < x)
    (hr : (l.send src dst [Coin.of d x]).Classed) :
    (l.send src dst [Coin.of d x]).failure =
      if l.balance src d < x then some .insufficientBalance else none := by
  generalize hq : l.send src dst [Coin.of d x] = r at hr
  simp only [send] at hq
  rw [checkCoin_of hd hx.le, Result.ok_bind, if_neg hx.ne'] at hq
  dsimp only [Coin.of] at hq
  cases hdeb : l.debit src d x with
  | error f =>
    rw [hdeb, Result.error_bind] at hq
    subst hq
    have := debit_failure (l := l) (a := src) (d := d) (x := x) (hdeb ▸ hr)
    rwa [hdeb] at this
  | ok l₁ =>
    rw [hdeb, Result.ok_bind] at hq
    rw [if_neg (not_lt.mpr (debit_eq_ok hdeb).1)]
    exact Result.failure_eq_none hr
      (hq ▸ (credit_unclassed _ _ _).bind fun _ => Result.unclassed_pure _)

theorem send_one_error {src dst d : String} {x : Int} {f : Fault} (hd : Denom.fault? d = none)
    (hx : 0 < x) (h : l.send src dst [Coin.of d x] = .error f) (hc : f.sentinel?.isSome) :
    l.balance src d < x ∧ f.sentinel? = some .insufficientBalance := by
  have hf := send_one_failure hd hx (by rw [h]; rintro e ⟨⟩; exact hc)
  rw [h] at hf
  change f.sentinel? = _ at hf
  split_ifs at hf with hlt
  · exact ⟨hlt, hf⟩
  · rw [hf] at hc
    cases hc

theorem le_balance_of_send_one {src dst d : String} {x : Int} {l₁ : Ledger}
    (hd : Denom.fault? d = none) (hx : 0 < x) (h : l.send src dst [Coin.of d x] = .ok l₁) :
    x ≤ l.balance src d := by
  have hf := send_one_failure hd hx (Result.classed_of_ok (by rw [h]; rfl))
  rw [h] at hf
  split_ifs at hf with hlt
  · cases hf
  · exact not_lt.mp hlt

theorem send_one_unclassed {src dst d : String} {x : Int} (hd : Denom.fault? d = none) (hx : 0 < x)
    (hbal : x ≤ l.balance src d) : (l.send src dst [Coin.of d x]).Unclassed := by
  intro f hf
  cases hs : f.sentinel? with
  | none => rfl
  | some c => exact absurd (send_one_error hd hx hf (by simp [hs])).1 (not_lt.mpr hbal)

/-- After a send of one coin, its destination holds at least the amount, since no balance is
negative: it received the amount, or it sent the amount to itself. -/
theorem le_balance_send_one {src dst d : String} {x : Int} {l₁ : Ledger}
    (hd : Denom.fault? d = none) (hx : 0 < x) (hp : l.balances.Positive)
    (h : l.send src dst [Coin.of d x] = .ok l₁) : x ≤ l₁.balance dst d := by
  have e := balance_send h dst d
  simp only [Coins.amountOf_single, if_true] at e
  by_cases hsd : dst = src
  · have hsrc := le_balance_of_send_one hd hx h
    rw [if_pos hsd] at e
    rw [hsd] at e ⊢
    omega
  · have h0 := balance_nonneg hp dst d
    rw [if_neg hsd] at e
    omega

/-- The moves of a deposit on the ledger: the sender pays the amount of principal, the treasury
receives it, and the payout is minted to the bond account. -/
theorem deposit_moves {l₁ l₂ l₃ : Ledger} {sender treasury principal base : String}
    {amount payout : Int}
    (h₁ : l.send sender bondAccount [Coin.of principal amount] = .ok l₁)
    (h₂ : l₁.send bondAccount treasury [Coin.of principal amount] = .ok l₂)
    (h₃ : l₂.mint (Coin.of base payout) bondAccount = .ok l₃) :
    (∀ a d, l₃.balance a d + (if a = sender ∧ d = principal then amount else 0) =
      l.balance a d + (if a = treasury ∧ d = principal then amount else 0) +
        (if a = bondAccount ∧ d = base then payout else 0)) ∧
    ∀ d, l₃.supplyOf d = l.supplyOf d + if d = base then payout else 0 := by
  -- one coin moved by a send is an amount of its denomination at one address
  have hone : ∀ (a x d : String),
      (if a = x then Coins.amountOf [Coin.of principal amount] d else 0) =
        if a = x ∧ d = principal then amount else 0 := by
    intro a x d
    rw [Coins.amountOf_single]
    rcases eq_or_ne d principal with rfl | hd <;> by_cases hax : a = x <;> simp [*, Ne.symm]
  constructor
  · intro a d
    have e₁ := balance_send h₁ a d
    have e₂ := balance_send h₂ a d
    have e₃ := balance_mint h₃ a d
    rw [hone] at e₁ e₂
    rw [hone] at e₁ e₂
    have hm : (if (bondAccount, (Coin.of base payout).denom) = (a, d) then
        (Coin.of base payout).amount.getD 0 else 0) =
          if a = bondAccount ∧ d = base then payout else 0 := by
      rcases eq_or_ne d base with rfl | hd <;> by_cases ha : a = bondAccount <;>
        simp [Coin.of, eq_comm, *, Ne.symm]
    rw [hm] at e₃
    linarith
  · intro d
    have e₃ := supplyOf_mint h₃ d
    have hs : l₂.supplyOf d = l.supplyOf d := by
      simp only [supplyOf, supply_send h₂, supply_send h₁]
    rw [e₃, hs]
    rcases eq_or_ne d base with rfl | hd <;> simp [Coin.of, *, Ne.symm]

end Ledger

namespace Bond

/-- The debt decayed to `now`: the debt less its share of the time since the last decay over the
vesting term, and never below zero. -/
def decayedDebt (b : Bond) (now : Instant) : Int :=
  b.debt.outstandingDebt -
    min (b.debt.outstandingDebt * b.debt.lastDecayTime.elapsed now / b.terms.vestingTerm)
      b.debt.outstandingDebt

def depositPrice (b : Bond) (env : Env) (supply : Int) : Dec :=
  b.terms.priceAt (debtRatioAt (b.decayedDebt env.now) supply)

def depositPayout (b : Bond) (env : Env) (supply amount : Int) : Int :=
  payoutFor amount (b.depositPrice env supply)

/-- The class of the first check the deposit handler fails for `amount` at a price of at most
`maxPrice`, with `supply` of the payout token; none when it passes them all. -/
def depositCheck (b : Bond) (o : Oracle) (env : Env) (supply amount : Int) (maxPrice : Dec) :
    Option Sentinel :=
  if b.terms.maxDebt < b.decayedDebt env.now then some .maxDebtReached
  else if maxPrice < b.depositPrice env supply then some .slippageExceeded
  else match b.config.oracleCheck o env with
    | some c => some c
    | none =>
      if (b.depositPrice env supply).units ≤ 0 then some .arithmetic
      else if b.depositPayout env supply amount < b.config.minPayout then some .bondTooSmall
      else if b.terms.payoutCap supply < b.depositPayout env supply amount then some .bondTooLarge
      else none

theorem minPayout_le_of_depositCheck {b : Bond} {o : Oracle} {env : Env} {supply amount : Int}
    {maxPrice : Dec} (h : b.depositCheck o env supply amount maxPrice = none) :
    b.config.minPayout ≤ b.depositPayout env supply amount := by
  by_contra hlt
  unfold depositCheck at h
  cases hoc : b.config.oracleCheck o env <;> simp only [hoc] at h
  · simp only [not_le.mp hlt, if_true] at h
    split_ifs at h
  · split_ifs at h

variable {b : Bond} {o : Oracle} {s : Staking} {l : Ledger} {env : Env}

theorem setDebt_unclassed (d : DebtState) : (b.setDebt d).Unclassed :=
  (Record.checkTimes_unclassed _).bind fun _ => Result.unclassed_pure _

theorem setPosition_unclassed (a : String) (p : Position) : (b.setPosition a p).Unclassed :=
  (Record.checkTimes_unclassed _).bind fun _ => Result.unclassed_pure _

theorem setAdjustment_unclassed (a : Adjustment) : (b.setAdjustment a).Unclassed :=
  (Record.checkTimes_unclassed _).bind fun _ => Result.unclassed_pure _

theorem currentDebt_unclassed (hv : 0 < b.terms.vestingTerm) : (b.currentDebt env).Unclassed :=
  (decayAmount_unclassed hv).bind fun _ => Int256.checked_unclassed _

theorem debtRatio_unclassed (hv : 0 < b.terms.vestingTerm) : (b.debtRatio s l env).Unclassed := by
  refine (currentDebt_unclassed hv).bind fun _ => ?_
  dsimp only
  split
  · exact Result.unclassed_pure _
  · exact Dec.quoTruncate_unclassed _ _

theorem maxPayout_unclassed : (b.maxPayout s l).Unclassed :=
  (Dec.checked_unclassed _).bind fun _ => Result.unclassed_pure _

theorem stepAdjustment_unclassed : (b.stepAdjustment env).Unclassed := by
  unfold stepAdjustment
  dsimp only
  split
  · exact Result.unclassed_pure _
  have hset : ∀ x : Dec × Dec, (Result.Unclassed (α := Bond) (pure x >>= fun x =>
      { b with terms := { b.terms with controlVariable := x.1 } }.setAdjustment
        { b.adjustment with rate := x.2, lastTime := env.now })) :=
    fun x => (Result.unclassed_pure x).bind fun _ => setAdjustment_unclassed _
  split
  · exact (Dec.checked_unclassed _).bind fun _ => hset _
  · split
    · exact (Dec.checked_unclassed _).bind fun _ => hset _
    · exact (Result.unclassed_pure _).bind fun _ => hset _

theorem currentDebt_of_decayed (hv : 0 < b.terms.vestingTerm) (hd : 0 ≤ b.debt.outstandingDebt)
    (hf : Int256.fits b.debt.outstandingDebt = true) (hn : b.debt.lastDecayTime = env.now) :
    b.currentDebt env = .ok b.debt.outstandingDebt := by
  have he : b.debt.lastDecayTime.elapsed env.now = 0 := by
    simp [hn, Instant.elapsed, Instant.before]
  have hlim : 0 < Int256.limit := Nat.pos_of_ne_zero (by simp [Int256.limit])
  simp only [Int256.fits, decide_eq_true_eq] at hf
  simp [currentDebt, debtDecay, decayAmount, he, hv.ne', Int256.mul, Int256.quo, Int256.sub,
    Int256.checked, Int256.fits, hlim, hd, hf]

theorem debtRatio_eq {D : Int} {r : Dec} (hcur : b.currentDebt env = .ok D) (hD : 0 ≤ D)
    (h : b.debtRatio s l env = .ok r) : r = debtRatioAt D (payoutSupply s l) := by
  unfold debtRatio at h
  rw [hcur, Result.ok_bind] at h
  dsimp only at h
  unfold debtRatioAt
  split at h
  · rename_i hs
    rw [if_pos hs]
    exact (Result.pure_eq_ok.mp h).symm
  · rename_i hs
    rw [if_neg hs]
    have hsc : (0 : Int) < Dec.scale := by exact_mod_cast Dec.scale_pos
    have hS : 0 < payoutSupply s l := by omega
    simp only [Dec.quoTruncate, Dec.ofInt, (Int.mul_pos hS hsc).ne', if_false] at h
    obtain ⟨-, rfl⟩ := Dec.checked_eq_ok.mp h
    rw [Int.tdiv_eq_ediv_of_nonneg (Int.mul_nonneg (Int.mul_nonneg hD hsc.le) hsc.le),
      Int.mul_ediv_mul_of_pos_left _ _ hsc]

theorem maxPayout_eq {x : Int} (hs : 0 ≤ payoutSupply s l) (hm : 0 ≤ b.terms.maxPayout.units)
    (h : b.maxPayout s l = .ok x) : x = b.terms.payoutCap (payoutSupply s l) := by
  unfold maxPayout at h
  rw [Result.bind_eq_ok] at h
  obtain ⟨p, hp, h⟩ := h
  rw [← Result.pure_eq_ok.mp h]
  exact Dec.mul_truncate hs hm hp

/-- Priced in USD, the oracle step of a deposit fails with the class its check names, unless it
overflows. -/
theorem assetPrice_failure (hu : ¬b.config.usd.isEmpty = true) (hr : (b.assetPrice o env).Classed) :
    (b.assetPrice o env).failure = b.config.oracleCheck o env := by
  generalize hq : b.assetPrice o env = r at hr
  unfold assetPrice Oracle.quote at hq
  unfold BondConfig.oracleCheck
  rw [if_neg hu]
  simp only [hu, Bool.false_eq_true, if_false] at hq
  cases hpb : o.price env b.config.principal with
  | error e =>
    rw [hpb] at hq
    rw [← hq, Oracle.price_error hpb]
    rfl
  | ok p =>
    cases hpq : o.price env b.config.usd with
    | error e =>
      rw [hpb, hpq] at hq
      rw [← hq, Oracle.price_error hpq]
      rfl
    | ok q =>
      rw [hpb, hpq] at hq
      simp only [Result.ok_bind] at hq
      cases hx : p.price.quo q.price with
      | error e =>
        rw [hx] at hq
        have := hr e hq.symm
        rw [Dec.quo_unclassed _ _ e hx] at this
        cases this
      | ok x =>
        rw [hx] at hq
        simp only [Result.ok_bind, pure_bind] at hq
        -- freshness reads the two update times only, not the rate
        have hfr : Quote.isFresh ⟨some x, p.lastUpdated, q.lastUpdated⟩ env.now
            b.config.oracleTrustPeriod =
              Quote.isFresh ⟨none, p.lastUpdated, q.lastUpdated⟩ env.now
                b.config.oracleTrustPeriod :=
          rfl
        rw [hfr] at hq
        dsimp only
        cases hc : Quote.isFresh ⟨none, p.lastUpdated, q.lastUpdated⟩ env.now
            b.config.oracleTrustPeriod
        · simp only [hc, Bool.not_false, if_true] at hq
          rw [← hq]
          rfl
        · simp only [hc, Bool.not_true, Bool.false_eq_true, if_false] at hq
          rw [← hq]
          rfl

/-- A deposit of one positive coin of the principal, for a valid depositor and with a max price,
fails with the class of the first of the handler's checks that fails, unless it overflows or
stores a time a record cannot hold; otherwise it adds the payout to the decayed debt and asks for
the principal to go to the treasury and for the payout to be minted. -/
theorem deposit_failure (hb : b.Configured) (hd : 0 ≤ b.debt.outstandingDebt)
    (hs : 0 ≤ payoutSupply s l) {amount : Int} (ha : 0 < amount) {sender depositor : String}
    {maxPrice : Dec}
    (hdep : Address.fault? (if depositor.isEmpty then sender else depositor) = none)
    {r : Result (Bond × Response)}
    (h : b.deposit o s l env sender [Coin.of b.config.principal amount] (some maxPrice)
      depositor = r)
    (hr : r.Classed) :
    r.failure = b.depositCheck o env (payoutSupply s l) amount maxPrice ∧
    ∀ b' resp, r = .ok (b', resp) →
      b'.debt.outstandingDebt =
        b.decayedDebt env.now + b.depositPayout env (payoutSupply s l) amount ∧
      resp.effects = [.send bondAccount b.config.treasury [Coin.of b.config.principal amount],
        .execute [] (.mint bondAccount
          (some (b.depositPayout env (payoutSupply s l) amount)))] := by
  obtain ⟨hcv, hmp, hmx, hmd, hv⟩ := Terms.toInput_validate_iff.mp hb.terms
  unfold deposit at h
  simp -zeta only [Result.throw_bind] at h
  dsimp only at h
  rw [oneCoin_of ha, Result.ok_bind] at h
  simp only [hdep] at h
  obtain ⟨decay, hdecay, h⟩ := Result.Classed.bind h hr (decayAmount_unclassed hv)
  obtain ⟨D, hD, h⟩ := Result.Classed.bind h hr (Int256.checked_unclassed _)
  obtain ⟨hfD, rfl⟩ := Int256.checked_eq_ok.mp hD
  obtain ⟨b₁, hb₁, h⟩ := Result.Classed.bind h hr (setDebt_unclassed _)
  have hDeq : b.debt.outstandingDebt - decay = b.decayedDebt env.now := by
    rw [decayAmount_eq hd hdecay]
    rfl
  have ht₁ : b₁.terms = b.terms := by rw [setDebt_eq_ok hb₁]
  have hd₁ : b₁.debt = ⟨b.decayedDebt env.now, env.now⟩ := by rw [setDebt_eq_ok hb₁, hDeq]
  have hD0 : 0 ≤ b.decayedDebt env.now := by
    have := (decayAmount_eq_ok hdecay hd).2
    omega
  unfold depositCheck
  by_cases hmax : b₁.debt.outstandingDebt > b₁.terms.maxDebt
  · rw [if_pos hmax] at h
    rw [← h]
    exact Result.wrap_first (by rw [hd₁, ht₁] at hmax; exact hmax)
  rw [if_neg hmax] at h
  rw [if_neg (by rw [hd₁, ht₁] at hmax; exact hmax)]
  obtain ⟨ratio, hratio, h⟩ := Result.Classed.bind h hr (debtRatio_unclassed (ht₁ ▸ hv))
  obtain ⟨raw, hraw, h⟩ := Result.Classed.bind h hr (Dec.checked_unclassed _)
  have hcur : b₁.currentDebt env = .ok (b.decayedDebt env.now) := by
    have h₁ : b₁.currentDebt env = .ok b₁.debt.outstandingDebt :=
      currentDebt_of_decayed (ht₁ ▸ hv) (by rw [hd₁]; exact hD0) (by rw [hd₁, ← hDeq]; exact hfD)
        (by rw [hd₁])
    rwa [hd₁] at h₁
  have hratio' := debtRatio_eq hcur hD0 hratio
  -- the floor relief may clear the minimum price; it changes neither the price paid nor what the
  -- later checks read
  generalize hrel : (if raw < b₁.terms.minimumPrice then (b₁, b₁.terms.minimumPrice)
      else if (b.config.floorRelief && !b₁.terms.minimumPrice.isZero) = true then
        ({ b₁ with terms := { b₁.terms with minimumPrice := Dec.zero } }, raw)
      else (b₁, raw)) = bp at h
  obtain ⟨hprice, hcfg, hcap, hdebt⟩ : bp.2 = b.depositPrice env (payoutSupply s l) ∧
      bp.1.config = b.config ∧ bp.1.terms.maxPayout = b.terms.maxPayout ∧ bp.1.debt = b₁.debt := by
    have hc₁ : b₁.config = b.config := by rw [setDebt_eq_ok hb₁]
    rw [Dec.mul_eq hraw, hratio', ht₁] at hrel
    subst hrel
    simp only [depositPrice, Terms.priceAt]
    split_ifs <;> simp [ht₁, hc₁]
  clear hrel
  by_cases hslip : maxPrice < bp.2
  · rw [if_pos hslip] at h
    rw [← h]
    exact Result.wrap_first (hprice ▸ hslip)
  rw [if_neg hslip] at h
  rw [if_neg (hprice ▸ hslip)]
  -- the price paid, straight or through the oracle; the rest is the same either way
  by_cases hu : b.config.usd.isEmpty = true
  on_goal 1 =>
    rw [if_pos hu] at h
    have hoc : b.config.oracleCheck o env = none := by simp [BondConfig.oracleCheck, hu]
    obtain ⟨pricePaid, -, h⟩ := Result.Classed.bind h hr (Result.unclassed_pure _)
  on_goal 2 =>
    have hap : bp.1.assetPrice o env = b.assetPrice o env := by
      unfold assetPrice
      rw [hcfg]
    rw [if_neg hu, hap] at h
    cases hq : b.assetPrice o env
    case error f =>
      rw [hq, Result.error_bind] at h
      obtain ⟨c, hc⟩ := Option.isSome_iff_exists.mp (hr f h.symm)
      have hoc := assetPrice_failure hu (by rw [hq]; rintro e ⟨⟩; rw [hc]; rfl)
      rw [hq] at hoc
      change f.sentinel? = _ at hoc
      rw [← h]
      refine ⟨?_, by rintro _ _ ⟨⟩⟩
      change f.sentinel? = _
      rw [← hoc, hc]
    rename_i x
    rw [hq, Result.ok_bind] at h
    have hoc : b.config.oracleCheck o env = none := by
      rw [← assetPrice_failure hu (by rw [hq]; rintro e ⟨⟩), hq]
      rfl
    obtain ⟨pricePaid, -, h⟩ := Result.Classed.bind h hr (Dec.checked_unclassed _)
  all_goals
    rw [hoc]
    by_cases hpos : bp.2.units ≤ 0
    · rw [payoutAt_of_nonpos hpos, Result.error_bind] at h
      rw [← h]
      exact Result.wrap_first (hprice ▸ hpos)
    rw [if_neg (hprice ▸ hpos)]
    obtain ⟨payout, hpay, h⟩ := Result.Classed.bind h hr (payoutAt_unclassed (by omega))
    have hpayout : payout = b.depositPayout env (payoutSupply s l) amount := by
      rw [payoutAt_eq ha.le (by omega) hpay, hprice]
      rfl
    by_cases hsmall : payout < b.config.minPayout
    · rw [if_pos hsmall] at h
      rw [← h]
      exact Result.wrap_first (hpayout ▸ hsmall)
    rw [if_neg hsmall] at h
    rw [if_neg (hpayout ▸ hsmall)]
    obtain ⟨cap, hcap', h⟩ := Result.Classed.bind h hr maxPayout_unclassed
    have hcapeq : cap = b.terms.payoutCap (payoutSupply s l) := by
      simp only [maxPayout_eq hs (hcap ▸ hmx) hcap', Terms.payoutCap, hcap]
    by_cases hlarge : payout > cap
    · rw [if_pos hlarge] at h
      rw [← h]
      exact Result.wrap_first (hpayout ▸ hcapeq ▸ hlarge)
    rw [if_neg hlarge] at h
    rw [if_neg (hpayout ▸ hcapeq ▸ hlarge)]
    obtain ⟨d', hd', h⟩ := Result.Classed.bind h hr (Int256.checked_unclassed _)
    obtain ⟨b₂, hb₂, h⟩ := Result.Classed.bind h hr (setDebt_unclassed _)
    obtain ⟨x, -, h⟩ := Result.Classed.bind h hr (Int256.checked_unclassed _)
    obtain ⟨b₃, hb₃, h⟩ := Result.Classed.bind h hr (setPosition_unclassed _ _)
    obtain ⟨b₄, hb₄, h⟩ := Result.Classed.bind h hr stepAdjustment_unclassed
    rw [← h]
    refine ⟨rfl, ?_⟩
    rintro b' resp ⟨⟩
    -- the debt is stored once, as the decayed debt plus the payout, and kept by the later steps
    have hdebt' : b₄.debt = b₂.debt := by
      rw [(stepAdjustment_debt hb₄).1, setPosition_eq_ok hb₃]
    rw [hdebt', setDebt_eq_ok hb₂, ← hpayout, ← (Int256.checked_eq_ok.mp hd').2, hdebt, hd₁]
    exact ⟨rfl, rfl⟩

/-- A deposit that succeeds puts the payout it mints on top of the depositor's position and
restarts the position's vesting. -/
theorem deposit_position {b' : Bond} {sender depositor treasury : String} {funds coins : Coins}
    {maxPrice : Option Dec} {resp : Response} {payout : Int}
    (h : b.deposit o s l env sender funds maxPrice depositor = .ok (b', resp))
    (heff : resp.effects =
      [.send bondAccount treasury coins, .execute [] (.mint bondAccount (some payout))]) :
    ∃ p, b'.positions.get? (if depositor.isEmpty then sender else depositor) = some p ∧
      p.payout = (b.positions.getD (if depositor.isEmpty then sender else depositor)
        ⟨0, Dec.zero, 0, default⟩).payout + payout ∧
      p.vestingTimeLeft = b.terms.vestingTerm ∧ p.lastTime = env.now := by
  obtain ⟨amount, payout', dep, p, -, hpp, hps, hdp, hvt, hlt, -, heff'⟩ := deposit_eq_ok h
  -- the payout the position records is the one the mint asks for
  rw [heff] at heff'
  simp only [List.cons.injEq, Effect.execute.injEq, ExecuteMsg.mint.injEq, Option.some.injEq,
    true_and, and_true] at heff'
  obtain ⟨-, rfl⟩ := heff'
  subst hdp
  exact ⟨p, by rw [hps]; exact KeyMap.get?_insert_self _ _ _, hpp, hvt, hlt⟩

end Bond

/-- The bond account and the deployment's admin and treasury are valid addresses. Reading bech32
text is costly to evaluate, so the three are read once here. -/
theorem deploymentAddresses_valid :
    Address.fault? "cosmos17gw75axcnr8747pkanye45pnrwk7p9c3782r9n" = none ∧
    Address.fault? Chain.deploymentAdmin = none ∧ Address.fault? Chain.deploymentTreasury = none := by
  decide +kernel

theorem bondAccount_valid : Address.fault? bondAccount = none := by
  rw [moduleAccounts_text.1]
  exact deploymentAddresses_valid.1

namespace World

/-- The one positive coin of a call to the bond moves from the sender to the bond account before
the handler runs. -/
theorem takeFunds_one {w : World} {sender d : String} {amount : Int} (ha : 0 < amount) :
    w.takeFunds sender .bond [Coin.of d amount] =
      (w.ledger.send sender bondAccount [Coin.of d amount] >>= fun l =>
        pure { w with ledger := l }) := by
  simp [takeFunds, Coins.isZero, Coin.of, ha.ne', ContractName.account]

/-- A mint of a positive payout that the bond account asks for fails with a class only when
staking does not let it mint; otherwise it mints the payout to the bond account and changes
nothing else. -/
theorem mint_failure {w : World} {env : Env} {n : Nat} {p : Int}
    (hs : w.staking.config.toInput.validate = .ok w.staking.config) (hp : 0 < p)
    {r : Result (World × List Event)}
    (h : w.execute (n + 1) env bondAccount [] (.mint bondAccount (some p)) = r) (hr : r.Classed) :
    r.failure = (if w.staking.config.isMinter bondAccount then none else some .unauthorized) ∧
    ∀ w' evs, r = .ok (w', evs) → ∃ l,
      w.ledger.mint (Coin.of w.staking.config.baseDenom p) bondAccount = .ok l ∧
      w' = { w with ledger := l } := by
  rw [execute_succ, bondAccount_valid] at h
  simp only [Coins.validate, takeFunds_nil, Result.ok_bind, pure_bind, dispatch,
    ExecuteMsg.contract] at h
  unfold Staking.mint at h
  cases hm : w.staking.config.isMinter bondAccount
  · simp only [hm, Bool.not_false, if_true] at h
    rw [← h]
    exact ⟨rfl, by rintro _ _ ⟨⟩⟩
  · simp only [hm, Bool.not_true, Bool.false_eq_true, if_false, hp, if_true, bondAccount_valid,
      pure_bind, List.foldlM_cons, List.foldlM_nil, applyEffect, ownsDenom, Staking.ownsDenom,
      Coin.of, beq_self_eq_true, Bool.true_or, Bool.not_true] at h
    have hd : Denom.fault? w.staking.config.baseDenom = none :=
      (StakingConfigInput.validate_eq_ok_iff.mp hs).1
    -- the one effect mints the payout; a mint of a valid coin fails with no class
    obtain ⟨a, ha, h⟩ := Result.Classed.bind h hr
      ((Ledger.mint_unclassed hd hp.le).bind fun _ => Result.unclassed_pure _).context
    rw [Result.context_eq_ok, Result.bind_eq_ok] at ha
    obtain ⟨l, hl, ha⟩ := ha
    rw [← h, ← Result.pure_eq_ok.mp ha]
    exact ⟨rfl, fun w' evs he => ⟨l, hl, by cases he; rfl⟩⟩

theorem applyEffect_send_unclassed
    {call : World → String → Coins → ExecuteMsg → Result (World × List Event)}
    {c : ContractName} {w : World} {acc : List Event} {src dst : String} {coins : Coins}
    (ho : ownsAccount c src = true) (hs : (w.ledger.send src dst coins).Unclassed) :
    (applyEffect call c (w, acc) (.send src dst coins)).Unclassed := by
  unfold applyEffect
  simp only [ho, Bool.not_true, Bool.false_eq_true, if_false]
  exact (hs.bind fun _ => Result.unclassed_pure _).context

/-- The two effects of a deposit: the principal goes on to the treasury, which cannot fall short
once the bond account holds it, and the payout is minted, which fails with a class only when
staking does not let the bond account mint. -/
theorem deposit_effects {w : World} {env : Env} {n : Nat} {evs : List Event}
    {principal treasury : String} {amount p : Int}
    (hs : w.staking.config.toInput.validate = .ok w.staking.config)
    (hd : Denom.fault? principal = none) (ha : 0 < amount) (hp : 0 < p)
    (hbal : amount ≤ w.ledger.balance bondAccount principal) {r : Result (World × List Event)}
    (h : [Effect.send bondAccount treasury [Coin.of principal amount],
        .execute [] (.mint bondAccount (some p))].foldlM
          (applyEffect (fun w s f m => execute (n + 1) w env s f m) .bond) (w, evs) = r)
    (hr : r.Classed) :
    r.failure = (if w.staking.config.isMinter bondAccount then none else some .unauthorized) ∧
    ∀ w' evs', r = .ok (w', evs') → ∃ l₁ l₂,
      w.ledger.send bondAccount treasury [Coin.of principal amount] = .ok l₁ ∧
      l₁.mint (Coin.of w.staking.config.baseDenom p) bondAccount = .ok l₂ ∧
      w' = { w with ledger := l₂ } := by
  simp only [List.foldlM_cons, List.foldlM_nil, bind_pure] at h
  have ho : ownsAccount .bond bondAccount = true := by simp [ownsAccount, ContractName.account]
  obtain ⟨⟨w₁, evs₁⟩, hsend, h⟩ := Result.Classed.bind h hr
    (applyEffect_send_unclassed ho (Ledger.send_one_unclassed hd ha hbal))
  obtain ⟨-, l₁, hl₁, he⟩ := applyEffect_send_eq_ok.mp hsend
  cases he
  -- the emitted call runs one level down, as the bond account
  generalize hc : execute (n + 1) { w with ledger := l₁ } env bondAccount []
    (.mint bondAccount (some p)) = rc
  have hr' : Result.context ("execute emitted by " ++ ContractName.bond.name)
      (rc >>= fun x => pure (x.1, evs ++ x.2)) = r := by
    rw [← hc, ← h]
    rfl
  rw [← hr'] at hr
  obtain ⟨hfail, hok⟩ :=
    mint_failure (w := { w with ledger := l₁ }) hs hp hc hr.of_context.of_bind_pure
  refine ⟨by rw [← hr', Result.failure_context, Result.failure_bind_pure, hfail], ?_⟩
  intro w' evs' he
  rw [← hr', Result.context_eq_ok, Result.bind_eq_ok] at he
  obtain ⟨⟨w₂, more⟩, hw₂, he⟩ := he
  obtain ⟨l₂, hl₂, rfl⟩ := hok w₂ more hw₂
  cases Result.pure_eq_ok.mp he
  exact ⟨l₁, l₂, hl₁, hl₂, rfl⟩

def depositPayout (w : World) (env : Env) (amount : Int) : Int :=
  w.bond.depositPayout env (Bond.payoutSupply w.staking w.ledger) amount

/-- The class of the first check a deposit call of `amount` of the principal fails: the host's
checks of the sender's address and balance, then the handler's, and last whether staking lets the
bond account mint the payout; none when the call passes them all. -/
def depositCheck (w : World) (env : Env) (sender : String) (amount : Int) (maxPrice : Dec) :
    Option Sentinel :=
  if (Address.fault? sender).isSome then some .invalidInput
  else if w.ledger.balance sender w.bond.config.principal < amount then some .insufficientBalance
  else
    match w.bond.depositCheck w.oracle env (Bond.payoutSupply w.staking w.ledger) amount
      maxPrice with
    | some c => some c
    | none => if w.staking.config.isMinter bondAccount then none else some .unauthorized

/-- A deposit call of one positive coin of the principal, for a valid depositor and with a max
price, in a configured world whose ledger is conserved, that fails only with an error class (no
overflow, every time storable): it fails with the class of the first check it fails, in the order
of `depositCheck`, and succeeds exactly when it fails none. On success the debt is the decayed debt
plus the payout, the depositor's position holds the payout on top of what it held and restarts its
vesting, the principal has moved from the sender to the treasury, the payout is minted to the bond
account, and staking and the oracle are unchanged. -/
theorem deposit_checks_in_order {w : World} {env : Env} {n : Nat} {sender depositor : String}
    {amount : Int} {maxPrice : Dec} {R : Result (World × List Event)}
    (hw : w.Configured) (hl : w.ledger.Conserved) (hd : 0 ≤ w.bond.debt.outstandingDebt)
    (ha : 0 < amount)
    (hdep : Address.fault? (if depositor.isEmpty then sender else depositor) = none)
    (hR : w.execute (n + 2) env sender [Coin.of w.bond.config.principal amount]
      (.deposit (some maxPrice) depositor) = R)
    (hsafe : R.Classed) :
    R.failure = w.depositCheck env sender amount maxPrice ∧
    ((∃ v, R = .ok v) ↔ w.depositCheck env sender amount maxPrice = none) ∧
    ∀ w' evs, R = .ok (w', evs) →
      w'.bond.debt.outstandingDebt = w.bond.decayedDebt env.now + w.depositPayout env amount ∧
      (∃ p, w'.bond.positions.get? (if depositor.isEmpty then sender else depositor) = some p ∧
        p.payout = (w.bond.positions.getD (if depositor.isEmpty then sender else depositor)
          ⟨0, Dec.zero, 0, default⟩).payout + w.depositPayout env amount ∧
        p.vestingTimeLeft = w.bond.terms.vestingTerm ∧ p.lastTime = env.now) ∧
      (∀ a d, w'.ledger.balance a d +
          (if a = sender ∧ d = w.bond.config.principal then amount else 0) =
        w.ledger.balance a d +
          (if a = w.bond.config.treasury ∧ d = w.bond.config.principal then amount else 0) +
          (if a = bondAccount ∧ d = w.staking.config.baseDenom then w.depositPayout env amount
            else 0)) ∧
      (∀ d, w'.ledger.supplyOf d =
        w.ledger.supplyOf d +
          if d = w.staking.config.baseDenom then w.depositPayout env amount else 0) ∧
      w'.staking = w.staking ∧ w'.oracle = w.oracle := by
  obtain ⟨hb, hs, -⟩ := hw
  obtain ⟨hp, -, -, -, m, hm, hm0, -⟩ := BondConfigInput.validate_eq_ok_iff.mp hb.config
  cases hm
  replace hp : Denom.fault? w.bond.config.principal = none := hp
  have hsup : 0 ≤ Bond.payoutSupply w.staking w.ledger := Ledger.supplyOf_nonneg hl.supply _
  -- success is failing with none, so the iff follows from the failure
  suffices key : R.failure = w.depositCheck env sender amount maxPrice ∧ _ from
    ⟨key.1, (Result.ok_iff_failure hsafe).trans (by rw [key.1]), key.2⟩
  rw [execute_succ] at hR
  unfold depositCheck
  cases hf : Address.fault? sender with
  | some f =>
    simp only [hf] at hR
    rw [← hR]
    exact ⟨rfl, by rintro _ _ ⟨⟩⟩
  | none =>
  simp only [hf, Coins.validate_one hp ha, Result.ok_bind, ExecuteMsg.contract] at hR
  rw [if_neg (by simp)]
  -- then it moves the funds from the sender to the bond account, which fails with a class only
  -- for a shortfall
  rw [takeFunds_one ha] at hR
  cases hsend : w.ledger.send sender bondAccount [Coin.of w.bond.config.principal amount] with
  | error f =>
    rw [hsend, Result.error_bind, Result.error_bind] at hR
    obtain ⟨hlt, hc⟩ := Ledger.send_one_error hp ha hsend (hsafe f hR.symm)
    rw [← hR, if_pos hlt]
    exact ⟨hc, by rintro _ _ ⟨⟩⟩
  | ok l₁ =>
  rw [if_neg (not_lt.mpr (Ledger.le_balance_of_send_one hp ha hsend))]
  rw [hsend, Result.ok_bind, pure_bind] at hR
  simp only [dispatch, bind_assoc, pure_bind] at hR
  -- the handler sees the same payout supply: moving coins keeps every supply
  have hsup₁ : Bond.payoutSupply w.staking l₁ = Bond.payoutSupply w.staking w.ledger := by
    simp only [Bond.payoutSupply, Ledger.supplyOf, Ledger.supply_send hsend]
  generalize hh : w.bond.deposit w.oracle w.staking l₁ env sender
    [Coin.of w.bond.config.principal amount] (some maxPrice) depositor = rh at hR
  have hrh : rh.Classed := by
    rintro f rfl
    exact hsafe f hR.symm
  obtain ⟨hfail, hok⟩ := Bond.deposit_failure hb hd (hsup₁ ▸ hsup) ha hdep hh hrh
  rw [hsup₁] at hfail hok
  cases rh with
  | error f =>
    rw [Result.error_bind] at hR
    rw [← hR]
    refine ⟨?_, by rintro _ _ ⟨⟩⟩
    obtain ⟨c, hc⟩ := Option.isSome_iff_exists.mp (hrh f rfl)
    change f.sentinel? = _ at hfail
    change f.sentinel? = _
    rw [← hfail, hc]
  | ok v =>
  obtain ⟨b', resp⟩ := v
  rw [Result.ok_bind] at hR
  obtain ⟨hdebt, heff⟩ := hok b' resp rfl
  rw [← hfail]
  have hpay : 0 < w.depositPayout env amount :=
    lt_of_lt_of_le hm0 (Bond.minPayout_le_of_depositCheck hfail.symm)
  -- the bond account holds the amount it passes on to the treasury
  have hheld := Ledger.le_balance_send_one hp ha hl.balances hsend
  rw [heff] at hR
  obtain ⟨hfx, hokx⟩ :=
    deposit_effects (w := { w with ledger := l₁, bond := b' }) hs hp ha hpay hheld hR hsafe
  refine ⟨hfx, ?_⟩
  intro w' evs' hw'
  obtain ⟨l₂, l₃, hl₂, hl₃, rfl⟩ := hokx w' evs' hw'
  obtain ⟨hbal', hsup'⟩ := Ledger.deposit_moves hsend hl₂ hl₃
  exact ⟨hdebt, Bond.deposit_position hh heff, hbal', hsup', rfl, rfl⟩

end World

open Chain

theorem Chain.deploymentAdmin_valid : Address.fault? deploymentAdmin = none :=
  deploymentAddresses_valid.2.1

theorem Chain.deploymentTreasury_valid : Address.fault? deploymentTreasury = none :=
  deploymentAddresses_valid.2.2

/-- A bond selling the staking token for uusdc at a price of at least one, with room for a debt
of 1000. -/
def plainBond : Bond where
  config := ⟨"", "uusdc", deploymentAdmin, deploymentAdmin, 0, false, 1⟩
  terms := ⟨Dec.one, Dec.one, Dec.one, 1000, 100⟩

def fundedLedger (usdc : Int) : Ledger :=
  match ({} : Ledger).mint (Coin.of "ubond" 1000) deploymentTreasury >>= fun l =>
      l.mint (Coin.of "uusdc" usdc) deploymentTreasury with
  | .ok l => l
  | .error _ => {}

theorem fundedLedger_conserved (usdc : Int) : (fundedLedger usdc).Conserved := by
  unfold fundedLedger
  split
  · rename_i l h
    obtain ⟨l₁, h₁, h₂⟩ := Result.bind_eq_ok.mp h
    exact (Ledger.conserved_empty.mint h₁).mint h₂
  · exact Ledger.conserved_empty

theorem plainBond_configured : plainBond.Configured where
  config := BondConfigInput.validate_eq_ok_iff.mpr ⟨by decide, fun h => (h rfl).elim,
    deploymentAdmin_valid, deploymentAdmin_valid, 1, rfl, by decide, rfl⟩
  terms := by decide
  rate := le_rfl
  target := le_rfl

def minterStaking : StakingConfig :=
  ⟨deploymentAdmin, "ubond", "usbond", 100, Dec.zero, none, 0, [bondAccount], false⟩

theorem minterStaking_valid : minterStaking.toInput.validate = .ok minterStaking := by
  refine StakingConfigInput.validate_eq_ok_iff.mpr ⟨by decide, by decide, by decide,
    deploymentAdmin_valid, by decide, by rintro _ ⟨⟩, ?_, Dec.zero, rfl, le_rfl, rfl⟩
  intro m hm
  rw [List.mem_singleton.mp hm]
  exact bondAccount_valid

def fundedWorld (usdc : Int) : World where
  ledger := fundedLedger usdc
  staking := { config := minterStaking }
  bond := plainBond

theorem fundedWorld_configured (usdc : Int) : (fundedWorld usdc).Configured := by
  refine ⟨plainBond_configured, minterStaking_valid, ?_⟩
  intro d e h
  cases h

def fundedDeposit (usdc : Int) : Result (World × List Event) :=
  (fundedWorld usdc).execute (maxCallDepth + 1) ⟨⟨0, 0, 0⟩, 1⟩ deploymentTreasury
    [Coin.of "uusdc" 10] (.deposit (some (Dec.ofInt 2)) "")

/-- The two funded deposits, evaluated together: with 10 uusdc the deposit goes through; with 5
every check of the handler passes and the bond account may mint, yet it fails for the balance. -/
theorem fundedDeposit_outcomes :
    ((fundedDeposit 10).map fun _ => ()) = .ok () ∧
    (fundedWorld 5).bond.depositCheck (fundedWorld 5).oracle ⟨⟨0, 0, 0⟩, 1⟩
      (Bond.payoutSupply (fundedWorld 5).staking (fundedWorld 5).ledger) 10 (Dec.ofInt 2) = none ∧
    (fundedWorld 5).staking.config.isMinter bondAccount = true ∧
    (fundedDeposit 5).failure = some .insufficientBalance := by
  decide +kernel

namespace World

theorem deposit_checks_in_order_funded :
    (fundedWorld 10).Configured ∧ (fundedWorld 10).ledger.Conserved ∧
    0 ≤ (fundedWorld 10).bond.debt.outstandingDebt ∧ (0 : Int) < 10 ∧
    Address.fault? (if "".isEmpty then deploymentTreasury else "") = none ∧
    (fundedDeposit 10).Classed ∧
    (fundedDeposit 10).failure =
      (fundedWorld 10).depositCheck ⟨⟨0, 0, 0⟩, 1⟩ deploymentTreasury 10 (Dec.ofInt 2) ∧
    ((∃ v, fundedDeposit 10 = .ok v) ↔
      (fundedWorld 10).depositCheck ⟨⟨0, 0, 0⟩, 1⟩ deploymentTreasury 10 (Dec.ofInt 2) = none) :=
  have hdep : Address.fault? (if "".isEmpty then deploymentTreasury else "") = none :=
    deploymentTreasury_valid
  have hsafe : (fundedDeposit 10).Classed := Result.classed_of_ok fundedDeposit_outcomes.1
  have h := deposit_checks_in_order (n := maxCallDepth - 1) (fundedWorld_configured 10)
    (fundedLedger_conserved 10) le_rfl (by decide) hdep rfl hsafe
  ⟨fundedWorld_configured 10, fundedLedger_conserved 10, le_rfl, by decide, hdep, hsafe, h.1,
    h.2.1⟩

/-- A sender short of the amount: every check of the handler passes and the bond account may
mint, yet the call fails, since the funds move before the handler runs. -/
theorem deposit_rejects_unfunded_sender :
    (fundedWorld 5).bond.depositCheck (fundedWorld 5).oracle ⟨⟨0, 0, 0⟩, 1⟩
      (Bond.payoutSupply (fundedWorld 5).staking (fundedWorld 5).ledger) 10 (Dec.ofInt 2) = none ∧
    (fundedWorld 5).staking.config.isMinter bondAccount = true ∧
    (fundedDeposit 5).failure = some .insufficientBalance :=
  fundedDeposit_outcomes.2

end World

end Bonding

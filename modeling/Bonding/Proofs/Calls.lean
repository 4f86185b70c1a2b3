import Mathlib
import Bonding.Proofs.Conservation
import Bonding.Proofs.Authority
import Bonding.Proofs.Bond
set_option autoImplicit false

/-!
The shape of a call, for what the invariants of the contracts need. The accounts of bond, the
staking pool and its escrow are three different addresses. Taking the funds of a call moves each
denomination's amount from the sender to the called contract. A call of the staking mint does
nothing but mint base tokens, and the messages that only change settings emit no effect and leave
the ledger, the positions, the warmups and the debt as they were. A property that holds of the
empty chain and that every committed call keeps holds of every reachable chain.
-/

namespace Bonding

/-- The texts of the module accounts. Each is a hash of the module's name, costly to evaluate, so
it is evaluated once here and the facts about the accounts compare the texts. -/
theorem moduleAccounts_text :
    bondAccount = "cosmos17gw75axcnr8747pkanye45pnrwk7p9c3782r9n" ∧
    stakingAccount = "cosmos1mx5e3jkxvzf8frl7cl8m69264ctn0shlffdyx5" ∧
    warmupAccount = "cosmos1pzlxnhlqdjdffsahnxy6ktjwd5u9c5y3t7n0pu" ∧
    oracleAccount = "cosmos1jgp27m8fykex4e4jtt0l7ze8q528ux2l33chdf" := by
  decide +kernel

theorem bondAccount_ne_stakingAccount : bondAccount ≠ stakingAccount := by
  obtain ⟨hb, hs, -, -⟩ := moduleAccounts_text
  rw [hb, hs]
  decide

theorem bondAccount_ne_warmupAccount : bondAccount ≠ warmupAccount := by
  obtain ⟨hb, -, hw, -⟩ := moduleAccounts_text
  rw [hb, hw]
  decide

theorem stakingAccount_ne_warmupAccount : stakingAccount ≠ warmupAccount := by
  obtain ⟨-, hs, hw, -⟩ := moduleAccounts_text
  rw [hs, hw]
  decide

theorem warmupAccount_ne_oracleAccount : warmupAccount ≠ oracleAccount := by
  obtain ⟨-, -, hw, ho⟩ := moduleAccounts_text
  rw [hw, ho]
  decide

theorem warmupAccount_ne_account (c : ContractName) : warmupAccount ≠ c.account := by
  cases c
  · exact bondAccount_ne_warmupAccount.symm
  · exact stakingAccount_ne_warmupAccount.symm
  · exact warmupAccount_ne_oracleAccount

theorem Coins.amountOf_single (d d' : String) (x : Int) :
    Coins.amountOf [Coin.of d x] d' = if d = d' then x else 0 := by
  simp [Coins.amountOf, Coin.of]

theorem Coins.amountOf_of_isZero {cs : Coins} (h : cs.isZero = true) (d : String) :
    cs.amountOf d = 0 := by
  induction cs with
  | nil => rfl
  | cons c cs ih =>
    simp only [Coins.isZero, List.all_cons, Bool.and_eq_true, beq_iff_eq] at h
    rw [Coins.amountOf_cons, ih h.2, h.1]
    simp

namespace Ledger

variable {l l' : Ledger}

theorem balance_le_send {src dst a : String} {cs : Coins} (h : l.send src dst cs = .ok l')
    (ha : a ≠ src) (d : String) : l.balance a d ≤ l'.balance a d := by
  have hb := balance_send h a d
  have hn := amountOf_nonneg_of_send h d
  rw [if_neg ha] at hb
  split at hb <;> omega

theorem balance_le_mint {c : Coin} {r : String} (h : l.mint c r = .ok l') (a d : String) :
    l.balance a d ≤ l'.balance a d := by
  obtain ⟨x, hx, -⟩ := mint_eq_ok h
  obtain ⟨hc, hx0⟩ := checkCoin_eq_ok hx
  rw [balance_mint h, hc, Option.getD_some]
  split <;> omega

theorem balance_burn_of_ne {c : Coin} {holder a : String} (h : l.burn c holder = .ok l')
    (ha : a ≠ holder) (d : String) : l'.balance a d = l.balance a d := by
  have hb := balance_burn h a d
  simp only [Prod.mk.injEq, Ne.symm ha, false_and, if_false, add_zero] at hb
  exact hb

end Ledger

theorem oneCoin_eq_ok {funds : Coins} {d : String} {a : Int} (h : oneCoin funds d = .ok a) :
    funds = [Coin.of d a] ∧ 0 < a := by
  unfold oneCoin at h
  split at h
  · rename_i c
    split at h
    · cases h
    rename_i hd
    simp only [bne_iff_ne, ne_eq, Decidable.not_not] at hd
    split at h
    · rename_i x hx
      split at h
      · cases h
        obtain ⟨denom, amount⟩ := c
        simp only at hd hx
        subst hd hx
        exact ⟨rfl, by omega⟩
      · cases h
    · cases h
  · cases h

/-- An effect that takes nothing from the account `a`: a mint, or a send or a burn from another
account. -/
def Effect.Spares (a : String) : Effect → Prop
  | .send src _ _ => src ≠ a
  | .mint _ _ => True
  | .burn holder _ => holder ≠ a
  | .execute _ _ => False

namespace World

variable {w w₁ w' : World} {env : Env} {s : String} {funds : Coins} {n : Nat}
  {evs : List Event} {ms : List Move}

/-- Taking the funds of a call moves the amount of every denomination from the sender to the
called contract, and the amounts moved are not negative. -/
theorem takeFunds_balance {c : ContractName} (h : w.takeFunds s c funds = .ok w₁) (a d : String) :
    w₁.ledger.balance a d + (if a = s then funds.amountOf d else 0) =
      w.ledger.balance a d + (if a = c.account then funds.amountOf d else 0) ∧
    0 ≤ funds.amountOf d := by
  unfold takeFunds at h
  by_cases hz : funds.isZero = true
  · simp only [hz, if_true, Result.pure_eq_ok] at h
    subst h
    simp [Coins.amountOf_of_isZero hz]
  · simp only [hz, Bool.false_eq_true, if_false, Result.bind_eq_ok, Result.pure_eq_ok] at h
    obtain ⟨l, hl, rfl⟩ := h
    exact ⟨Ledger.balance_send hl a d, Ledger.amountOf_nonneg_of_send hl d⟩

theorem takeFunds_supply {c : ContractName} (h : w.takeFunds s c funds = .ok w₁) :
    w₁.ledger.supply = w.ledger.supply := by
  unfold takeFunds at h
  by_cases hz : funds.isZero = true
  · simp only [hz, if_true, Result.pure_eq_ok] at h
    rw [h]
  · simp only [hz, Bool.false_eq_true, if_false, Result.bind_eq_ok, Result.pure_eq_ok] at h
    obtain ⟨l, hl, rfl⟩ := h
    exact Ledger.supply_send hl

theorem takeFunds_nil (s : String) (c : ContractName) : w.takeFunds s c [] = .ok w := rfl

/-- Effects that spare an account change only the ledger, and never lower that account's
balance. -/
theorem EffectsRun.spares
    {R : World → String → Coins → ExecuteMsg → World → List Event → List Move → Prop}
    {c : ContractName} {es : List Effect} {a : String} (h : EffectsRun R c w es w' evs ms)
    (hs : ∀ e ∈ es, e.Spares a) :
    w' = { w with ledger := w'.ledger } ∧ ∀ d, w.ledger.balance a d ≤ w'.ledger.balance a d := by
  induction h with
  | nil w => exact ⟨rfl, fun _ => le_rfl⟩
  | @send w w' src dst coins rest l evs ms _ hl _ ih =>
    obtain ⟨hw, hb⟩ := ih fun e he => hs e (List.mem_cons_of_mem _ he)
    have hsrc : src ≠ a := hs _ List.mem_cons_self
    exact ⟨hw, fun d => (Ledger.balance_le_send hl (Ne.symm hsrc) d).trans (hb d)⟩
  | mint _ hl _ ih =>
    obtain ⟨hw, hb⟩ := ih fun e he => hs e (List.mem_cons_of_mem _ he)
    exact ⟨hw, fun d => (Ledger.balance_le_mint hl _ d).trans (hb d)⟩
  | @burn w w' holder coin rest l evs ms _ _ hl _ ih =>
    obtain ⟨hw, hb⟩ := ih fun e he => hs e (List.mem_cons_of_mem _ he)
    have hh : holder ≠ a := hs _ List.mem_cons_self
    exact ⟨hw, fun d => (Ledger.balance_burn_of_ne hl (Ne.symm hh) d).ge.trans (hb d)⟩
  | execute _ _ _ => exact (hs _ List.mem_cons_self).elim

theorem EffectsRun.mono
    {R R' : World → String → Coins → ExecuteMsg → World → List Event → List Move → Prop}
    (hR : ∀ {w s f m w' evs ms}, R w s f m w' evs ms → R' w s f m w' evs ms) {c : ContractName}
    {es : List Effect} (h : EffectsRun R c w es w' evs ms) : EffectsRun R' c w es w' evs ms := by
  induction h with
  | nil w => exact .nil w
  | send hown hl _ ih => exact .send hown hl ih
  | mint hown hl _ ih => exact .mint hown hl ih
  | burn hden hown hl _ ih => exact .burn hden hown hl ih
  | execute hc _ ih => exact .execute (hR hc) ih

/-- Induction over the depth of a run: a property that holds of a call whenever it holds of every
call its effects emit holds of every run. -/
theorem Runs.induction (P : World → String → Coins → ExecuteMsg → World → Prop)
    (step : ∀ {n : Nat} {w w₁ w₂ w' : World} {s : String} {funds : Coins} {msg : ExecuteMsg}
      {resp : Response} {evs : List Event} {ms : List Move},
      w.takeFunds s msg.contract funds = .ok w₁ → w₁.dispatch env s funds msg = .ok (w₂, resp) →
      EffectsRun (fun w s f m w' evs ms => w.Runs n env s f m w' evs ms ∧ P w s f m w')
        msg.contract w₂ resp.effects w' evs ms →
      P w s funds msg w') :
    ∀ {n : Nat} {w w' : World} {s : String} {funds : Coins} {msg : ExecuteMsg} {evs : List Event}
      {ms : List Move}, w.Runs n env s funds msg w' evs ms → P w s funds msg w' := by
  intro n
  induction n with
  | zero => exact fun h => h.elim
  | succ n ih =>
    intro w w' s funds msg evs ms h
    obtain ⟨-, -, w₁, w₂, resp, evs', ms', htf, hd, hrun, -, -⟩ := h
    exact step htf hd (hrun.mono fun hR => ⟨hR, ih hR⟩)

/-- A call of the staking mint moves its funds and then mints the amount of base tokens to the
recipient; nothing else changes. -/
theorem Runs.mint_inv {toAddr : String} {amount : Option Int}
    (h : w.Runs n env s funds (.mint toAddr amount) w' evs ms) :
    ∃ w₁ a, w.takeFunds s .staking funds = .ok w₁ ∧ amount = some a ∧ 0 < a ∧
      w₁.ledger.mint (Coin.of w₁.staking.config.baseDenom a) toAddr = .ok w'.ledger ∧
      w' = { w₁ with ledger := w'.ledger } := by
  cases n with
  | zero => exact h.elim
  | succ n =>
    obtain ⟨-, -, w₁, w₂, resp, evs', ms', htf, hd, hrun, -, -⟩ := h
    simp only [dispatch, Result.bind_eq_ok, Result.pure_eq_ok, Prod.mk.injEq] at hd
    obtain ⟨r, hr, rfl, rfl⟩ := hd
    obtain ⟨-, a, rfl, ha, he⟩ := Staking.mint_eq_ok hr
    rw [he] at hrun
    cases hrun with
    | mint _ hl hrest =>
      cases hrest
      exact ⟨w₁, a, htf, rfl, ha, hl, rfl⟩

end World

namespace Oracle

variable {o o' : Oracle} {r : Response}

theorem registerFeeder_eq_ok {sender denom feeder : String}
    (h : o.registerFeeder sender denom feeder = .ok (o', r)) :
    o' = { o with feeders := o.feeders.insert denom feeder } ∧ r.effects = [] := by
  unfold registerFeeder at h
  simp -zeta only [Result.throw_bind] at h
  dsimp only at h
  split at h
  · cases h
  split at h
  · cases h
  split at h
  · cases h
  simp only [Result.pure_eq_ok, Prod.mk.injEq] at h
  obtain ⟨rfl, rfl⟩ := h
  exact ⟨rfl, rfl⟩

theorem feedPrice_effects {env : Env} {sender : String} {prices : List PriceFeed}
    (h : o.feedPrice env sender prices = .ok (o', r)) : r.effects = [] := by
  unfold feedPrice at h
  split at h
  · cases h
  refine Result.foldlM_preserves (P := fun p : Oracle × Response => p.2.effects = []) ?_ h rfl
  rintro ⟨o₁, r₁⟩ p b' hstep hr
  simp -zeta only [Result.throw_bind] at hstep
  dsimp only at hstep
  rw [Result.ite_error_eq_ok] at hstep
  obtain ⟨o₂, -, he⟩ := Result.bind_eq_ok.mp hstep.2
  rw [Result.pure_eq_ok] at he
  exact he ▸ hr

end Oracle

/-- The messages that only change settings: the admin updates of bond and staking, jailing and
the oracle's. -/
def ExecuteMsg.isSetting : ExecuteMsg → Bool
  | .updateTerms .. | .updateBondConfig .. | .updateAdjustment .. | .updateStakingConfig ..
  | .jail .. | .registerFeeder .. | .feedPrice .. => true
  | _ => false

namespace World

variable {w w₂ : World} {env : Env} {s : String} {funds : Coins} {msg : ExecuteMsg} {resp : Response}

/-- A setting message emits nothing and leaves the ledger, the positions, the debt, the warmups
and the staking denominations alone. -/
theorem dispatch_setting (hs : msg.isSetting = true) (h : w.dispatch env s funds msg = .ok (w₂, resp)) :
    resp.effects = [] ∧ w₂.ledger = w.ledger ∧ w₂.bond.positions = w.bond.positions ∧
      w₂.bond.debt = w.bond.debt ∧ w₂.staking.warmups = w.staking.warmups ∧
      w₂.denoms = w.denoms := by
  have hl := dispatch_ledger h
  have hd := dispatch_denoms h
  cases msg <;> simp only [ExecuteMsg.isSetting, Bool.false_eq_true] at hs <;>
    simp only [dispatch, Result.bind_eq_ok, Result.pure_eq_ok, Prod.exists, Prod.mk.injEq] at h
  case updateTerms =>
    obtain ⟨b, r, hb, rfl, rfl⟩ := h
    obtain ⟨_, -, rfl, he⟩ := Bond.updateTerms_state hb
    exact ⟨he, rfl, rfl, rfl, rfl, hd⟩
  case updateBondConfig =>
    obtain ⟨b, r, hb, rfl, rfl⟩ := h
    obtain ⟨_, _, -, rfl, he⟩ := Bond.updateConfig_state hb
    exact ⟨he, rfl, rfl, rfl, rfl, hd⟩
  case updateAdjustment =>
    obtain ⟨b, r, hb, rfl, rfl⟩ := h
    obtain ⟨_, rfl, -, -, he⟩ := Bond.updateAdjustment_state hb
    exact ⟨he, rfl, rfl, rfl, rfl, hd⟩
  case updateStakingConfig =>
    obtain ⟨st, r, hst, rfl, rfl⟩ := h
    obtain ⟨_, rfl, -, -, he⟩ := Staking.updateConfig_eq_ok hst
    exact ⟨he, rfl, rfl, rfl, rfl, hd⟩
  case jail =>
    obtain ⟨st, r, hst, rfl, rfl⟩ := h
    obtain ⟨_, rfl, he⟩ := Staking.jail_eq_ok hst
    exact ⟨he, rfl, rfl, rfl, rfl, hd⟩
  case registerFeeder =>
    obtain ⟨o, r, ho, rfl, rfl⟩ := h
    exact ⟨(Oracle.registerFeeder_eq_ok ho).2, rfl, rfl, rfl, rfl, hd⟩
  case feedPrice =>
    obtain ⟨o, r, ho, rfl, rfl⟩ := h
    exact ⟨Oracle.feedPrice_effects ho, rfl, rfl, rfl, rfl, hd⟩

end World

namespace Chain

def Call.payer : Call → Option String
  | .instantiate .. => none
  | .execute _ sender _ _ => some sender
  | .transfer _ src _ _ => some src

/-- A call an outside account makes: it spends neither as bond, nor as the staking pool, nor as
its escrow. -/
def Call.External (call : Call) : Prop :=
  ∀ a, call.payer = some a → a ≠ bondAccount ∧ a ≠ stakingAccount ∧ a ≠ warmupAccount

/-- What one call does to a chain: nothing when it fails; otherwise a genesis applied to it, an
execution committed as a run on the instantiated chain, or a transfer committed on it. -/
theorem step_cases (c : Chain) (call : Call) :
    c.step call = c ∨
    (∃ now g, call = .instantiate now g ∧ c.instantiate now g = .ok (c.step call)) ∨
    (∃ now s funds msg w evs ms, call = .execute now s funds msg ∧ c.instantiated = true ∧
      c.world.Runs (maxCallDepth + 1) ⟨now, c.height + 1⟩ s funds msg w evs ms ∧
      c.step call = { c with height := c.height + 1, world := w }) ∨
    (∃ now src dst coins l, call = .transfer now src dst coins ∧ c.instantiated = true ∧
      c.world.ledger.send src dst coins = .ok l ∧
      c.step call = { c with height := c.height + 1, world := { c.world with ledger := l } }) := by
  cases call with
  | instantiate now g =>
    cases h : c.instantiate now g with
    | ok c' => exact .inr (.inl ⟨now, g, rfl, by simp only [step, h]⟩)
    | error f => exact .inl (by simp only [step, h])
  | execute now s funds msg =>
    cases h : c.execute now s funds msg with
    | ok r =>
      obtain ⟨c', evs⟩ := r
      obtain ⟨hi, w, ms, hrun, rfl⟩ := execute_eq_ok.mp h
      exact .inr (.inr (.inl ⟨now, s, funds, msg, w, evs, ms, rfl, hi, hrun, by simp only [step, h]⟩))
    | error f => exact .inl (by simp only [step, h])
  | transfer now src dst coins =>
    cases h : c.transfer now src dst coins with
    | ok r =>
      obtain ⟨c', evs⟩ := r
      obtain ⟨hi, l, hl, rfl⟩ := transfer_eq_ok h
      exact .inr (.inr (.inr ⟨now, src, dst, coins, l, rfl, hi, hl, by simp only [step, h]⟩))
    | error f => exact .inl (by simp only [step, h])

/-- Induction over the calls that reach a chain: a property of the empty chain that every
instantiation of the empty chain, and every execution and transfer committed on an instantiated
chain, keeps holds of every reachable chain. -/
theorem Reachable.induction {admits : Call → Prop} {P : Chain → Prop} (h0 : P {})
    (hinst : ∀ {c' : Chain} {now : Instant} {g : Genesis}, admits (.instantiate now g) →
      ({} : Chain).instantiate now g = .ok c' → P c')
    (hexec : ∀ {c : Chain} {now : Instant} {s : String} {funds : Coins} {msg : ExecuteMsg}
      {w : World} {evs : List Event} {ms : List Move}, admits (.execute now s funds msg) →
      c.Reachable admits → P c → c.instantiated = true →
      c.world.Runs (maxCallDepth + 1) ⟨now, c.height + 1⟩ s funds msg w evs ms →
      P { c with height := c.height + 1, world := w })
    (htrans : ∀ {c : Chain} {now : Instant} {src dst : String} {coins : Coins} {l : Ledger},
      admits (.transfer now src dst coins) → c.Reachable admits → P c → c.instantiated = true →
      c.world.ledger.send src dst coins = .ok l →
      P { c with height := c.height + 1, world := { c.world with ledger := l } })
    {c : Chain} (hc : c.Reachable admits) : P c := by
  induction hc with
  | empty => exact h0
  | step call ha hr ih =>
    rename_i c
    rcases step_cases c call with he | ⟨now, g, rfl, h⟩ |
        ⟨now, s, funds, msg, w, evs, ms, rfl, hi, hrun, he⟩ | ⟨now, src, dst, coins, l, rfl, hi, hl, he⟩
    · rw [he]
      exact ih
    · -- only the empty chain can be instantiated
      have he := hr.eq_empty (instantiate_eq_ok h).1
      subst he
      exact hinst ha h
    · rw [he]
      exact hexec ha hr ih hi hrun
    · rw [he]
      exact htrans ha hr ih hi hl

end Chain

end Bonding

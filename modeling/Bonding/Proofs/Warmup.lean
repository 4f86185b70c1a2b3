import Mathlib
import Bonding.Proofs.Quotes
set_option autoImplicit false

/-!
Staking through the warmup escrow. While staking has a warmup, a stake moves the attached base
tokens on from the pool into escrow and files them, with the staked tokens they are worth at the
stake's rate, in the recipient's warmup entry. A claim settles the entry: from the unlock time on it
mints the staked tokens and moves the principal back into the pool, before it the principal goes
back to the claimant. Main statement: for a recipient with no entry yet, a claim from the unlock
time on leaves every balance and supply as the same stake without the warmup would have, and an
early claim by the staker puts every balance and supply back. A second stake before the claim joins
the first in one entry, and the claim mints the tokens of both.
-/

namespace Bonding

namespace Ledger

variable {l l' l₁ : Ledger}

/-! ### Moving and minting one coin -/

theorem checkCoin_denom {c : Coin} {x : Int} (h : checkCoin c = .ok x) :
    Denom.fault? c.denom = none := by
  unfold checkCoin at h
  split at h
  · cases h
  · assumption

/-- Minting succeeds exactly when the coin can be moved and, unless it is zero, the recipient can
key a balance and both the supply and the recipient's balance stay in range. -/
theorem mint_ok_iff {c : Coin} {a : String} :
    (∃ l', l.mint c a = .ok l') ↔ ∃ x, checkCoin c = .ok x ∧ (x = 0 ∨
      checkKey a = .ok () ∧ Int256.fits (l.supplyOf c.denom + x) = true ∧
        Int256.fits (l.balance a c.denom + x) = true) := by
  unfold mint
  rcases checkCoin c with e | x
  · simp [bind, Except.bind]
  by_cases hx : x = 0
  · simp [hx, bind, Except.bind, pure, Except.pure]
  simp only [credit, balanceOf, setBalance]
  rcases checkKey a with e | ⟨⟩
  · simp only [bind, Except.bind, hx, if_false, reduceCtorEq, false_and, or_false, exists_eq_left',
      iff_false, not_exists, Except.ok.injEq]
    intro l'
    split <;> simp
  · by_cases hs : Int256.fits (l.supplyOf c.denom + x) = true <;>
      by_cases hb : Int256.fits (l.balance a c.denom + x) = true <;>
      simp_all [bind, Except.bind, Int256.add, Int256.checked, balance, pure, Except.pure]
    split <;> exact ⟨_, rfl⟩

theorem mint_ok_congr {c : Coin} {a : String} (hs : l'.supplyOf c.denom = l.supplyOf c.denom)
    (hb : l'.balance a c.denom = l.balance a c.denom) :
    (∃ k, l'.mint c a = .ok k) ↔ ∃ k, l.mint c a = .ok k := by
  rw [mint_ok_iff, mint_ok_iff, hs, hb]

theorem setBalance_of_checkKey {a d : String} (hk : checkKey a = .ok ()) (x : Int) :
    ∃ l', l.setBalance a d x = .ok l' := by
  simp only [setBalance, hk]
  split <;> exact ⟨_, rfl⟩

theorem credit_of_fits {a d : String} {x : Int} (hk : checkKey a = .ok ())
    (hf : Int256.fits (l.balance a d + x) = true) : ∃ l', l.credit a d x = .ok l' := by
  obtain ⟨l', hl'⟩ := setBalance_of_checkKey (l := l) (d := d) hk (l.balance a d + x)
  refine ⟨l', ?_⟩
  simp only [credit, balanceOf, hk, Int256.add, Int256.checked]
  simp_all [balance, bind, Except.bind, pure, Except.pure]

theorem debit_of_le {a d : String} {x : Int} (hk : checkKey a = .ok ()) (hle : x ≤ l.balance a d)
    (hf : Int256.fits (l.balance a d - x) = true) : ∃ l', l.debit a d x = .ok l' := by
  obtain ⟨l', hl'⟩ := setBalance_of_checkKey (l := l) (d := d) hk (l.balance a d - x)
  refine ⟨l', ?_⟩
  simp only [debit, balanceOf, hk, Int256.sub, Int256.checked]
  simp_all [balance, bind, Except.bind, pure, Except.pure]

/-- Sending a positive coin succeeds once both accounts can key a balance, the source holds the
amount and both balances it writes stay in range. -/
theorem send_one_of_fits {src dst d : String} {x : Int} (hd : Denom.fault? d = none) (hx : 0 < x)
    (hks : checkKey src = .ok ()) (hkd : checkKey dst = .ok ()) (hle : x ≤ l.balance src d)
    (hfs : Int256.fits (l.balance src d - x) = true)
    (hfd : Int256.fits (l.balance dst d - (if dst = src then x else 0) + x) = true) :
    ∃ l', l.send src dst [Coin.of d x] = .ok l' := by
  obtain ⟨l₁, h₁⟩ := debit_of_le hks hle hfs
  have hb₁ := balance_debit h₁ dst d
  obtain ⟨l₂, h₂⟩ := credit_of_fits (l := l₁) (x := x) hkd (by
    have : l₁.balance dst d = l.balance dst d - (if dst = src then x else 0) := by
      by_cases h : dst = src
      · subst h
        simp only [if_true] at hb₁ ⊢
        omega
      · simp only [Prod.mk.injEq, Ne.symm h, false_and, if_false, add_zero] at hb₁
        simp only [h, if_false, sub_zero]
        exact hb₁
    rwa [this])
  refine ⟨l₂, ?_⟩
  rw [send, checkCoin_of hd hx.le, Result.ok_bind, if_neg hx.ne']
  dsimp only [Coin.of]
  rw [h₁, Result.ok_bind, h₂, Result.ok_bind]
  rfl

/-- A send of one positive coin that goes through had a valid denomination and accounts that key
a balance. -/
theorem send_one_keys {src dst d : String} {x : Int} (hx : 0 < x)
    (h : l.send src dst [Coin.of d x] = .ok l') :
    Denom.fault? d = none ∧ checkKey src = .ok () ∧ checkKey dst = .ok () := by
  obtain ⟨x', hc, ⟨h0, -⟩ | ⟨-, l₁, l₂, hd, hcr, -⟩⟩ := send_cons_eq_ok h
  · obtain ⟨hsome, -⟩ := checkCoin_eq_ok hc
    simp only [Coin.of, Option.some.injEq] at hsome
    omega
  · exact ⟨checkCoin_denom hc, (setBalance_eq_ok (debit_eq_ok hd).2.2).1,
      (setBalance_eq_ok (credit_eq_ok hcr).2).1⟩

/-! ### Ledgers that agree -/

def Agree (l l' : Ledger) : Prop :=
  (∀ a d, l.balance a d = l'.balance a d) ∧ ∀ d, l.supplyOf d = l'.supplyOf d

/-- A coin moved from `p` to `q` and back, with a mint of another denomination in between, goes
through exactly when the mint alone does and leaves what the mint alone leaves, in a ledger whose
balances are positive and whose supplies fit. -/
theorem mint_within_round_trip {p q d r : String} {x : Int} {c : Coin} (hpq : p ≠ q)
    (hd : d ≠ c.denom) (hx : 0 < x) (hc : l.Conserved) (hf : l.SupplyFits)
    (h₁ : l.send p q [Coin.of d x] = .ok l₁) :
    ((∃ l₂ l₃, l₁.mint c r = .ok l₂ ∧ l₂.send q p [Coin.of d x] = .ok l₃) ↔
      ∃ l', l.mint c r = .ok l') ∧
    ∀ l₂ l₃ l', l₁.mint c r = .ok l₂ → l₂.send q p [Coin.of d x] = .ok l₃ → l.mint c r = .ok l' →
      l₃.Agree l' := by
  obtain ⟨hdv, hkp, hkq⟩ := send_one_keys hx h₁
  have hb₁ := balance_send h₁
  have hs₁ : l₁.supply = l.supply := supply_send h₁
  simp only [Coins.amountOf_single] at hb₁
  -- the move touches only `d`, and the mint only its own denomination
  have hmint : (∃ l₂, l₁.mint c r = .ok l₂) ↔ ∃ l', l.mint c r = .ok l' := by
    refine mint_ok_congr (by simp only [supplyOf, hs₁]) ?_
    simpa [hd] using hb₁ r c.denom
  have hb₂ : ∀ {l₂}, l₁.mint c r = .ok l₂ → ∀ a, l₂.balance a d = l₁.balance a d := by
    intro l₂ h₂ a
    simp [balance_mint h₂, Ne.symm hd]
  -- moving the coin back always goes through: `q` holds it, and both balances end in range
  have hback : ∀ l₂, l₁.mint c r = .ok l₂ → ∃ l₃, l₂.send q p [Coin.of d x] = .ok l₃ := by
    intro l₂ h₂
    have hq := hb₁ q d
    have hp := hb₁ p d
    have h0 := balance_nonneg hc.balances q d
    have hfq := hc.balance_fits hf q d
    have hfp := hc.balance_fits hf p d
    simp only [if_true, hpq, Ne.symm hpq, if_false, add_zero] at hq hp
    refine send_one_of_fits hdv hx hkq hkp ?_ ?_ ?_
    · rw [hb₂ h₂]
      omega
    · rwa [hb₂ h₂, show l₁.balance q d - x = l.balance q d by omega]
    · rwa [if_neg hpq, hb₂ h₂, sub_zero, show l₁.balance p d + x = l.balance p d by omega]
  refine ⟨⟨?_, fun hl => ?_⟩, ?_⟩
  · rintro ⟨l₂, -, h₂, -⟩
    exact hmint.mp ⟨l₂, h₂⟩
  · obtain ⟨l₂, h₂⟩ := hmint.mpr hl
    obtain ⟨l₃, h₃⟩ := hback l₂ h₂
    exact ⟨l₂, l₃, h₂, h₃⟩
  · intro l₂ l₃ l' h₂ h₃ h'
    refine ⟨fun a e => ?_, fun e => ?_⟩
    · have e₁ := hb₁ a e
      have e₂ := balance_mint h₂ a e
      have e₃ := balance_send h₃ a e
      have e' := balance_mint h' a e
      simp only [Coins.amountOf_single] at e₃
      -- the moves out and back cancel; what is left is the mint
      generalize (if a = p then if d = e then x else 0 else 0) = P at e₁ e₃
      generalize (if a = q then if d = e then x else 0 else 0) = Q at e₁ e₃
      generalize (if (r, c.denom) = (a, e) then c.amount.getD 0 else 0) = M at e₂ e'
      omega
    · rw [show l₃.supplyOf e = l₂.supplyOf e by simp only [supplyOf, supply_send h₃],
        supplyOf_mint h₂, supplyOf_mint h',
        show l₁.supplyOf e = l.supplyOf e by simp only [supplyOf, hs₁]]

/-- A coin sent from `s` to `p`, on from `p` to `q` and back from `q` to `s`: in a ledger whose
balances are positive and whose supplies fit, the last move always goes through and leaves every
balance and supply as before the first. -/
theorem send_around_cycle {s p q d : String} {x : Int} {lA : Ledger} (hpq : p ≠ q) (hx : 0 < x)
    (hc : l.Conserved) (hf : l.SupplyFits) (hA : l.send s p [Coin.of d x] = .ok lA)
    (h₁ : lA.send p q [Coin.of d x] = .ok l₁) :
    (∃ l₂, l₁.send q s [Coin.of d x] = .ok l₂) ∧
      ∀ l₂, l₁.send q s [Coin.of d x] = .ok l₂ → l₂.Agree l := by
  obtain ⟨hdv, hks, -⟩ := send_one_keys hx hA
  obtain ⟨-, -, hkq⟩ := send_one_keys hx h₁
  have hbA := balance_send hA
  have hb₁ := balance_send h₁
  simp only [Coins.amountOf_single] at hbA hb₁
  have hcA := hc.send hA
  refine ⟨?_, fun l₂ h₂ => ⟨fun a e => ?_, fun e => ?_⟩⟩
  · -- `q` holds the coin it was sent, and `s` ends with its balance before the first move
    have hq := hb₁ q d
    have hs₁ := hb₁ s d
    have hsA := hbA s d
    simp only [if_true, Ne.symm hpq, if_false, add_zero] at hq hs₁ hsA
    have h0 := balance_nonneg hcA.balances q d
    refine send_one_of_fits hdv hx hkq hks (by omega) ?_ ?_
    · rw [show l₁.balance q d - x = lA.balance q d by omega]
      exact hcA.balance_fits (hf.send hA) q d
    · generalize (if s = p then x else 0) = P at hs₁ hsA
      generalize (if s = q then x else 0) = Q at hs₁ ⊢
      rw [show l₁.balance s d - Q + x = l.balance s d by omega]
      exact hc.balance_fits hf s d
  · have e₂ := balance_send h₂ a e
    have e₁ := hb₁ a e
    have eA := hbA a e
    simp only [Coins.amountOf_single] at e₂
    -- each move is undone by the next one around the cycle
    generalize (if a = s then if d = e then x else 0 else 0) = S at e₂ eA
    generalize (if a = p then if d = e then x else 0 else 0) = P at e₁ eA
    generalize (if a = q then if d = e then x else 0 else 0) = Q at e₁ e₂
    omega
  · simp only [supplyOf, supply_send h₂, supply_send h₁, supply_send hA]

end Ledger

namespace Staking

variable {s s' : Staking} {l : Ledger} {env : Env}

/-! ### The handlers of a stake and a claim -/

def withoutWarmup (s : Staking) : Staking :=
  { s with config := { s.config with warmupLength := 0 } }

/-- Accruing points reads only the points, the switch and the staked denomination: two states
that agree on them accrue alike, each keeping its other fields. -/
theorem accruePoints_congr (s' s : Staking) {a : String} {held : Int}
    (he : s'.config.pointsEnabled = s.config.pointsEnabled)
    (hd : s'.config.stakedDenom = s.config.stakedDenom) (hp : s'.points = s.points) :
    s'.accruePoints l env a held =
      (fun x => { s' with points := x.points }) <$> s.accruePoints l env a held := by
  unfold accruePoints pointsOf pendingPoints setPoints
  simp only [he, hd, hp]
  cases s.config.pointsEnabled with
  | false => simp [← hp]
  | true =>
    simp only [Bool.not_true, Bool.false_eq_true, if_false]
    split
    · simp [← hp]
    · simp only [map_bind]
      rfl

/-- A stake with a warmup computes what the same stake without one does: the same amount, the
same recipient, the same staked tokens and the same points. The warmup stake files the tokens and
the amount in the recipient's entry and sends the amount to escrow; the direct stake mints the
tokens at once. -/
theorem stake_with_warmup {sender toAddr : String} {funds : Coins} {s₁ : Staking} {r₁ : Response}
    (hw : s.config.warmupLength ≠ 0) (h : s.stake l env sender funds toAddr = .ok (s₁, r₁)) :
    ∃ a m rcp, oneCoin funds s.config.baseDenom = .ok a ∧ recipientOf toAddr sender = .ok rcp ∧
      0 < m ∧ s₁.config = s.config ∧
      s₁.warmups = s.warmups.insert rcp
        ⟨(s.warmups.getD rcp ⟨0, 0, default⟩).principal + a,
          (s.warmups.getD rcp ⟨0, 0, default⟩).minted + m,
          env.now.add (Duration.ofSeconds s.config.warmupLength)⟩ ∧
      r₁.effects = [.send stakingAccount warmupAccount [Coin.of s.config.baseDenom a]] ∧
      ∃ s₂ r₂, s.withoutWarmup.stake l env sender funds toAddr = .ok (s₂, r₂) ∧
        s₂ = { s₁ with config := s.withoutWarmup.config, warmups := s.warmups } ∧
        r₂.effects = [.mint (Coin.of s.config.stakedDenom m) rcp] := by
  simp only [stake, Result.bind_eq_ok] at h
  obtain ⟨a, ha, rcp, hrcp, rate, hrate, q, hq, h⟩ := h
  split at h
  · cases h
  rename_i hpos
  simp only [Result.bind_eq_ok] at h
  obtain ⟨sₐ, hsₐ, h⟩ := h
  simp only [Result.pure_eq_ok] at h
  obtain ⟨p, hp, mm, hmm, s₂, hs₂, _, rfl, h⟩ := h
  simp only [Prod.mk.injEq] at h
  obtain ⟨rfl, rfl⟩ := h
  obtain ⟨pts, rfl⟩ := accruePoints_eq_ok hsₐ
  obtain rfl := setWarmup_eq_ok hs₂
  obtain rfl := (Int256.checked_eq_ok.mp hp).2
  obtain rfl := (Int256.checked_eq_ok.mp hmm).2
  have hacc : s.withoutWarmup.accruePoints l env rcp 0 =
      .ok { s.withoutWarmup with points := pts } := by
    rw [accruePoints_congr s.withoutWarmup s rfl rfl rfl, hsₐ]
    rfl
  have hdirect : s.withoutWarmup.stake l env sender funds toAddr =
      .ok ({ s.withoutWarmup with points := pts },
        ⟨[.mint (Coin.of s.config.stakedDenom q.truncate) rcp],
          [⟨"stake", [("sender", sender), ("to", rcp), ("amount", Int256.render a),
            ("minted", Int256.render q.truncate), ("rate", rate.render)]⟩]⟩) := by
    have hrate' : s.withoutWarmup.currentRate l a 0 = .ok rate := hrate
    simp only [stake, withoutWarmup] at hacc hrate' ⊢
    simp [ha, hrcp, hrate', hq, hpos, hacc]
  exact ⟨a, q.truncate, rcp, ha, hrcp, by omega, rfl, rfl, rfl, _, _, hdirect, rfl, rfl⟩

/-- The effects of a claim of the entry `e` for `rcp` at `now`: the refund before the unlock time;
from then on the mint of the entry's staked tokens and the move of its principal into the pool. -/
def claimEffects (cfg : StakingConfig) (e : WarmupEntry) (rcp : String) (now : Instant) :
    List Effect :=
  if now.before e.unlockTime then [.send warmupAccount rcp (coinsOf cfg.baseDenom e.principal)]
  else (if e.minted > 0 then [.mint (Coin.of cfg.stakedDenom e.minted) rcp] else []) ++
    [.send warmupAccount stakingAccount (coinsOf cfg.baseDenom e.principal)]

/-- A claim by an address with an entry, for a recipient that is an address, removes the entry,
accrues the recipient's points and answers with the effects of the entry. -/
theorem claim_effects {sender recipient rcp : String} {e : WarmupEntry}
    (he : s.warmups.get? sender = some e) (hr : recipientOf recipient sender = .ok rcp) :
    (fun x => (x.1, x.2.effects)) <$> s.claim l env sender recipient =
      (fun s' => ({ s with warmups := s.warmups.erase sender, points := s'.points },
        claimEffects s.config e rcp env.now)) <$> s.accruePoints l env rcp 0 := by
  have hacc : ({ s with warmups := s.warmups.erase sender } : Staking).accruePoints l env rcp 0 =
      _ := accruePoints_congr _ s rfl rfl rfl
  unfold claim
  simp only [he, hr, claimEffects]
  cases env.now.before e.unlockTime <;> simp [hacc]

theorem recipientOf_fault {given sender rcp : String} (h : recipientOf given sender = .ok rcp) :
    Address.fault? rcp = none := by
  unfold recipientOf at h
  cases hf : Address.fault? (if given.isEmpty then sender else given) with
  | some f => simp only [hf, reduceCtorEq] at h
  | none =>
    simp only [hf, Except.ok.injEq] at h
    rw [← h, hf]

end Staking

namespace World

variable {w w₁ : World} {env : Env} {n : Nat} {sender toAddr : String} {funds : Coins}
  {evs : List Event}

/-! ### Stakes and claims through the host -/

theorem dispatch_stake :
    w.dispatch env sender funds (.stake toAddr) =
      (fun x => ({ w with staking := x.1 }, x.2)) <$>
        w.staking.stake w.ledger env sender funds toAddr := by
  simp only [dispatch]
  cases w.staking.stake w.ledger env sender funds toAddr <;> rfl

theorem dispatch_claim :
    w.dispatch env sender funds (.claim toAddr) =
      (fun x => ({ w with staking := x.1 }, x.2)) <$>
        w.staking.claim w.ledger env sender toAddr := by
  simp only [dispatch]
  cases w.staking.claim w.ledger env sender toAddr <;> rfl

theorem takeFunds_of_isZero_false {c : ContractName} (h : funds.isZero = false) :
    w.takeFunds sender c funds =
      (fun l => { w with ledger := l }) <$> w.ledger.send sender c.account funds := by
  simp only [takeFunds, h, Bool.false_eq_true, if_false]
  cases w.ledger.send sender c.account funds <;> rfl

/-- A stake call that completes while staking has a warmup. Its funds are one positive coin of the
base denomination, which moves from the sender to the pool and on to escrow, and the recipient's
entry grows by the coin and by the staked tokens it is worth. The same call without the warmup
moves the coin to the pool and completes exactly when minting those tokens for the recipient does,
leaving the ledger that mint leaves. -/
theorem execute_stake_with_warmup (hw : w.staking.config.warmupLength ≠ 0)
    (h : w.execute (n+1) env sender funds (.stake toAddr) = .ok (w₁, evs)) :
    ∃ a m t lA, funds = [Coin.of w.staking.config.baseDenom a] ∧ 0 < a ∧ 0 < m ∧
      Staking.recipientOf toAddr sender = .ok t ∧
      w.ledger.send sender stakingAccount funds = .ok lA ∧
      lA.send stakingAccount warmupAccount funds = .ok w₁.ledger ∧
      w₁.staking.config = w.staking.config ∧
      w₁.staking.warmups = w.staking.warmups.insert t
        ⟨(w.staking.warmups.getD t ⟨0, 0, default⟩).principal + a,
          (w.staking.warmups.getD t ⟨0, 0, default⟩).minted + m,
          env.now.add (Duration.ofSeconds w.staking.config.warmupLength)⟩ ∧
      ((∃ w₂ evs₂, { w with staking := w.staking.withoutWarmup }.execute (n+1) env sender funds
          (.stake toAddr) = .ok (w₂, evs₂)) ↔
        ∃ l, lA.mint (Coin.of w.staking.config.stakedDenom m) t = .ok l) ∧
      ∀ w₂ evs₂, { w with staking := w.staking.withoutWarmup }.execute (n+1) env sender funds
          (.stake toAddr) = .ok (w₂, evs₂) →
        lA.mint (Coin.of w.staking.config.stakedDenom m) t = .ok w₂.ledger := by
  obtain ⟨ms, hf, hv, wA, w₁', resp, evs', ms', htf, hd, hrun, -, -⟩ :=
    (execute_eq_ok_iff _ _ _ _ _ _ _ _).mp h
  obtain ⟨l, -, rfl⟩ := takeFunds_eq_ok htf
  rw [dispatch_stake, Result.map_eq_ok] at hd
  obtain ⟨⟨s₁, r₁⟩, hs, hx⟩ := hd
  simp only [Prod.mk.injEq] at hx
  obtain ⟨rfl, rfl⟩ := hx
  obtain ⟨a, m, t, ha, ht, hm, hcfg, hws, he, s₂, r₂, hdirect, hs₂, he₂⟩ :=
    Staking.stake_with_warmup hw hs
  obtain ⟨rfl, ha0⟩ := oneCoin_eq_ok ha
  have hz : Coins.isZero [Coin.of w.staking.config.baseDenom a] = false := by
    simp [Coins.isZero, Coin.of, ha0.ne']
  rw [takeFunds_of_isZero_false hz, Result.map_eq_ok] at htf
  obtain ⟨lA, hlA, hwl⟩ := htf
  replace hlA : w.ledger.send sender stakingAccount [Coin.of w.staking.config.baseDenom a] =
      .ok lA := hlA
  obtain rfl : lA = l := congrArg World.ledger hwl
  rw [he] at hrun
  cases hrun with
  | send _ hl₁ hnil =>
    cases hnil
    -- the same call without the warmup: the same coin reaches the pool, then one mint
    have htf₂ : ({ w with staking := w.staking.withoutWarmup } : World).takeFunds sender .staking
        [Coin.of w.staking.config.baseDenom a] =
          .ok { w with staking := w.staking.withoutWarmup, ledger := lA } := by
      rw [takeFunds_of_isZero_false hz]
      exact congrArg (Functor.map _) hlA
    have hd₂ : ({ w with staking := w.staking.withoutWarmup, ledger := lA } : World).dispatch env
        sender        [Coin.of w.staking.config.baseDenom a] (.stake toAddr) =
          .ok ({ w with staking := s₂, ledger := lA }, r₂) := by
      rw [dispatch_stake]
      exact congrArg (Functor.map _) hdirect
    have hown : ({ w with staking := s₂, ledger := lA } : World).ownsDenom .staking
        (Coin.of w.staking.config.stakedDenom m).denom = true := by
      simp [ownsDenom, Staking.ownsDenom, hs₂, Staking.withoutWarmup, Coin.of]
    have hdir : ∀ w₂ evs₂, ({ w with staking := w.staking.withoutWarmup } : World).execute (n+1) env
        sender        [Coin.of w.staking.config.baseDenom a] (.stake toAddr) = .ok (w₂, evs₂) →
        lA.mint (Coin.of w.staking.config.stakedDenom m) t = .ok w₂.ledger := by
      intro w₂ evs₂ h₂
      obtain ⟨_, -, -, wA', w₂', resp', _, _, htf', hd', hrun', -, -⟩ :=
        (execute_eq_ok_iff _ _ _ _ _ _ _ _).mp h₂
      cases htf₂.symm.trans htf'
      cases hd₂.symm.trans hd'
      rw [he₂] at hrun'
      cases hrun' with
      | mint _ hl hnil =>
        cases hnil
        exact hl
    refine ⟨a, m, t, lA, rfl, ha0, hm, ht, hlA, hl₁, hcfg, hws, ⟨?_, ?_⟩, hdir⟩
    · rintro ⟨w₂, evs₂, h₂⟩
      exact ⟨_, hdir w₂ evs₂ h₂⟩
    · rintro ⟨l, hl⟩
      exact ⟨_, _, (execute_eq_ok_iff _ _ _ _ _ _ _ _).mpr ⟨_, hf, hv, _, _, _, _, _, htf₂, hd₂,
        he₂ ▸ EffectsRun.mint hown hl (.nil _), rfl, rfl⟩⟩

/-- A claim call from an address with an entry, for itself, completes exactly when its points
accrue and the effects of its entry run from the world with the entry removed. -/
theorem execute_claim_iff {t : String} {e : WarmupEntry} {w' : World}
    (hf : Address.fault? t = none) (he : w.staking.warmups.get? t = some e) :
    (∃ evs, w.execute (n+1) env t [] (.claim "") = .ok (w', evs)) ↔
      ∃ s, w.staking.accruePoints w.ledger env t 0 = .ok s ∧ ∃ evs' ms,
        EffectsRun (fun w s f m => Runs n w env s f m) .staking
          { w with staking :=
            { w.staking with warmups := w.staking.warmups.erase t, points := s.points } }
          (Staking.claimEffects w.staking.config e t env.now) w' evs' ms := by
  have hr : Staking.recipientOf "" t = .ok t := by simp [Staking.recipientOf, hf]
  have hd : (fun x => (x.1, x.2.effects)) <$> w.staking.claim w.ledger env t "" = _ :=
    Staking.claim_effects he hr
  constructor
  · rintro ⟨evs, h⟩
    obtain ⟨_, -, -, wA, w₂, resp, evs', ms', htf, hdisp, hrun, -, -⟩ :=
      (execute_eq_ok_iff _ _ _ _ _ _ _ _).mp h
    cases (takeFunds_nil (w := w) t .staking).symm.trans htf
    rw [dispatch_claim, Result.map_eq_ok] at hdisp
    obtain ⟨⟨s₃, r₃⟩, hcl, hx⟩ := hdisp
    rw [hcl] at hd
    obtain ⟨s, hs, hx'⟩ := Result.map_eq_ok.mp hd.symm
    simp only [Prod.mk.injEq] at hx hx'
    obtain ⟨rfl, rfl⟩ := hx
    obtain ⟨rfl, hE⟩ := hx'
    exact ⟨s, hs, evs', ms', hE ▸ hrun⟩
  · rintro ⟨s, hs, evs', ms, hrun⟩
    obtain ⟨⟨s₃, r₃⟩, hcl, hx⟩ := Result.map_eq_ok.mp (hd.trans (by rw [hs]; rfl))
    simp only [Prod.mk.injEq] at hx
    obtain ⟨rfl, hE⟩ := hx
    exact ⟨_, (execute_eq_ok_iff _ _ _ _ _ _ _ _).mpr ⟨_, hf, rfl, _, _, _, _, _,
      takeFunds_nil t .staking, by rw [dispatch_claim, hcl]; rfl, hE ▸ hrun, rfl, rfl⟩⟩

/-- A claim call for itself from an address whose entry has unlocked: it completes exactly when
its points accrue, the entry's tokens are minted for it and its principal moves from escrow into
the pool, and the ledger is the one those two effects leave. -/
theorem execute_claim_unlocked {t : String} {e : WarmupEntry} (hf : Address.fault? t = none)
    (he : w.staking.warmups.get? t = some e) (hp : 0 < e.principal) (hm : 0 < e.minted)
    (hu : env.now.before e.unlockTime = false) :
    ((∃ w' evs, w.execute (n+1) env t [] (.claim "") = .ok (w', evs)) ↔
      (∃ s, w.staking.accruePoints w.ledger env t 0 = .ok s) ∧
      ∃ l₂ l₃, w.ledger.mint (Coin.of w.staking.config.stakedDenom e.minted) t = .ok l₂ ∧
        l₂.send warmupAccount stakingAccount [Coin.of w.staking.config.baseDenom e.principal] =
          .ok l₃) ∧
    ∀ w' evs, w.execute (n+1) env t [] (.claim "") = .ok (w', evs) →
      ∃ l₂, w.ledger.mint (Coin.of w.staking.config.stakedDenom e.minted) t = .ok l₂ ∧
        l₂.send warmupAccount stakingAccount [Coin.of w.staking.config.baseDenom e.principal] =
          .ok w'.ledger := by
  have hE : Staking.claimEffects w.staking.config e t env.now =
      [.mint (Coin.of w.staking.config.stakedDenom e.minted) t,
        .send warmupAccount stakingAccount [Coin.of w.staking.config.baseDenom e.principal]] := by
    simp [Staking.claimEffects, hu, hm, coinsOf, hp]
  have hinv : ∀ w', (∃ evs, w.execute (n+1) env t [] (.claim "") = .ok (w', evs)) →
      (∃ s, w.staking.accruePoints w.ledger env t 0 = .ok s) ∧
      ∃ l₂, w.ledger.mint (Coin.of w.staking.config.stakedDenom e.minted) t = .ok l₂ ∧
        l₂.send warmupAccount stakingAccount [Coin.of w.staking.config.baseDenom e.principal] =
          .ok w'.ledger := by
    intro w' hx
    obtain ⟨s, hs, evs', ms, hrun⟩ := (execute_claim_iff hf he).mp hx
    rw [hE] at hrun
    cases hrun with
    | mint _ h₂ hrun =>
      cases hrun with
      | send _ h₃ hnil =>
        cases hnil
        exact ⟨⟨s, hs⟩, _, h₂, h₃⟩
  refine ⟨⟨fun ⟨w', evs, hx⟩ => ?_, fun ⟨⟨s, hs⟩, l₂, l₃, h₂, h₃⟩ => ?_⟩,
    fun w' evs hx => (hinv w' ⟨evs, hx⟩).2⟩
  · obtain ⟨hacc, l₂, h₂, h₃⟩ := hinv w' ⟨evs, hx⟩
    exact ⟨hacc, l₂, _, h₂, h₃⟩
  · have hrun : EffectsRun (fun w s f m => Runs n w env s f m) .staking
        { w with staking :=
          { w.staking with warmups := w.staking.warmups.erase t, points := s.points } }
        [.mint (Coin.of w.staking.config.stakedDenom e.minted) t,
          .send warmupAccount stakingAccount [Coin.of w.staking.config.baseDenom e.principal]]
        _ _ _ :=
      .mint (by simp [ownsDenom, Staking.ownsDenom, Coin.of]) h₂
        (.send (by simp [ownsAccount, Staking.ownsAccount]) h₃ (.nil _))
    obtain ⟨evs, hx⟩ := (execute_claim_iff hf he).mpr ⟨s, hs, _, _, hE ▸ hrun⟩
    exact ⟨_, evs, hx⟩

/-- A claim call for itself from an address whose entry is still locked: it completes exactly
when its points accrue and its principal moves from escrow back to it, and the ledger is the one
that move leaves. -/
theorem execute_claim_locked {t : String} {e : WarmupEntry} (hf : Address.fault? t = none)
    (he : w.staking.warmups.get? t = some e) (hp : 0 < e.principal)
    (hu : env.now.before e.unlockTime = true) :
    ((∃ w' evs, w.execute (n+1) env t [] (.claim "") = .ok (w', evs)) ↔
      (∃ s, w.staking.accruePoints w.ledger env t 0 = .ok s) ∧
      ∃ l, w.ledger.send warmupAccount t [Coin.of w.staking.config.baseDenom e.principal] = .ok l) ∧
    ∀ w' evs, w.execute (n+1) env t [] (.claim "") = .ok (w', evs) →
      w.ledger.send warmupAccount t [Coin.of w.staking.config.baseDenom e.principal] =
        .ok w'.ledger := by
  have hE : Staking.claimEffects w.staking.config e t env.now =
      [.send warmupAccount t [Coin.of w.staking.config.baseDenom e.principal]] := by
    simp [Staking.claimEffects, hu, coinsOf, hp]
  have hinv : ∀ w', (∃ evs, w.execute (n+1) env t [] (.claim "") = .ok (w', evs)) →
      (∃ s, w.staking.accruePoints w.ledger env t 0 = .ok s) ∧
      w.ledger.send warmupAccount t [Coin.of w.staking.config.baseDenom e.principal] =
        .ok w'.ledger := by
    intro w' hx
    obtain ⟨s, hs, evs', ms, hrun⟩ := (execute_claim_iff hf he).mp hx
    rw [hE] at hrun
    cases hrun with
    | send _ h₃ hnil =>
      cases hnil
      exact ⟨⟨s, hs⟩, h₃⟩
  refine ⟨⟨fun ⟨w', evs, hx⟩ => ?_, fun ⟨⟨s, hs⟩, l, hl⟩ => ?_⟩,
    fun w' evs hx => (hinv w' ⟨evs, hx⟩).2⟩
  · obtain ⟨hacc, hl⟩ := hinv w' ⟨evs, hx⟩
    exact ⟨hacc, _, hl⟩
  · have hrun : EffectsRun (fun w s f m => Runs n w env s f m) .staking
        { w with staking :=
          { w.staking with warmups := w.staking.warmups.erase t, points := s.points } }
        [.send warmupAccount t [Coin.of w.staking.config.baseDenom e.principal]] _ _ _ :=
      .send (by simp [ownsAccount, Staking.ownsAccount]) hl (.nil _)
    obtain ⟨evs, hx⟩ := (execute_claim_iff hf he).mpr ⟨s, hs, _, _, hE ▸ hrun⟩
    exact ⟨_, evs, hx⟩

end World

/-! ### Staking through the warmup and staking at once -/

/-- Staking through the warmup settles as staking at once. Take a stake call that completes while
staking has a warmup, for a recipient `t` with no entry yet, on a ledger whose balances are
positive and whose supplies fit. A claim by `t` once the entry has unlocked completes exactly when
`t`'s points accrue and the same stake without the warmup would have completed, and then every
balance and supply is what that stake leaves. When `t` made the stake itself, a claim before the
unlock time completes exactly when `t`'s points accrue, and then every balance and supply is back
to what it was before the stake. -/
theorem warmup_settles_as_direct_stake {w w₁ : World} {env : Env} {n : Nat}
    {sender toAddr t : String} {funds : Coins} {evs : List Event} (hc : w.ledger.Conserved)
    (hf : w.ledger.SupplyFits) (hd : w.staking.config.baseDenom ≠ w.staking.config.stakedDenom)
    (hw : w.staking.config.warmupLength ≠ 0) (ht : Staking.recipientOf toAddr sender = .ok t)
    (hnone : w.staking.warmups.get? t = none)
    (h : w.execute (n+1) env sender funds (.stake toAddr) = .ok (w₁, evs)) :
    (∀ env' : Env,
      env'.now.before (env.now.add (Duration.ofSeconds w.staking.config.warmupLength)) = false →
      ((∃ w₃ evs₃, w₁.execute (n+1) env' t [] (.claim "") = .ok (w₃, evs₃)) ↔
        (∃ s, w₁.staking.accruePoints w₁.ledger env' t 0 = .ok s) ∧
        ∃ w₂ evs₂, { w with staking := w.staking.withoutWarmup }.execute (n+1) env sender funds
          (.stake toAddr) = .ok (w₂, evs₂)) ∧
      ∀ w₂ evs₂ w₃ evs₃, { w with staking := w.staking.withoutWarmup }.execute (n+1) env sender
          funds (.stake toAddr) = .ok (w₂, evs₂) →
        w₁.execute (n+1) env' t [] (.claim "") = .ok (w₃, evs₃) → w₃.ledger.Agree w₂.ledger) ∧
    (sender = t → ∀ env' : Env,
      env'.now.before (env.now.add (Duration.ofSeconds w.staking.config.warmupLength)) = true →
      ((∃ w₃ evs₃, w₁.execute (n+1) env' t [] (.claim "") = .ok (w₃, evs₃)) ↔
        ∃ s, w₁.staking.accruePoints w₁.ledger env' t 0 = .ok s) ∧
      ∀ w₃ evs₃, w₁.execute (n+1) env' t [] (.claim "") = .ok (w₃, evs₃) →
        w₃.ledger.Agree w.ledger) := by
  obtain ⟨a, m, t', lA, rfl, ha, hm, ht', hlA, hl₁, hcfg, hws, hdirect, hdirect'⟩ :=
    World.execute_stake_with_warmup hw h
  obtain rfl : t = t' := Except.ok.inj (ht.symm.trans ht')
  -- the entry the stake left: the coin and the tokens it is worth, until the unlock time
  have he : w₁.staking.warmups.get? t =
      some ⟨a, m, env.now.add (Duration.ofSeconds w.staking.config.warmupLength)⟩ := by
    rw [hws, KeyMap.get?_insert_self]
    simp [KeyMap.getD, hnone]
  have hft := Staking.recipientOf_fault ht
  constructor
  · intro env' hu
    obtain ⟨hiff, hledger⟩ := World.execute_claim_unlocked (n := n) hft he ha hm hu
    rw [hcfg] at hiff hledger
    obtain ⟨hround, hagree⟩ :=
      Ledger.mint_within_round_trip (c := Coin.of w.staking.config.stakedDenom m)
      (r := t) stakingAccount_ne_warmupAccount hd ha (hc.send hlA) (hf.send hlA) hl₁
    refine ⟨?_, fun w₂ evs₂ w₃ evs₃ h₂ h₃ => ?_⟩
    · rw [hiff, hdirect, ← hround]
    · obtain ⟨l₂, hl₂, hl₃⟩ := hledger w₃ evs₃ h₃
      exact hagree l₂ w₃.ledger w₂.ledger hl₂ hl₃ (hdirect' w₂ evs₂ h₂)
  · rintro rfl env' hu
    obtain ⟨hiff, hledger⟩ := World.execute_claim_locked (n := n) hft he ha hu
    rw [hcfg] at hiff hledger
    obtain ⟨hback, hagree⟩ :=
      Ledger.send_around_cycle stakingAccount_ne_warmupAccount ha hc hf hlA hl₁
    exact ⟨hiff.trans (and_iff_left hback), fun w₃ evs₃ h₃ => hagree _ (hledger w₃ evs₃ h₃)⟩

open Chain

def warmupWorld : World :=
  { fundedWorld 10 with staking := { config := { minterStaking with warmupLength := 10 } } }

def treasuryWarmupStake : Result (World × List Event) :=
  warmupWorld.execute (maxCallDepth + 1) ⟨⟨0, 0, 0⟩, 1⟩ deploymentTreasury [Coin.of "ubond" 5]
    (.stake "")

def treasuryWarmupStaked : World × List Event :=
  match treasuryWarmupStake with
  | .ok v => v
  | .error _ => default

/-- After the treasury's stake it stakes 5 more at second 1 and claims at second 11: the
treasury's staked tokens and the escrow's base tokens after the claim, and after the second stake
made without the warmup instead. -/
def secondStakeOutcome : Result ((Int × Int) × (Int × Int)) := do
  let (w₁, _) ← treasuryWarmupStake
  let (w₂, _) ← w₁.execute (maxCallDepth + 1) ⟨⟨1, 0, 0⟩, 2⟩ deploymentTreasury
    [Coin.of "ubond" 5] (.stake "")
  let (w₃, _) ← w₂.execute (maxCallDepth + 1) ⟨⟨11, 0, 0⟩, 3⟩ deploymentTreasury [] (.claim "")
  let (d, _) ← ({ w₁ with staking := w₁.staking.withoutWarmup } : World).execute (maxCallDepth + 1)
    ⟨⟨1, 0, 0⟩, 2⟩ deploymentTreasury [Coin.of "ubond" 5] (.stake "")
  pure ((w₃.ledger.balance deploymentTreasury "usbond", w₃.ledger.balance warmupAccount "ubond"),
    (d.ledger.balance deploymentTreasury "usbond", d.ledger.balance warmupAccount "ubond"))

theorem treasuryWarmup_outcomes :
    treasuryWarmupStake.toBool = true ∧ secondStakeOutcome = .ok ((10, 0), (5, 5)) := by
  decide +kernel

theorem treasuryWarmupStake_ok :
    treasuryWarmupStake = .ok (treasuryWarmupStaked.1, treasuryWarmupStaked.2) := by
  have h := treasuryWarmup_outcomes.1
  unfold treasuryWarmupStaked
  generalize treasuryWarmupStake = r at h ⊢
  cases r with
  | ok v => rfl
  | error f => cases h

theorem warmup_settles_as_direct_stake_treasury :
    warmupWorld.ledger.Conserved ∧ warmupWorld.ledger.SupplyFits ∧
    warmupWorld.staking.config.baseDenom ≠ warmupWorld.staking.config.stakedDenom ∧
    warmupWorld.staking.config.warmupLength ≠ 0 ∧
    Staking.recipientOf "" deploymentTreasury = .ok deploymentTreasury ∧
    warmupWorld.staking.warmups.get? deploymentTreasury = none ∧
    warmupWorld.execute (maxCallDepth + 1) ⟨⟨0, 0, 0⟩, 1⟩ deploymentTreasury [Coin.of "ubond" 5]
      (.stake "") = .ok (treasuryWarmupStaked.1, treasuryWarmupStaked.2) ∧
    (∀ env' : Env, env'.now.before ((⟨0, 0, 0⟩ : Instant).add
        (Duration.ofSeconds warmupWorld.staking.config.warmupLength)) = false →
      ((∃ w₃ evs₃, treasuryWarmupStaked.1.execute (maxCallDepth + 1) env' deploymentTreasury []
          (.claim "") = .ok (w₃, evs₃)) ↔
        (∃ s, treasuryWarmupStaked.1.staking.accruePoints treasuryWarmupStaked.1.ledger env'
          deploymentTreasury 0 = .ok s) ∧
        ∃ w₂ evs₂, { warmupWorld with staking := warmupWorld.staking.withoutWarmup }.execute
          (maxCallDepth + 1) ⟨⟨0, 0, 0⟩, 1⟩ deploymentTreasury [Coin.of "ubond" 5] (.stake "") =
            .ok (w₂, evs₂)) ∧
      ∀ w₂ evs₂ w₃ evs₃, { warmupWorld with staking := warmupWorld.staking.withoutWarmup }.execute
          (maxCallDepth + 1) ⟨⟨0, 0, 0⟩, 1⟩ deploymentTreasury [Coin.of "ubond" 5] (.stake "") =
            .ok (w₂, evs₂) →
        treasuryWarmupStaked.1.execute (maxCallDepth + 1) env' deploymentTreasury [] (.claim "") =
          .ok (w₃, evs₃) → w₃.ledger.Agree w₂.ledger) ∧
    (deploymentTreasury = deploymentTreasury → ∀ env' : Env,
      env'.now.before ((⟨0, 0, 0⟩ : Instant).add
        (Duration.ofSeconds warmupWorld.staking.config.warmupLength)) = true →
      ((∃ w₃ evs₃, treasuryWarmupStaked.1.execute (maxCallDepth + 1) env' deploymentTreasury []
          (.claim "") = .ok (w₃, evs₃)) ↔
        ∃ s, treasuryWarmupStaked.1.staking.accruePoints treasuryWarmupStaked.1.ledger env'
          deploymentTreasury 0 = .ok s) ∧
      ∀ w₃ evs₃, treasuryWarmupStaked.1.execute (maxCallDepth + 1) env' deploymentTreasury []
          (.claim "") = .ok (w₃, evs₃) → w₃.ledger.Agree warmupWorld.ledger) := by
  have hrcp : Staking.recipientOf "" deploymentTreasury = .ok deploymentTreasury := by
    simp [Staking.recipientOf, deploymentTreasury_valid]
  refine ⟨fundedLedger_conserved 10, fundedLedger_supplyFits 10, ?_, ?_, hrcp, ?_, ?_, ?_⟩
  · decide
  · decide
  · rfl
  · exact treasuryWarmupStake_ok
  · exact @warmup_settles_as_direct_stake warmupWorld treasuryWarmupStaked.1 ⟨⟨0, 0, 0⟩, 1⟩
      maxCallDepth deploymentTreasury "" deploymentTreasury [Coin.of "ubond" 5]
      treasuryWarmupStaked.2
      (fundedLedger_conserved 10) (fundedLedger_supplyFits 10) (by decide) (by decide) hrcp rfl
      treasuryWarmupStake_ok

/-- A second stake joins the first in the recipient's entry, and the claim settles both. The
treasury stakes 5 base tokens at second 0 and 5 more at second 1, both through the warmup, and
claims at second 11, when the second stake unlocks: it then holds 10 staked tokens and the escrow
is empty, while making the second stake at once leaves it 5 staked tokens and 5 base tokens in
escrow. -/
theorem claim_settles_earlier_stakes : secondStakeOutcome = .ok ((10, 0), (5, 5)) :=
  treasuryWarmup_outcomes.2

end Bonding

import Mathlib
import Bonding.Proofs.Calls
set_option autoImplicit false

/-!
Solvency of the accounts of bond and of the staking escrow. Bond owes each depositor the payout of
its position and keeps it in the base token on its own account: a deposit adds the payout to the
position in the same call that mints it to the account, and a redemption takes off the position
exactly what it sends or stakes. The escrow keeps the principal of every warmup: a stake with a
warmup records it as it moves it in, and a claim erases it as it moves it out. So as long as no
outside call spends as a module account, each of the two accounts holds at least what it owes.
-/

namespace Bonding

namespace KeyMap

variable {κ α : Type} [BEq κ] [LawfulBEq κ] {m : KeyMap κ α} {f : α → Int}

/-- Writing `v` under `k` trades the weight of what was stored there, a default of weight zero
when nothing was, for the weight of `v`. -/
theorem sumBy_insert_getD (hnd : m.keys.Nodup) (k : κ) (v : α) {d : α} (hd : f d = 0) :
    (m.insert k v).sumBy (fun _ x => f x) + f (m.getD k d) = m.sumBy (fun _ x => f x) + f v := by
  rw [← get?_map_getD m k f hd]
  exact sumBy_insert k v _ hnd

theorem sumBy_insert_of_get? (hnd : m.keys.Nodup) {k : κ} {v u : α} (h : m.get? k = some v) :
    (m.insert k u).sumBy (fun _ x => f x) + f v = m.sumBy (fun _ x => f x) + f u := by
  have hs := sumBy_insert k u (fun _ x => f x) hnd
  rw [h] at hs
  exact hs

theorem sumBy_erase_of_get? (hnd : m.keys.Nodup) {k : κ} {v : α} (h : m.get? k = some v) :
    (m.erase k).sumBy (fun _ x => f x) + f v = m.sumBy (fun _ x => f x) := by
  have hs := sumBy_erase k (fun _ x => f x) hnd
  rw [h] at hs
  exact hs

end KeyMap

namespace Bond

def owed (b : Bond) : Int := b.positions.sumBy fun _ p => p.payout

variable {b b' : Bond}

theorem init_positions {env : Env} {cfg : BondConfigInput} {t : TermsInput}
    {adj : Option AdjustmentInput} (h : Bond.init env cfg t adj = .ok b) :
    b.positions = KeyMap.empty := by
  simp only [init, Result.bind_eq_ok] at h
  obtain ⟨_, -, _, -, b₁, hb₁, hb⟩ := h
  rw [setDebt_eq_ok hb, setAdjustment_eq_ok hb₁]

theorem deposit_owed {o : Oracle} {s : Staking} {l : Ledger} {env : Env} {sender : String}
    {funds : Coins} {maxPrice : Option Dec} {depositor : String} {r : Response}
    (h : b.deposit o s l env sender funds maxPrice depositor = .ok (b', r))
    (hp : b.positions.NonnegBy Position.payout) :
    ∃ amount payout, oneCoin funds b.config.principal = .ok amount ∧ b'.owed = b.owed + payout ∧
      (0 ≤ payout → b'.positions.NonnegBy Position.payout) ∧
      r.effects = [.send bondAccount b.config.treasury [Coin.of b.config.principal amount],
        .execute [] (.mint bondAccount (some payout))] := by
  obtain ⟨amount, payout, dep, p, hamt, hpp, hpos, -, -, -, -, he⟩ := deposit_eq_ok h
  have hs := KeyMap.sumBy_insert_getD (f := Position.payout) hp.1 dep p
    (d := ⟨0, Dec.zero, 0, default⟩) rfl
  refine ⟨amount, payout, hamt, ?_, fun h0 => ?_, he⟩
  · rw [owed, owed, hpos]
    omega
  · have hold := hp.getD dep (d := ⟨0, Dec.zero, 0, default⟩) le_rfl
    rw [hpos]
    exact hp.insert dep (by omega)

theorem redeem_owed {s : Staking} {env : Env} {sender recipient : String} {stake : Bool}
    {r : Response} (h : b.redeem s env sender recipient stake = .ok (b', r))
    (hp : b.positions.NonnegBy Position.payout) :
    ∃ rcp delivered, 0 ≤ delivered ∧ b'.owed + delivered = b.owed ∧
      b'.positions.NonnegBy Position.payout ∧
      r.effects = if delivered > 0 then
          (if stake then [.execute [Coin.of s.config.baseDenom delivered] (.stake rcp)]
           else [.send bondAccount rcp [Coin.of s.config.baseDenom delivered]])
        else [] := by
  obtain ⟨rcp, pos, delivered, -, hpos, hcase, he⟩ := redeem_eq_ok h
  have hnn : 0 ≤ pos.payout := hp.of_get? hpos
  refine ⟨rcp, delivered, ?_⟩
  rcases hcase with ⟨-, rfl, hb'⟩ | ⟨-, hd, -, hb'⟩
  · -- fully vested: the position goes, with all of its payout
    refine ⟨hnn, ?_, hb' ▸ hp.erase rcp, he⟩
    rw [owed, owed, hb']
    exact KeyMap.sumBy_erase_of_get? hp.1 hpos
  · -- partly vested: the position keeps the rest
    obtain ⟨h0, hle⟩ := Position.pendingPayout_le hd hnn
    have hs := KeyMap.sumBy_insert_of_get? (f := Position.payout) hp.1 hpos
      (u := ⟨pos.payout - delivered, pos.pricePaid, pos.vestingTimeLeft - pos.lastTime.elapsed env.now,
        env.now⟩)
    dsimp only at hs
    refine ⟨h0, ?_, hb' ▸ hp.insert rcp (show 0 ≤ pos.payout - delivered by omega), he⟩
    rw [owed, owed, hb']
    omega

end Bond

namespace Staking

def escrowed (s : Staking) : Int := s.warmups.sumBy fun _ w => w.principal

variable {s s' : Staking}

theorem init_warmups {env : Env} {g : StakingGenesis} (h : Staking.init env g = .ok s) :
    s.warmups = KeyMap.empty := by
  simp only [init, Result.bind_eq_ok] at h
  obtain ⟨cfg, -, he⟩ := h
  rw [setEpoch_eq_ok he]

/-- A stake keeps the warmups, or with a warmup adds its amount to the escrowed principal and
moves that amount from the pool to the escrow. -/
theorem stake_escrowed {l : Ledger} {env : Env} {sender toAddr : String} {funds : Coins}
    {r : Response} (h : s.stake l env sender funds toAddr = .ok (s', r))
    (hw : s.warmups.NonnegBy WarmupEntry.principal) :
    ∃ amount, funds = [Coin.of s.config.baseDenom amount] ∧ 0 < amount ∧
      s'.warmups.NonnegBy WarmupEntry.principal ∧ s'.config = s.config ∧
      ((s'.warmups = s.warmups ∧ ∃ c rcp, r.effects = [.mint c rcp]) ∨
        (s'.escrowed = s.escrowed + amount ∧
          r.effects = [.send stakingAccount warmupAccount [Coin.of s.config.baseDenom amount]])) := by
  obtain ⟨amount, rcp, minted, pts, hamt, -, -, hcase⟩ := stake_eq_ok h
  obtain ⟨hf, hpos⟩ := oneCoin_eq_ok hamt
  refine ⟨amount, hf, hpos, ?_⟩
  rcases hcase with ⟨-, rfl, he⟩ | ⟨-, ⟨w, hwp, rfl⟩, he⟩
  · exact ⟨hw, rfl, .inl ⟨rfl, _, _, he⟩⟩
  · -- the recipient's entry grows by the amount
    have hold := hw.getD rcp (d := ⟨0, 0, default⟩) le_rfl
    have hs := KeyMap.sumBy_insert_getD (f := WarmupEntry.principal) hw.1 rcp w
      (d := ⟨0, 0, default⟩) rfl
    refine ⟨hw.insert rcp (by omega), rfl, .inr ⟨?_, he⟩⟩
    simp only [escrowed] at hs ⊢
    omega

/-- A claim erases the claimant's warmup and sends its principal, which is not negative, out of
the escrow. -/
theorem claim_escrowed {l : Ledger} {env : Env} {sender recipient : String} {r : Response}
    (h : s.claim l env sender recipient = .ok (s', r)) (hw : s.warmups.NonnegBy WarmupEntry.principal) :
    ∃ (w : WarmupEntry) (rcp : String), 0 ≤ w.principal ∧ s'.escrowed + w.principal = s.escrowed ∧
      s'.warmups.NonnegBy WarmupEntry.principal ∧ s'.config = s.config ∧
      (r.effects = [.send warmupAccount rcp (coinsOf s.config.baseDenom w.principal)] ∨
       r.effects = (if w.minted > 0 then [.mint (Coin.of s.config.stakedDenom w.minted) rcp] else []) ++
         [.send warmupAccount stakingAccount (coinsOf s.config.baseDenom w.principal)]) := by
  obtain ⟨w, rcp, pts, hget, -, rfl, he⟩ := claim_eq_ok h
  refine ⟨w, rcp, hw.of_get? hget, ?_, hw.erase sender, rfl, he⟩
  exact KeyMap.sumBy_erase_of_get? hw.1 hget

end Staking

theorem Coins.amountOf_coinsOf (d : String) {x : Int} (hx : 0 ≤ x) :
    Coins.amountOf (coinsOf d x) d = x := by
  unfold coinsOf
  split
  · simp [Coins.amountOf_single]
  · simp only [Coins.amountOf_nil]
    omega

namespace World

def bondMargin (w : World) : Int :=
  w.ledger.balance bondAccount w.staking.config.baseDenom - w.bond.owed

def escrowMargin (w : World) : Int :=
  w.ledger.balance warmupAccount w.staking.config.baseDenom - w.staking.escrowed

/-- The amounts the contracts hold for others are recorded once per address and not negative:
the payout of every position and the principal of every warmup. -/
structure Recorded (w : World) : Prop where
  positions : w.bond.positions.NonnegBy Position.payout
  warmups : w.staking.warmups.NonnegBy WarmupEntry.principal

/-- From `w` to `w'` the records stay as they should be, and the margins of the bond account and
of the escrow fall by at most `fromBond` and `fromEscrow`. -/
def Covers (w w' : World) (fromBond fromEscrow : Int) : Prop :=
  w'.Recorded ∧ w.bondMargin ≤ w'.bondMargin + fromBond ∧
    w.escrowMargin ≤ w'.escrowMargin + fromEscrow

variable {w w₁ w₂ w' : World}

theorem Covers.trans {x y x' y' : Int} (h₁ : Covers w w₁ x y) (h₂ : Covers w₁ w' x' y') :
    Covers w w' (x + x') (y + y') :=
  ⟨h₂.1, by have := h₁.2.1; have := h₂.2.1; omega, by have := h₁.2.2; have := h₂.2.2; omega⟩

theorem Covers.mono {x y x' y' : Int} (h : Covers w w' x y) (hx : x ≤ x') (hy : y ≤ y') :
    Covers w w' x' y' :=
  ⟨h.1, by have := h.2.1; omega, by have := h.2.2; omega⟩

/-- A change that keeps the ledger, the positions, the warmups and the denominations covers
with nothing taken. -/
theorem covers_of_eq (hr : w.Recorded) (hl : w'.ledger = w.ledger)
    (hp : w'.bond.positions = w.bond.positions) (hw : w'.staking.warmups = w.staking.warmups)
    (hd : w'.denoms = w.denoms) : Covers w w' 0 0 := by
  have hb : w'.staking.config.baseDenom = w.staking.config.baseDenom := congrArg Prod.fst hd
  refine ⟨⟨hp ▸ hr.positions, hw ▸ hr.warmups⟩, ?_, ?_⟩ <;>
    simp [bondMargin, escrowMargin, Bond.owed, Staking.escrowed, hl, hp, hw, hb]

theorem EffectsRun.covers
    {R : World → String → Coins → ExecuteMsg → World → List Event → List Move → Prop}
    {c : ContractName} {es : List Effect} {evs : List Event} {ms : List Move} (hr : w.Recorded)
    (h : EffectsRun R c w es w' evs ms) (hb : ∀ e ∈ es, e.Spares bondAccount)
    (he : ∀ e ∈ es, e.Spares warmupAccount) : Covers w w' 0 0 := by
  obtain ⟨hw', hbond⟩ := h.spares hb
  obtain ⟨-, hescrow⟩ := h.spares he
  rw [hw']
  refine ⟨⟨hr.positions, hr.warmups⟩, ?_, ?_⟩
  · simpa [bondMargin] using hbond w.staking.config.baseDenom
  · simpa [escrowMargin] using hescrow w.staking.config.baseDenom

theorem covers_bond {b : Bond} {x : Int} (hr : w.Recorded)
    (hp : b.positions.NonnegBy Position.payout) (ho : b.owed + x = w.bond.owed) :
    Covers w { w with bond := b } (-x) 0 := by
  refine ⟨⟨hp, hr.warmups⟩, ?_, ?_⟩ <;> simp only [bondMargin, escrowMargin] <;> omega

theorem covers_staking {st : Staking} {y : Int} (hr : w.Recorded)
    (hw : st.warmups.NonnegBy WarmupEntry.principal) (he : st.escrowed + y = w.staking.escrowed)
    (hd : st.config.baseDenom = w.staking.config.baseDenom) :
    Covers w { w with staking := st } 0 (-y) := by
  refine ⟨⟨hr.positions, hw⟩, ?_, ?_⟩ <;> simp only [bondMargin, escrowMargin, hd] <;> omega

theorem covers_send {src dst : String} {cs : Coins} {l : Ledger} (hr : w.Recorded)
    (h : w.ledger.send src dst cs = .ok l) :
    Covers w { w with ledger := l }
      ((if bondAccount = src then cs.amountOf w.staking.config.baseDenom else 0) -
        (if bondAccount = dst then cs.amountOf w.staking.config.baseDenom else 0))
      ((if warmupAccount = src then cs.amountOf w.staking.config.baseDenom else 0) -
        (if warmupAccount = dst then cs.amountOf w.staking.config.baseDenom else 0)) := by
  have hb := Ledger.balance_send h bondAccount w.staking.config.baseDenom
  have he := Ledger.balance_send h warmupAccount w.staking.config.baseDenom
  refine ⟨⟨hr.positions, hr.warmups⟩, ?_, ?_⟩ <;> simp only [bondMargin, escrowMargin] <;> omega

theorem covers_mint {c : Coin} {r : String} {l : Ledger} (hr : w.Recorded)
    (h : w.ledger.mint c r = .ok l) : Covers w { w with ledger := l } 0 0 := by
  have hb := Ledger.balance_le_mint h bondAccount w.staking.config.baseDenom
  have he := Ledger.balance_le_mint h warmupAccount w.staking.config.baseDenom
  refine ⟨⟨hr.positions, hr.warmups⟩, ?_, ?_⟩ <;> simp only [bondMargin, escrowMargin] <;> omega

section Handlers

variable {n : Nat} {env : Env} {s : String} {funds : Coins} {resp : Response}
  {R : World → String → Coins → ExecuteMsg → World → List Event → List Move → Prop}
  {evs : List Event} {ms : List Move}

/-- A deposit covers what it adds to a position with the payout that staking mints to the bond
account; its principal passes through the bond account on to the treasury. -/
theorem deposit_covers {p : Option Dec} {dep : String}
    (hd : w₁.dispatch env s funds (.deposit p dep) = .ok (w₂, resp))
    (hrun : EffectsRun (fun w s f m w' evs ms => w.Runs n env s f m w' evs ms ∧ R w s f m w' evs ms)
      .bond w₂ resp.effects w' evs ms) (hr : w₁.Recorded) :
    Covers w₁ w' (funds.amountOf w₁.staking.config.baseDenom) 0 := by
  simp only [dispatch, Result.bind_eq_ok, Result.pure_eq_ok, Prod.exists, Prod.mk.injEq] at hd
  obtain ⟨b, r, hb, rfl, rfl⟩ := hd
  obtain ⟨amount, payout, hamt, howed, hpos, he⟩ := Bond.deposit_owed hb hr.positions
  obtain ⟨rfl, -⟩ := oneCoin_eq_ok hamt
  rw [he] at hrun
  -- the principal goes to the treasury, then the payout is minted by a call to staking
  cases hrun with
  | send _ hl hrest =>
    rename_i l
    cases hrest with
    | execute hR hnil =>
      cases hnil
      obtain ⟨w₃, a, htf, ha, hpa, hmint, hw'⟩ := Runs.mint_inv hR.1
      rw [takeFunds_nil] at htf
      cases htf
      cases ha
      rw [hw']
      dsimp only at hl hmint
      have hsend := Ledger.balance_send hl bondAccount w₁.staking.config.baseDenom
      have hn := Ledger.amountOf_nonneg_of_send hl w₁.staking.config.baseDenom
      have hsend' := Ledger.balance_le_send hl bondAccount_ne_warmupAccount.symm
        w₁.staking.config.baseDenom
      have hmb := Ledger.balance_mint hmint bondAccount w₁.staking.config.baseDenom
      have hme := Ledger.balance_le_mint hmint warmupAccount w₁.staking.config.baseDenom
      rw [if_pos rfl] at hsend
      simp only [Coin.of, Option.getD_some, ↓reduceIte] at hmb
      refine ⟨⟨hpos hpa.le, hr.warmups⟩, ?_, ?_⟩
      · simp only [bondMargin, howed]
        split_ifs at hsend <;> omega
      · simp only [escrowMargin]
        omega

/-- What a call from `s` with `funds` keeps from `w` to `w'`: given the records, the margins fall
by at most what the funds of the call take from each account. -/
def KeepsCover (w : World) (s : String) (funds : Coins) (w' : World) : Prop :=
  w.Recorded → Covers w w' (if bondAccount = s then funds.amountOf w.staking.config.baseDenom else 0)
    (if warmupAccount = s then funds.amountOf w.staking.config.baseDenom else 0)

theorem redeem_covers {rcp : String} {stake : Bool}
    (hd : w₁.dispatch env s funds (.redeem rcp stake) = .ok (w₂, resp))
    (hrun : EffectsRun (fun w s f m w' evs ms => w.Runs n env s f m w' evs ms ∧ KeepsCover w s f w')
      .bond w₂ resp.effects w' evs ms) (hr : w₁.Recorded) :
    Covers w₁ w' 0 0 := by
  simp only [dispatch, Result.bind_eq_ok, Result.pure_eq_ok, Prod.exists, Prod.mk.injEq] at hd
  obtain ⟨b, r, hb, rfl, rfl⟩ := hd
  obtain ⟨rcp', delivered, h0, howed, hpos, he⟩ := Bond.redeem_owed hb hr.positions
  have h₁ := covers_bond hr hpos howed
  rw [he] at hrun
  split_ifs at hrun
  · -- staked for the recipient: a call to staking with the delivery as its funds
    cases hrun with
    | execute hR hnil =>
      cases hnil
      have h₂ := hR.2 h₁.1
      simp only [ContractName.account, if_true, bondAccount_ne_warmupAccount.symm, if_false,
        Coins.amountOf_single] at h₂
      exact (h₁.trans h₂).mono (by omega) (by omega)
  · -- sent to the recipient
    cases hrun with
    | send _ hl hnil =>
      cases hnil
      have h₂ := covers_send h₁.1 hl
      simp only [if_true, bondAccount_ne_warmupAccount.symm, if_false, Coins.amountOf_single] at h₂
      refine (h₁.trans h₂).mono ?_ ?_ <;> split_ifs <;> omega
  · cases hrun
    exact h₁.mono (by omega) le_rfl

theorem stake_covers {rcp : String}
    (hd : w₁.dispatch env s funds (.stake rcp) = .ok (w₂, resp))
    (hrun : EffectsRun R .staking w₂ resp.effects w' evs ms) (hr : w₁.Recorded) :
    Covers w₁ w' 0 0 := by
  simp only [dispatch, Result.bind_eq_ok, Result.pure_eq_ok, Prod.exists, Prod.mk.injEq] at hd
  obtain ⟨st, r, hst, rfl, rfl⟩ := hd
  obtain ⟨amount, -, hpos, hw, hcfg, ⟨hsame, c, rcp', he⟩ | ⟨hesc, he⟩⟩ :=
    Staking.stake_escrowed hst hr.warmups
  · -- without a warmup the staked tokens are minted at once
    have h₁ := covers_staking (y := 0) hr hw (by simp [Staking.escrowed, hsame]) (by rw [hcfg])
    rw [he] at hrun
    exact (h₁.trans (hrun.covers h₁.1 (by simp [Effect.Spares]) (by simp [Effect.Spares]))).mono
      le_rfl (by omega)
  · have h₁ := covers_staking (y := -amount) hr hw (by omega) (by rw [hcfg])
    rw [he] at hrun
    cases hrun with
    | send _ hl hnil =>
      cases hnil
      have h₂ := covers_send h₁.1 hl
      simp only [bondAccount_ne_stakingAccount, bondAccount_ne_warmupAccount,
        stakingAccount_ne_warmupAccount.symm, if_true, if_false, sub_self, zero_sub,
        Coins.amountOf_single] at h₂
      refine (h₁.trans h₂).mono (by omega) ?_
      simp [hcfg]

theorem claim_covers {rcp : String}
    (hd : w₁.dispatch env s funds (.claim rcp) = .ok (w₂, resp))
    (hrun : EffectsRun R .staking w₂ resp.effects w' evs ms) (hr : w₁.Recorded) :
    Covers w₁ w' 0 0 := by
  simp only [dispatch, Result.bind_eq_ok, Result.pure_eq_ok, Prod.exists, Prod.mk.injEq] at hd
  obtain ⟨st, r, hst, rfl, rfl⟩ := hd
  obtain ⟨wu, rcp', h0, hesc, hw, hcfg, he⟩ := Staking.claim_escrowed hst hr.warmups
  have h₁ := covers_staking hr hw hesc (by rw [hcfg])
  have hamt : Coins.amountOf (coinsOf w₁.staking.config.baseDenom wu.principal)
      w₁.staking.config.baseDenom = wu.principal := Coins.amountOf_coinsOf _ h0
  have hlast : ∀ {w₃ : World} {dst : String} {l : Ledger}, w₃.Recorded →
      w₃.staking.config.baseDenom = w₁.staking.config.baseDenom →
      w₃.ledger.send warmupAccount dst (coinsOf w₁.staking.config.baseDenom wu.principal) = .ok l →
      Covers w₃ { w₃ with ledger := l } 0 wu.principal := by
    intro w₃ dst l hr₃ hden hl
    have h₂ := covers_send hr₃ hl
    simp only [bondAccount_ne_warmupAccount, if_true, if_false, hden, hamt] at h₂
    refine h₂.mono ?_ ?_ <;> split_ifs <;> omega
  rcases he with he | he <;> rw [he] at hrun
  · -- refunded before the unlock time
    cases hrun with
    | send _ hl hnil =>
      cases hnil
      exact (h₁.trans (hlast h₁.1 (by simp [hcfg]) hl)).mono le_rfl (by omega)
  · -- claimed: the staked tokens are minted, and the principal joins the pool
    split_ifs at hrun
    · cases hrun with
      | mint _ hm hrest =>
        cases hrest with
        | send _ hl hnil =>
          cases hnil
          have h₂ := covers_mint h₁.1 hm
          exact ((h₁.trans h₂).trans (hlast h₂.1 (by simp [hcfg]) hl)).mono le_rfl
            (by omega)
    · cases hrun with
      | send _ hl hnil =>
        cases hnil
        exact (h₁.trans (hlast h₁.1 (by simp [hcfg]) hl)).mono le_rfl (by omega)

/-- The handler of a call and the effects it emits lower the margins by at most the funds the
call brought to the bond account. -/
theorem handler_covers {msg : ExecuteMsg} (hd : w₁.dispatch env s funds msg = .ok (w₂, resp))
    (hrun : EffectsRun (fun w s f m w' evs ms => w.Runs n env s f m w' evs ms ∧ KeepsCover w s f w')
      msg.contract w₂ resp.effects w' evs ms) (hr : w₁.Recorded)
    (hf : 0 ≤ funds.amountOf w₁.staking.config.baseDenom) :
    Covers w₁ w' (if bondAccount = msg.contract.account then
      funds.amountOf w₁.staking.config.baseDenom else 0) 0 := by
  have hzero : Covers w₁ w' 0 0 → Covers w₁ w' (if bondAccount = msg.contract.account then
      funds.amountOf w₁.staking.config.baseDenom else 0) 0 :=
    fun h => h.mono (by split_ifs <;> omega) le_rfl
  -- a handler that keeps the records and emits only sparing effects
  have hsparing : w₂.bond.positions = w₁.bond.positions → w₂.staking.warmups = w₁.staking.warmups →
      (∀ e ∈ resp.effects, e.Spares bondAccount ∧ e.Spares warmupAccount) → Covers w₁ w' 0 0 := by
    intro hp hw hsp
    have h₁ := covers_of_eq hr (dispatch_ledger hd) hp hw (dispatch_denoms hd)
    exact (h₁.trans (hrun.covers h₁.1 (fun e he => (hsp e he).1) (fun e he => (hsp e he).2))).mono
      le_rfl le_rfl
  by_cases hs : msg.isSetting = true
  · obtain ⟨he, -, hp, -, hw, -⟩ := dispatch_setting hs hd
    exact hzero (hsparing hp hw (by simp [he]))
  cases msg
  case deposit => simpa [ExecuteMsg.contract, ContractName.account] using deposit_covers hd hrun hr
  case redeem => exact hzero (redeem_covers hd hrun hr)
  case stake => exact hzero (stake_covers hd hrun hr)
  case claim => exact hzero (claim_covers hd hrun hr)
  case unstake =>
    simp only [dispatch, Result.bind_eq_ok, Result.pure_eq_ok, Prod.exists, Prod.mk.injEq] at hd
    obtain ⟨st, r, hst, rfl, rfl⟩ := hd
    obtain ⟨_, _, _, _, -, -, rfl, he⟩ := Staking.unstake_eq_ok hst
    -- the pool burns and pays out; neither touches the two accounts
    refine hzero (hsparing rfl rfl ?_)
    simp [he, Effect.Spares, bondAccount_ne_stakingAccount.symm, stakingAccount_ne_warmupAccount]
  case rebase =>
    simp only [dispatch, Result.bind_eq_ok, Result.pure_eq_ok, Prod.exists, Prod.mk.injEq] at hd
    obtain ⟨st, r, hst, rfl, rfl⟩ := hd
    obtain ⟨hw, -, -, he | ⟨_, he⟩⟩ := Staking.rebase_eq_ok hst <;>
      exact hzero (hsparing rfl hw (by simp [he, Effect.Spares]))
  case mint =>
    simp only [dispatch, Result.bind_eq_ok, Result.pure_eq_ok, Prod.mk.injEq] at hd
    obtain ⟨r, hr', rfl, rfl⟩ := hd
    obtain ⟨-, _, -, -, he⟩ := Staking.mint_eq_ok hr'
    exact hzero (hsparing rfl rfl (by simp [he, Effect.Spares]))
  all_goals simp [ExecuteMsg.isSetting] at hs

end Handlers

/-- Taking the funds of a call moves each margin by what the funds take from and bring to that
account; the escrow is the account of no contract. -/
theorem takeFunds_covers {s : String} {c : ContractName} {funds : Coins}
    (h : w.takeFunds s c funds = .ok w₁) (hr : w.Recorded) :
    Covers w w₁ ((if bondAccount = s then funds.amountOf w.staking.config.baseDenom else 0) -
        (if bondAccount = c.account then funds.amountOf w.staking.config.baseDenom else 0))
      (if warmupAccount = s then funds.amountOf w.staking.config.baseDenom else 0) := by
  have hb := (takeFunds_balance h bondAccount w.staking.config.baseDenom).1
  have he := (takeFunds_balance h warmupAccount w.staking.config.baseDenom).1
  rw [if_neg (warmupAccount_ne_account c)] at he
  obtain ⟨l, -, rfl⟩ := takeFunds_eq_ok h
  refine ⟨⟨hr.positions, hr.warmups⟩, ?_, ?_⟩ <;>
    simp only [bondMargin, escrowMargin] at hb he ⊢ <;> omega

/-- Every run keeps the cover: the margins of the bond account and of the escrow fall by at most
what the funds of the call itself take from them. -/
theorem Runs.keepsCover {n : Nat} {env : Env} {s : String} {funds : Coins} {msg : ExecuteMsg}
    {evs : List Event} {ms : List Move} (h : w.Runs n env s funds msg w' evs ms) :
    KeepsCover w s funds w' := by
  refine Runs.induction (fun w s f _ w' => KeepsCover w s f w') ?_ h
  intro n w w₁ w₂ w' s funds msg resp evs ms htf hd hrun hr
  have h₁ := takeFunds_covers htf hr
  have hf := (takeFunds_balance htf bondAccount w.staking.config.baseDenom).2
  obtain ⟨l, -, rfl⟩ := takeFunds_eq_ok htf
  -- the handler runs on the world the funds left, with the same base denomination
  have h₂ := handler_covers hd hrun h₁.1 hf
  dsimp only at h₂
  exact (h₁.trans h₂).mono (by omega) (by omega)

/-- Both module accounts hold what they owe, and the records are in order. -/
structure Solvent (w : World) : Prop where
  recorded : w.Recorded
  bond : 0 ≤ w.bondMargin
  escrow : 0 ≤ w.escrowMargin

end World

namespace Chain

open World

theorem Reachable.solvent {c : Chain} (hc : c.Reachable Call.External) : c.world.Solvent := by
  refine Reachable.induction (P := fun c => c.world.Solvent) ?_ ?_ ?_ ?_ hc
  · exact ⟨⟨⟨List.nodup_nil, by simp [KeyMap.empty]⟩, ⟨List.nodup_nil, by simp [KeyMap.empty]⟩⟩,
      by decide, by decide⟩
  · -- a genesis records nothing and mints only non-negative balances
    intro c' now g _ h
    obtain ⟨-, -, -, hst, hbd⟩ := instantiate_eq_ok h
    have hl : c'.world.ledger.Conserved :=
      instantiate_ledger (fun hm hp => hp.mint hm) h Ledger.conserved_empty
    have hp := Bond.init_positions hbd
    have hw := Staking.init_warmups hst
    refine ⟨⟨?_, ?_⟩, ?_, ?_⟩
    · rw [hp]
      exact ⟨List.nodup_nil, by simp [KeyMap.empty]⟩
    · rw [hw]
      exact ⟨List.nodup_nil, by simp [KeyMap.empty]⟩
    · simp only [bondMargin, Bond.owed, hp]
      have := Ledger.balance_nonneg hl.balances bondAccount c'.world.staking.config.baseDenom
      simp [KeyMap.sumBy, KeyMap.empty]
      omega
    · simp only [escrowMargin, Staking.escrowed, hw]
      have := Ledger.balance_nonneg hl.balances warmupAccount c'.world.staking.config.baseDenom
      simp [KeyMap.sumBy, KeyMap.empty]
      omega
  · -- an outside sender takes nothing from the two accounts
    intro c now s funds msg w evs ms ha _ hs _ hrun
    dsimp only
    obtain ⟨hb, -, he⟩ := ha s rfl
    have hcov := hrun.keepsCover hs.recorded
    rw [if_neg (Ne.symm hb), if_neg (Ne.symm he)] at hcov
    exact ⟨hcov.1, by have := hs.bond; have := hcov.2.1; omega,
      by have := hs.escrow; have := hcov.2.2; omega⟩
  · intro c now src dst coins l ha _ hs _ hl
    dsimp only
    obtain ⟨hb, -, he⟩ := ha src rfl
    have hcov := covers_send hs.recorded hl
    rw [if_neg (Ne.symm hb), if_neg (Ne.symm he)] at hcov
    have hn := Ledger.amountOf_nonneg_of_send hl c.world.staking.config.baseDenom
    refine ⟨hcov.1, ?_, ?_⟩
    · have := hs.bond
      have := hcov.2.1
      split_ifs at this <;> omega
    · have := hs.escrow
      have := hcov.2.2
      split_ifs at this <;> omega

/-- Solvency of the module accounts. In every chain that calls of outside accounts reach, the bond
account holds in the base token at least the payout of all positions, and the escrow at least
the principal of all warmups. Hence what a redemption delivers from a position, its payout once
vested and the pending part before, is never more than the bond account holds, and the principal
a claim sends is never more than the escrow holds. -/
theorem modules_solvent {c : Chain} (hc : c.Reachable Call.External) :
    c.world.bond.owed ≤ c.world.ledger.balance bondAccount c.world.staking.config.baseDenom ∧
    c.world.staking.escrowed ≤
      c.world.ledger.balance warmupAccount c.world.staking.config.baseDenom ∧
    (∀ a p now x, c.world.bond.positions.get? a = some p → p.pendingPayout now = .ok x →
      0 ≤ x ∧ x ≤ p.payout ∧
        p.payout ≤ c.world.ledger.balance bondAccount c.world.staking.config.baseDenom) ∧
    (∀ a w, c.world.staking.warmups.get? a = some w →
      0 ≤ w.principal ∧
        w.principal ≤ c.world.ledger.balance warmupAccount c.world.staking.config.baseDenom) := by
  obtain ⟨⟨hp, hw⟩, hb, he⟩ := hc.solvent
  simp only [bondMargin, escrowMargin] at hb he
  refine ⟨by omega, by omega, fun a p now x hget hx => ?_, fun a w hget => ?_⟩
  · -- one position weighs no more than all of them
    have hle := hp.le_sumBy hget
    have hnn := hp.of_get? hget
    obtain ⟨h0, hxp⟩ := Position.pendingPayout_le hx hnn
    exact ⟨h0, hxp, by simp only [Bond.owed] at hb; omega⟩
  · have hle := hw.le_sumBy hget
    exact ⟨hw.of_get? hget, by simp only [Staking.escrowed] at he; omega⟩

theorem modules_solvent_bonded :
    bondedAtZero.Reachable Call.External ∧
    bondedAtZero.world.bond.owed ≤
      bondedAtZero.world.ledger.balance bondAccount bondedAtZero.world.staking.config.baseDenom ∧
    bondedAtZero.world.staking.escrowed ≤
      bondedAtZero.world.ledger.balance warmupAccount bondedAtZero.world.staking.config.baseDenom ∧
    (∀ a p now x, bondedAtZero.world.bond.positions.get? a = some p →
      p.pendingPayout now = .ok x → 0 ≤ x ∧ x ≤ p.payout ∧
        p.payout ≤
          bondedAtZero.world.ledger.balance bondAccount bondedAtZero.world.staking.config.baseDenom) ∧
    (∀ a w, bondedAtZero.world.staking.warmups.get? a = some w → 0 ≤ w.principal ∧
      w.principal ≤
        bondedAtZero.world.ledger.balance warmupAccount bondedAtZero.world.staking.config.baseDenom) := by
  have hholder : bondHolder ≠ bondAccount ∧ bondHolder ≠ stakingAccount ∧
      bondHolder ≠ warmupAccount := by
    obtain ⟨hb, hs, hw, -⟩ := moduleAccounts_text
    rw [hb, hs, hw]
    decide
  have hc : bondedAtZero.Reachable Call.External :=
    .step _ (fun a ha => (Option.some.inj ha) ▸ hholder)
      (.step _ (fun a ha => by simp [Call.payer] at ha) .empty)
  exact ⟨hc, modules_solvent hc⟩

end Chain

end Bonding

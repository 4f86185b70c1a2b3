import Mathlib
import Bonding.Proofs.Warmup
set_option autoImplicit false

/-!
Redeeming into a stake. A redemption with the stake flag sends nothing to the recipient: it
answers with a call, made by the bond account with the delivered base tokens attached, that stakes
them for the recipient. Main statement: on every reachable chain, for a recipient with a position,
that redemption completes exactly when the plain redemption completes and the recipient, at the
same block time, then stakes the delivered tokens for itself; both ways then leave the same
balances, supplies, positions, warmup entries and points.

The two ways differ in who sends the stake and in the way the tokens take: from bond into the pool,
or from bond to the recipient and on into the pool. So the equivalence is one of what the ledger
holds, not of how it stores it, and it needs room in the recipient's balance for the tokens passing
through, which conservation of a bounded supply gives.
-/

namespace Bonding

/-! ### Account addresses key balances -/

namespace Bech32

theorem caseFault_loop_eq_none {lower upper : Bool} {bytes : List Nat}
    (h : caseFault.loop lower upper bytes = none) : ∀ b ∈ bytes, 33 ≤ b := by
  induction bytes generalizing lower upper with
  | nil => simp
  | cons b rest ih =>
    unfold caseFault.loop at h
    split at h
    · cases h
    rename_i hb
    dsimp only at h
    split at h
    · cases h
    intro x hx
    rcases List.mem_cons.mp hx with rfl | hx
    · simp only [Bool.or_eq_true, decide_eq_true_eq, not_or, not_lt] at hb
      omega
    · exact ih h x hx

theorem decode_caseFault {text : String} {limit : Nat} {r : String × List Nat}
    (h : decode text limit = .ok r) : caseFault (text.toUTF8.toList.map UInt8.toNat) = none := by
  unfold decode at h
  simp only [bind, Except.bind] at h
  split at h
  · cases h
  cases hc : caseFault (text.toUTF8.toList.map UInt8.toNat) with
  | none => rfl
  | some f =>
    rw [hc] at h
    cases h

end Bech32

theorem String.zero_mem_utf8 {s : String} (h : Char.ofNat 0 ∈ s.toList) :
    0 ∈ s.toUTF8.toList.map UInt8.toNat := by
  rw [← String.ofList_toList (s := s), String.toUTF8_eq_toByteArray, String.toByteArray_ofList,
    List.utf8Encode, ByteArray.toList_eq_data_toList, List.toList_data_toByteArray, List.mem_map]
  exact ⟨0, List.mem_flatMap.mpr ⟨_, h, by decide⟩, rfl⟩

namespace Address

theorem checkKey_of_fault {a : String} (h : fault? a = none) : Ledger.checkKey a = .ok () := by
  unfold fault? at h
  split at h
  · cases h
  split at h
  · cases h
  rename_i r hd
  have hall := Bech32.caseFault_loop_eq_none (Bech32.decode_caseFault hd)
  unfold Ledger.checkKey
  rw [if_neg]
  intro hnul
  have := hall 0 (String.zero_mem_utf8 (by simpa using hnul))
  omega

theorem isEmpty_of_fault {a : String} (h : fault? a = none) : a.isEmpty = false := by
  cases he : a.isEmpty
  · rfl
  · rw [String.isEmpty_iff] at he
    subst he
    cases h

end Address

/-! ### Ledgers that agree -/

namespace Ledger

variable {l l' k : Ledger}

theorem Agree.refl (l : Ledger) : l.Agree l := ⟨fun _ _ => rfl, fun _ => rfl⟩

theorem Agree.symm (h : l.Agree l') : l'.Agree l :=
  ⟨fun a d => (h.1 a d).symm, fun d => (h.2 d).symm⟩

theorem Agree.trans {l'' : Ledger} (h : l.Agree l') (h' : l'.Agree l'') : l.Agree l'' :=
  ⟨fun a d => (h.1 a d).trans (h'.1 a d), fun d => (h.2 d).trans (h'.2 d)⟩

theorem Agree.balanceOf (h : l.Agree l') (d a : String) : l.balanceOf d a = l'.balanceOf d a := by
  have hb := h.1 a d
  simp only [balance] at hb
  simp only [Ledger.balanceOf, hb]

theorem Agree.of_setBalance {a d : String} {x : Int} {k' : Ledger} (h : l.Agree l')
    (hs : l.setBalance a d x = .ok k) (hs' : l'.setBalance a d x = .ok k') : k.Agree k' := by
  refine ⟨fun a' d' => ?_, fun d' => ?_⟩
  · rw [balance_setBalance hs, balance_setBalance hs', h.1]
  · simp only [supplyOf, (setBalance_eq_ok hs).2.1, (setBalance_eq_ok hs').2.1]
    exact h.2 d'

theorem Agree.credit {a d : String} {x : Int} (h : l.Agree l') (hc : l.credit a d x = .ok k) :
    ∃ k', l'.credit a d x = .ok k' ∧ k.Agree k' := by
  obtain ⟨hfit, hset⟩ := credit_eq_ok hc
  obtain ⟨k', hk'⟩ :=
    credit_of_fits (l := l') (x := x) (setBalance_eq_ok hset).1 (by rwa [← h.1 a d])
  obtain ⟨-, hset'⟩ := credit_eq_ok hk'
  rw [← h.1 a d] at hset'
  exact ⟨k', hk', h.of_setBalance hset hset'⟩

theorem Agree.debit {a d : String} {x : Int} (h : l.Agree l') (hd : l.debit a d x = .ok k) :
    ∃ k', l'.debit a d x = .ok k' ∧ k.Agree k' := by
  obtain ⟨hle, hfit, hset⟩ := debit_eq_ok hd
  obtain ⟨k', hk'⟩ := debit_of_le (l := l') (x := x) (setBalance_eq_ok hset).1 (by rwa [← h.1 a d])
    (by rwa [← h.1 a d])
  obtain ⟨-, -, hset'⟩ := debit_eq_ok hk'
  rw [← h.1 a d] at hset'
  exact ⟨k', hk', h.of_setBalance hset hset'⟩

theorem Agree.send {src dst : String} {cs : Coins} (h : l.Agree l')
    (hs : l.send src dst cs = .ok k) :
    ∃ k', l'.send src dst cs = .ok k' ∧ k.Agree k' := by
  induction cs generalizing l l' with
  | nil =>
    simp only [Ledger.send] at hs
    cases hs
    exact ⟨l', rfl, h⟩
  | cons c cs ih =>
    obtain ⟨x, hx, ⟨rfl, hs⟩ | ⟨hx0, l₁, l₂, hd, hc, hs⟩⟩ := send_cons_eq_ok hs
    · obtain ⟨k', hk', hkk⟩ := ih h hs
      exact ⟨k', by rw [Ledger.send, hx, Result.ok_bind, if_pos rfl, hk'], hkk⟩
    · obtain ⟨l₁', hd', h₁⟩ := h.debit hd
      obtain ⟨l₂', hc', h₂⟩ := h₁.credit hc
      obtain ⟨k', hk', hkk⟩ := ih h₂ hs
      refine ⟨k', ?_, hkk⟩
      rw [Ledger.send, hx, Result.ok_bind, if_neg hx0, hd', Result.ok_bind, hc', Result.ok_bind,
        hk']

theorem Agree.mint {c : Coin} {a : String} (h : l.Agree l') (hm : l.mint c a = .ok k) :
    ∃ k', l'.mint c a = .ok k' ∧ k.Agree k' := by
  obtain ⟨k', hk'⟩ := (mint_ok_congr (h.2 c.denom).symm (h.1 a c.denom).symm).mpr ⟨k, hm⟩
  refine ⟨k', hk', fun a' d' => ?_, fun d' => ?_⟩
  · rw [balance_mint hm, balance_mint hk', h.1]
  · rw [supplyOf_mint hm, supplyOf_mint hk', h.2]

theorem Agree.burn {c : Coin} {a : String} (h : l.Agree l') (hb : l.burn c a = .ok k) :
    ∃ k', l'.burn c a = .ok k' ∧ k.Agree k' := by
  obtain ⟨x, hx, ⟨rfl, rfl⟩ | ⟨hx0, l₁, hd, hle, hfit, rfl⟩⟩ := burn_eq_ok hb
  · exact ⟨l', by rw [Ledger.burn, hx, Result.ok_bind, if_pos rfl]; rfl, h⟩
  obtain ⟨l₁', hd', h₁⟩ := h.debit hd
  have hs := h₁.2 c.denom
  refine ⟨l₁'.setSupply c.denom (l₁'.supplyOf c.denom - x), ?_, fun a' d' => ?_, fun d' => ?_⟩
  · have hsub : Int256.sub (l₁'.supplyOf c.denom) x = .ok (l₁'.supplyOf c.denom - x) := by
      simp [Int256.sub, Int256.checked, ← hs, hfit]
    rw [Ledger.burn, hx, Result.ok_bind, if_neg hx0, hd', Result.ok_bind]
    simp only [← hs, not_lt.mpr hle, if_false]
    rw [hs, hsub]
    rfl
  · simpa only [balance_setSupply] using h₁.1 a' d'
  · rw [supplyOf_setSupply, supplyOf_setSupply, hs, h₁.2 d']

theorem credit_debit_agree {a d : String} {x : Int} {l₁ l₂ : Ledger} (h₁ : l.credit a d x = .ok l₁)
    (h₂ : l₁.debit a d x = .ok l₂) : l₂.Agree l := by
  refine ⟨fun a' d' => ?_, fun d' => ?_⟩
  · have e₁ := balance_credit h₁ a' d'
    have e₂ := balance_debit h₂ a' d'
    omega
  · simp only [supplyOf, supply_debit h₂, supply_credit h₁]

/-! ### A coin passing through an account -/

theorem Conserved.balance_add_le (hc : l.Conserved) {a a' : String} (hne : a ≠ a') (d : String) :
    l.balance a d + l.balance a' d ≤ l.supplyOf d := by
  have hw : ∀ (m : KeyMap (String × String) Int) (b : String),
      ((m.get? (b, d)).map fun v => if (b, d).2 = d then v else 0).getD 0 = m.getD (b, d) 0 := by
    intro m b
    unfold KeyMap.getD
    cases m.get? (b, d) <;> simp
  have h₁ := KeyMap.sumBy_erase (a, d) (fun k v => if k.2 = d then v else 0) hc.balances.1
  have h₂ := KeyMap.sumBy_erase (a', d) (fun k v => if k.2 = d then v else 0)
    (hc.balances.erase (a, d)).1
  rw [KeyMap.get?_erase_of_ne _ (by simp [hne])] at h₂
  rw [hw] at h₁ h₂
  have hrest : 0 ≤ ((l.balances.erase (a, d)).erase (a', d)).sumBy
      fun k v => if k.2 = d then v else 0 := by
    refine KeyMap.sumBy_nonneg fun e he => ?_
    have hpos := ((hc.balances.erase (a, d)).erase (a', d)).2 e he
    split <;> omega
  rw [hc.supplyOf_eq_total, total]
  simp only [balance]
  omega

/-- A positive coin moves when its denomination is valid, the source gives it up and the
destination takes it. -/
theorem send_one_iff {src dst d : String} {x : Int} (hx : 0 < x) :
    l.send src dst [Coin.of d x] = .ok k ↔
      Denom.fault? d = none ∧ ∃ l₁, l.debit src d x = .ok l₁ ∧ l₁.credit dst d x = .ok k := by
  constructor
  · intro h
    obtain ⟨x', hc, ⟨h0, -⟩ | ⟨-, l₁, l₂, hd, hcr, hs⟩⟩ := send_cons_eq_ok h
    · obtain ⟨hsome, -⟩ := checkCoin_eq_ok hc
      simp only [Coin.of, Option.some.injEq] at hsome
      omega
    · obtain rfl : x = x' := by simpa [Coin.of] using (checkCoin_eq_ok hc).1
      simp only [Ledger.send] at hs
      cases hs
      exact ⟨checkCoin_denom hc, l₁, hd, hcr⟩
  · rintro ⟨hd, l₁, h₁, h₂⟩
    rw [Ledger.send, checkCoin_of hd hx.le, Result.ok_bind, if_neg hx.ne']
    dsimp only [Coin.of]
    rw [h₁, Result.ok_bind, h₂, Result.ok_bind]
    rfl

/-- A coin sent from `a` to `r` and on from `r` to `p` could have gone from `a` to `p` at once,
leaving what the two moves leave. -/
theorem send_through {a r p d : String} {x : Int} {l₁ l₂ : Ledger} (hx : 0 < x)
    (h₁ : l.send a r [Coin.of d x] = .ok l₁) (h₂ : l₁.send r p [Coin.of d x] = .ok l₂) :
    ∃ k, l.send a p [Coin.of d x] = .ok k ∧ k.Agree l₂ := by
  obtain ⟨hd, a₁, hda, hcr⟩ := (send_one_iff hx).mp h₁
  obtain ⟨-, a₃, hdr, hcp⟩ := (send_one_iff hx).mp h₂
  -- the coin's stop at `r` cancels out, so `p` is credited on what the debit of `a` left
  obtain ⟨k, hk, hkk⟩ := (credit_debit_agree hcr hdr).credit hcp
  exact ⟨k, (send_one_iff hx).mpr ⟨hd, a₁, hda, hk⟩, hkk.symm⟩

/-- Conversely, in a conserved ledger whose supplies fit, a coin sent from `a` to `p` can stop at
any account `r` that keys a balance on the way: `r`'s balance has room for it, since `r` and `a`
hold at most the supply between them. -/
theorem send_via {a r p d : String} {x : Int} (hx : 0 < x) (hc : l.Conserved) (hf : l.SupplyFits)
    (hr : checkKey r = .ok ()) (h : l.send a p [Coin.of d x] = .ok k) :
    ∃ l₁ l₂, l.send a r [Coin.of d x] = .ok l₁ ∧ l₁.send r p [Coin.of d x] = .ok l₂ ∧
      k.Agree l₂ := by
  obtain ⟨hd, a₁, hda, hcp⟩ := (send_one_iff hx).mp h
  obtain ⟨hle, -, -⟩ := debit_eq_ok hda
  have e₁ := balance_debit hda r d
  have hfr := hc.balance_fits hf r d
  have h0 := balance_nonneg hc.balances r d
  -- after the debit of `a`, `r` holds between nothing and what it held, and room for the coin
  have hlo : 0 ≤ a₁.balance r d ∧ a₁.balance r d ≤ l.balance r d := by
    by_cases hra : a = r
    · rw [if_pos (by rw [hra])] at e₁
      rw [hra] at hle
      omega
    · rw [if_neg (by simp [hra])] at e₁
      omega
  have hroom : Int256.fits (a₁.balance r d + x) = true := by
    by_cases hra : a = r
    · rw [if_pos (by rw [hra])] at e₁
      rw [show a₁.balance r d + x = l.balance r d by omega]
      exact hfr
    · rw [if_neg (by simp [hra])] at e₁
      have hsum := hc.balance_add_le hra d
      have hs := hf d
      have h0a := balance_nonneg hc.balances a d
      simp only [Int256.fits, decide_eq_true_eq] at hs ⊢
      omega
  obtain ⟨a₂, hcr⟩ := credit_of_fits hr hroom
  have e₂ := balance_credit hcr r d
  rw [if_pos rfl] at e₂
  obtain ⟨a₃, hdr⟩ := debit_of_le (l := a₂) (d := d) (x := x) hr (by omega) (by
    rw [show a₂.balance r d - x = a₁.balance r d by omega]
    simp only [Int256.fits, decide_eq_true_eq] at hfr ⊢
    omega)
  obtain ⟨l₂, hl₂, hagree⟩ := (credit_debit_agree hcr hdr).symm.credit hcp
  exact ⟨a₂, l₂, (send_one_iff hx).mpr ⟨hd, a₁, hda, hcr⟩, (send_one_iff hx).mpr ⟨hd, a₃, hdr, hl₂⟩,
    hagree⟩

end Ledger

/-! ### Stakes on agreeing ledgers -/

namespace Staking

variable {s : Staking} {l l' : Ledger} {env env' : Env}

theorem accruePoints_agree (hl : l.Agree l') (he : env.now = env'.now) (a : String) (held : Int) :
    s.accruePoints l env a held = s.accruePoints l' env' a held := by
  simp only [accruePoints, pendingPoints, hl.balanceOf, he]

theorem currentRate_agree (hl : l.Agree l') (x y : Int) :
    s.currentRate l x y = s.currentRate l' x y := by
  simp only [currentRate, poolState, hl.balanceOf, hl.2]

theorem recipientOf_given {given : String} (h : given.isEmpty = false) (sender sender' : String) :
    recipientOf given sender = recipientOf given sender' := by
  simp only [recipientOf, h]
  rfl

/-- A stake for a given recipient reads the ledger through its balances and supplies, the block
through its time, and the sender only to name it in its event: on agreeing ledgers at the same
time, stakes from two senders leave the same staking state and the same effects. -/
theorem stake_agree (hl : l.Agree l') (he : env.now = env'.now) {toAddr : String}
    (ht : toAddr.isEmpty = false) (sender sender' : String) (funds : Coins) :
    (fun x => (x.1, x.2.effects)) <$> s.stake l env sender funds toAddr =
      (fun x => (x.1, x.2.effects)) <$> s.stake l' env' sender' funds toAddr := by
  simp only [stake, currentRate_agree hl, accruePoints_agree hl he,
    recipientOf_given ht sender sender', he, map_bind, Result.throw_bind,
    apply_ite (Functor.map (fun x : Staking × Response => (x.1, x.2.effects))), pure_bind, map_pure]

/-- So a stake that completes on one ledger completes on an agreeing one at the same time, from
any sender, with the same staking state and effects. -/
theorem stake_of_agree (hl : l.Agree l') (he : env.now = env'.now) {toAddr sender : String}
    {funds : Coins} {s' : Staking} {r : Response} (ht : toAddr.isEmpty = false)
    (h : s.stake l env sender funds toAddr = .ok (s', r)) (sender' : String) :
    ∃ r', s.stake l' env' sender' funds toAddr = .ok (s', r') ∧ r'.effects = r.effects := by
  obtain ⟨⟨s'', r'⟩, h', hx⟩ := Result.map_eq_ok.mp
    ((stake_agree hl he ht sender sender' funds).symm.trans (by rw [h]; rfl))
  simp only [Prod.mk.injEq] at hx
  obtain ⟨rfl, hE⟩ := hx
  exact ⟨r', h', hE⟩

theorem stake_emits_no_call {s' : Staking} {sender toAddr : String} {funds : Coins} {r : Response}
    (h : s.stake l env sender funds toAddr = .ok (s', r)) :
    ∀ f m, Effect.execute f m ∉ r.effects := by
  obtain ⟨_, _, _, _, -, -, -, ⟨-, -, he⟩ | ⟨-, -, he⟩⟩ := stake_eq_ok h <;> simp [he]

end Staking

/-! ### Redemptions with and without the stake flag -/

theorem Position.pendingPayout_lt {p : Position} {now : Instant} {x : Int}
    (h : p.pendingPayout now = .ok x) (hv : p.fullyVested now = false) (hp : 0 < p.payout) :
    x < p.payout := by
  rw [Position.pendingPayout_eq h hv hp.le]
  have hlt : p.lastTime.elapsed now < p.vestingTimeLeft := by simpa [Position.fullyVested] using hv
  have hvp : (0 : Int) < p.vestingTimeLeft := by omega
  rw [Int.ediv_lt_iff_lt_mul hvp]
  exact Int.mul_lt_mul_of_pos_left (by exact_mod_cast hlt) hp

/-- What a redemption delivers from a position with a positive payout is what the position has
pending, and positive: fully vested the whole payout goes, before that a pending part that is not
zero. -/
theorem Position.delivered_pos {pos : Position} {now : Instant} {d : Int} {P Q : Prop}
    (hpay : 0 < pos.payout)
    (hcase : (pos.fullyVested now = true ∧ d = pos.payout ∧ P) ∨
      (pos.fullyVested now = false ∧ pos.pendingPayout now = .ok d ∧ d ≠ 0 ∧ Q)) :
    pos.pendingPayout now = .ok d ∧ 0 < d := by
  rcases hcase with ⟨hf, rfl, -⟩ | ⟨-, hd, hd0, -⟩
  · exact ⟨by simp [Position.pendingPayout, hf], hpay⟩
  · exact ⟨hd, lt_of_le_of_ne (Position.pendingPayout_le hd hpay.le).1 (Ne.symm hd0)⟩

namespace Bond

variable {b b' : Bond}

theorem redeem_bond (s : Staking) (env : Env) (sender recipient : String) (stake : Bool) :
    Prod.fst <$> b.redeem s env sender recipient stake =
      Prod.fst <$> b.redeem s env sender recipient false := by
  unfold redeem
  dsimp only
  split
  · split <;> simp only [map_bind, map_pure, bind_pure_comp, Result.throw_bind,
      apply_ite (Functor.map (Prod.fst : Bond × Response → Bond)), Functor.map_map, id_map']
  · rfl

/-- A redemption that completes with one value of the stake flag completes with the other, leaving
the same bond. -/
theorem redeem_flag {s : Staking} {env : Env} {sender recipient : String} {stake : Bool}
    {r : Response} (h : b.redeem s env sender recipient stake = .ok (b', r)) (stake' : Bool) :
    ∃ r', b.redeem s env sender recipient stake' = .ok (b', r') := by
  obtain ⟨⟨b'', r'⟩, h', hb⟩ := Result.map_eq_ok.mp
    (((redeem_bond s env sender recipient stake').trans
      (redeem_bond s env sender recipient stake).symm).trans (by rw [h]; rfl))
  dsimp only at hb
  exact ⟨r', hb ▸ h'⟩

/-- A redemption for a recipient whose position holds a positive payout delivers what the position
has pending, a positive amount, staked for the recipient or sent to it. -/
theorem redeem_delivers {s : Staking} {env : Env} {sender recipient : String} {stake : Bool}
    {r : Response} {p : Position} (h : b.redeem s env sender recipient stake = .ok (b', r))
    (hrcp : recipient.isEmpty = false) (hp : b.positions.get? recipient = some p)
    (hpay : 0 < p.payout) :
    ∃ d, p.pendingPayout env.now = .ok d ∧ 0 < d ∧
      r.effects = if stake then [.execute [Coin.of s.config.baseDenom d] (.stake recipient)]
        else [.send bondAccount recipient [Coin.of s.config.baseDenom d]] := by
  obtain ⟨rcp, pos, d, hrcp', hpos, hcase, he⟩ := redeem_eq_ok h
  rw [hrcp, if_neg Bool.false_ne_true] at hrcp'
  subst hrcp'
  obtain rfl : pos = p := Option.some.inj (hpos.symm.trans hp)
  have hd := Position.delivered_pos hpay hcase
  exact ⟨d, hd.1, hd.2, by rw [he, if_pos hd.2]⟩

theorem deposit_depositor {o : Oracle} {s : Staking} {l : Ledger} {env : Env} {sender : String}
    {funds : Coins} {maxPrice : Option Dec} {depositor : String} {r : Response}
    (h : b.deposit o s l env sender funds maxPrice depositor = .ok (b', r)) :
    Address.fault? (if depositor.isEmpty = true then sender else depositor) = none := by
  unfold deposit at h
  simp -zeta only [Result.throw_bind] at h
  dsimp only at h
  rw [Result.bind_eq_ok] at h
  obtain ⟨amount, -, h⟩ := h
  split at h
  · cases h
  · rename_i hnone
    cases hf : Address.fault? (if depositor.isEmpty = true then sender else depositor) with
    | none => rfl
    | some f => exact (hnone f hf).elim

/-- Positions that can be redeemed into a stake: each belongs to an account address and holds a
positive payout; deposits must buy a positive payout, which keeps it so. -/
structure PositionsLive (b : Bond) : Prop where
  minPayout : 0 < b.config.minPayout
  live : ∀ a p, b.positions.get? a = some p → Address.fault? a = none ∧ 0 < p.payout

namespace PositionsLive

theorem deposit {o : Oracle} {s : Staking} {l : Ledger} {env : Env} {sender : String}
    {funds : Coins} {maxPrice : Option Dec} {depositor : String} {r : Response}
    (hb : b.PositionsLive)
    (h : b.deposit o s l env sender funds maxPrice depositor = .ok (b', r)) : b'.PositionsLive := by
  obtain ⟨amount, payout, dep, p, -, hpp, hpos, rfl, -, -, hmin, -⟩ := deposit_eq_ok h
  obtain ⟨b₂, -, -, -, -, -, -, -, hcfg, -, -, -, -, -, hstep, -⟩ := deposit_shape h
  have hcfg' : b'.config = b.config := by
    rcases stepAdjustment_eq_ok hstep with rfl | ⟨cv, rate, rfl, -⟩ <;> exact hcfg
  refine ⟨hcfg' ▸ hb.minPayout, fun a q hq => ?_⟩
  rw [hpos] at hq
  by_cases ha : (if depositor.isEmpty = true then sender else depositor) = a
  · -- the depositor's position: an address, and a payout grown by at least the minimum
    subst ha
    rw [KeyMap.get?_insert_self] at hq
    cases hq
    have hold : 0 ≤ (b.positions.getD (if depositor.isEmpty = true then sender else depositor)
        ⟨0, Dec.zero, 0, default⟩).payout := by
      unfold KeyMap.getD
      cases hg : b.positions.get? (if depositor.isEmpty = true then sender else depositor) with
      | none => exact le_rfl
      | some q => exact (hb.live _ q hg).2.le
    have := hb.minPayout
    exact ⟨deposit_depositor h, by omega⟩
  · rw [KeyMap.get?_insert_of_ne _ _ ha] at hq
    exact hb.live a q hq

theorem redeem {s : Staking} {env : Env} {sender recipient : String} {stake : Bool} {r : Response}
    (hb : b.PositionsLive) (h : b.redeem s env sender recipient stake = .ok (b', r)) :
    b'.PositionsLive := by
  obtain ⟨ps, rfl⟩ := redeem_frame h
  obtain ⟨rcp, pos, d, -, hpos, hcase, -⟩ := redeem_eq_ok h
  dsimp only at hcase
  obtain ⟨hrf, hpay⟩ := hb.live rcp pos hpos
  refine ⟨hb.minPayout, fun a q hq => ?_⟩
  by_cases ha : rcp = a
  · subst ha
    rcases hcase with ⟨-, -, hps⟩ | ⟨hv, hd, -, hps⟩
    · simp [hps, KeyMap.get?_erase_self] at hq
    · -- the rest of a position redeemed early is positive
      rw [hps, KeyMap.get?_insert_self] at hq
      cases hq
      exact ⟨hrf, by have := Position.pendingPayout_lt hd hv hpay; dsimp only; omega⟩
  · have hkeep : ps.get? a = b.positions.get? a := by
      rcases hcase with ⟨-, -, hps⟩ | ⟨-, -, -, hps⟩
      · rw [hps, KeyMap.get?_erase_of_ne _ ha]
      · rw [hps, KeyMap.get?_insert_of_ne _ _ ha]
    exact hb.live a q (hkeep ▸ hq)

theorem init {env : Env} {cfg : BondConfigInput} {t : TermsInput} {adj : Option AdjustmentInput}
    (h : Bond.init env cfg t adj = .ok b) : b.PositionsLive := by
  obtain ⟨hc, -, -, -⟩ := init_eq_ok h
  obtain ⟨-, -, -, -, m, -, hm, hcfg⟩ := BondConfigInput.validate_eq_ok_iff.mp hc
  refine ⟨by rw [hcfg]; exact hm, fun a q hq => ?_⟩
  rw [init_positions h] at hq
  simp at hq

theorem updateConfig {sender : String} {u : BondConfigUpdate} {r : Response} (hb : b.PositionsLive)
    (h : b.updateConfig sender u = .ok (b', r)) : b'.PositionsLive := by
  obtain ⟨c, cfg, hc, rfl, -⟩ := updateConfig_state h
  obtain ⟨-, -, -, -, m, -, hm, rfl⟩ := BondConfigInput.validate_eq_ok_iff.mp hc
  exact ⟨hm, hb.live⟩

end PositionsLive

end Bond

/-! ### The two ways through the host -/

namespace World

variable {w w' : World} {env env' : Env} {sender : String} {funds : Coins}

theorem dispatch_positionsLive {msg : ExecuteMsg} {resp : Response}
    (h : w.dispatch env sender funds msg = .ok (w', resp)) (hw : w.bond.PositionsLive) :
    w'.bond.PositionsLive := by
  cases msg <;>
    simp only [dispatch, Result.bind_eq_ok, Result.pure_eq_ok, Prod.exists, Prod.mk.injEq] at h
  case deposit =>
    obtain ⟨b, r, hb, rfl, -⟩ := h
    exact hw.deposit hb
  case redeem =>
    obtain ⟨b, r, hb, rfl, -⟩ := h
    exact hw.redeem hb
  case updateTerms =>
    obtain ⟨b, r, hb, rfl, -⟩ := h
    obtain ⟨t, -, rfl, -⟩ := Bond.updateTerms_state hb
    exact ⟨hw.minPayout, hw.live⟩
  case updateBondConfig =>
    obtain ⟨b, r, hb, rfl, -⟩ := h
    exact hw.updateConfig hb
  case updateAdjustment =>
    obtain ⟨b, r, hb, rfl, -⟩ := h
    obtain ⟨a, rfl, -⟩ := Bond.updateAdjustment_state hb
    exact ⟨hw.minPayout, hw.live⟩
  case mint =>
    obtain ⟨_, _, rfl, -⟩ := h
    exact hw
  all_goals
    obtain ⟨_, _, _, rfl, -⟩ := h
    exact hw

theorem dispatch_redeem {r : String} {stake : Bool} :
    w.dispatch env sender funds (.redeem r stake) =
      (fun x => ({ w with bond := x.1 }, x.2)) <$> w.bond.redeem w.staking env sender r stake := by
  simp only [dispatch]
  cases w.bond.redeem w.staking env sender r stake <;> rfl

/-- A call that stakes one positive coin moves the coin into the pool, stakes on the ledger that
leaves, and runs the effects of the stake. -/
theorem Runs.stake_iff {n : Nat} {d toAddr : String} {x : Int} (hx : 0 < x) {evs : List Event}
    {ms : List Move} :
    w.Runs (n+1) env sender [Coin.of d x] (.stake toAddr) w' evs ms ↔
      Address.fault? sender = none ∧ Coins.validate [Coin.of d x] = .ok none ∧
      ∃ l s resp evs' ms', w.ledger.send sender stakingAccount [Coin.of d x] = .ok l ∧
        w.staking.stake l env sender [Coin.of d x] toAddr = .ok (s, resp) ∧
        EffectsRun (fun w s f m => Runs n w env s f m) .staking
          { w with ledger := l, staking := s } resp.effects w' evs' ms' ∧
        evs = resp.events ++ evs' ∧ ms = .funds sender .staking [Coin.of d x] :: ms' := by
  have hz : Coins.isZero [Coin.of d x] = false := by simp [Coins.isZero, Coin.of, hx.ne']
  refine and_congr_right fun _ => and_congr_right fun _ => ⟨?_, ?_⟩
  · rintro ⟨w₁, w₂, resp, evs', ms', htf, hd, hrun, rfl, rfl⟩
    rw [takeFunds_of_isZero_false hz, Result.map_eq_ok] at htf
    obtain ⟨l, hl, rfl⟩ := htf
    rw [dispatch_stake, Result.map_eq_ok] at hd
    obtain ⟨⟨s, r⟩, hs, hx⟩ := hd
    cases hx
    exact ⟨l, s, r, evs', ms', hl, hs, hrun, rfl, by simp [fundsMoves, hz, ExecuteMsg.contract]⟩
  · rintro ⟨l, s, resp, evs', ms', hl, hs, hrun, rfl, rfl⟩
    refine ⟨{ w with ledger := l }, _, resp, evs', ms', ?_, ?_, hrun, rfl,
      by simp [fundsMoves, hz, ExecuteMsg.contract]⟩
    · rw [takeFunds_of_isZero_false hz]
      exact congrArg (Functor.map _) hl
    · rw [dispatch_stake]
      exact congrArg (Functor.map _) hs

/-- A redemption call moves the funds to the bond, redeems, and runs the effects of the
redemption. -/
theorem Runs.redeem_iff {n : Nat} {r : String} {stake : Bool} {evs : List Event}
    {ms : List Move} :
    w.Runs (n+1) env sender funds (.redeem r stake) w' evs ms ↔
      Address.fault? sender = none ∧ funds.validate = .ok none ∧
      ∃ l b resp evs' ms', w.takeFunds sender .bond funds = .ok { w with ledger := l } ∧
        w.bond.redeem w.staking env sender r stake = .ok (b, resp) ∧
        EffectsRun (fun w s f m => Runs n w env s f m) .bond { w with ledger := l, bond := b }
          resp.effects w' evs' ms' ∧
        evs = resp.events ++ evs' ∧ ms = fundsMoves sender .bond funds ++ ms' := by
  refine and_congr_right fun _ => and_congr_right fun _ => ⟨?_, ?_⟩
  · rintro ⟨w₁, w₂, resp, evs', ms', htf, hd, hrun, rfl, rfl⟩
    obtain ⟨l, -, rfl⟩ := takeFunds_eq_ok htf
    rw [dispatch_redeem, Result.map_eq_ok] at hd
    obtain ⟨⟨b, r⟩, hb, hx⟩ := hd
    cases hx
    exact ⟨l, b, r, evs', ms', htf, hb, hrun, rfl, rfl⟩
  · rintro ⟨l, b, resp, evs', ms', htf, hb, hrun, rfl, rfl⟩
    refine ⟨_, _, resp, evs', ms', htf, ?_, hrun, rfl, rfl⟩
    rw [dispatch_redeem]
    exact congrArg (Functor.map _) hb

/-- Effects that emit no call read the ledger only through their sends, mints and burns, so from
an agreeing ledger they run alike and leave an agreeing ledger. -/
theorem EffectsRun.agree
    {R R' : World → String → Coins → ExecuteMsg → World → List Event → List Move → Prop}
    {c : ContractName} {es : List Effect} {evs : List Event} {ms : List Move}
    (h : EffectsRun R c w es w' evs ms) (hno : ∀ f m, Effect.execute f m ∉ es) {l : Ledger}
    (hl : w.ledger.Agree l) :
    ∃ l', EffectsRun R' c { w with ledger := l } es { w' with ledger := l' } evs ms ∧
      w'.ledger.Agree l' := by
  induction h generalizing l with
  | nil w => exact ⟨l, .nil _, hl⟩
  | send hown hs _ ih =>
    obtain ⟨k, hk, hkk⟩ := hl.send hs
    obtain ⟨l', hrun, hl'⟩ := ih (fun f m hm => hno f m (List.mem_cons_of_mem _ hm)) hkk
    exact ⟨l', .send hown hk hrun, hl'⟩
  | mint hown hm _ ih =>
    obtain ⟨k, hk, hkk⟩ := hl.mint hm
    obtain ⟨l', hrun, hl'⟩ := ih (fun f m hm => hno f m (List.mem_cons_of_mem _ hm)) hkk
    exact ⟨l', .mint hown hk hrun, hl'⟩
  | burn hden hown hb _ ih =>
    obtain ⟨k, hk, hkk⟩ := hl.burn hb
    obtain ⟨l', hrun, hl'⟩ := ih (fun f m hm => hno f m (List.mem_cons_of_mem _ hm)) hkk
    exact ⟨l', .burn hden hown hk hrun, hl'⟩
  | execute _ _ _ => exact absurd List.mem_cons_self (hno _ _)

section Split

variable {n m : Nat} {r : String} {p : Position}

/-- A redemption into a stake, for a recipient with a live position and on a conserved ledger
whose supplies fit, splits into the plain redemption and the recipient's own stake of the
delivered coins, in any block of the same time. -/
theorem Runs.redeem_staked_split (env' : Env) {evs : List Event} {ms : List Move}
    (hl : w.ledger.Conserved ∧ w.ledger.SupplyFits) (hb : w.bond.PositionsLive)
    (hp : w.bond.positions.get? r = some p)
    (h : w.Runs (n+2) env sender funds (.redeem r true) w' evs ms) (he : env'.now = env.now) :
    ∃ d w₁ evs₁ ms₁ w₂ evs₂ ms₂, p.pendingPayout env.now = .ok d ∧
      w.Runs (n+2) env sender funds (.redeem r false) w₁ evs₁ ms₁ ∧
      w₁.Runs (m+1) env' r [Coin.of w.staking.config.baseDenom d] (.stake r) w₂ evs₂ ms₂ := by
  obtain ⟨hσ, hv, l, b, rs, evs', ms', htf, hred, hrun, rfl, rfl⟩ := Runs.redeem_iff.mp h
  obtain ⟨l', hml, hw⟩ := takeFunds_eq_ok htf
  obtain rfl : l = l' := congrArg World.ledger hw
  have hl₁ : l.Conserved ∧ l.SupplyFits :=
    Result.foldlM_preserves (P := fun l => l.Conserved ∧ l.SupplyFits) (f := Move.apply)
      (fun hm hp => ⟨hp.1.apply hm, hp.2.apply hm hp.1⟩) hml hl
  obtain ⟨hra, hpay⟩ := hb.live r p hp
  have ht := Address.isEmpty_of_fault hra
  obtain ⟨d, hpd, hd0, heff⟩ := Bond.redeem_delivers hred ht hp hpay
  rw [heff, if_pos rfl] at hrun
  cases hrun with
  | execute hR hnil =>
    cases hnil
    obtain ⟨-, hcv, L, st, rs₂, evs₃, ms₃, hL, hst, hrun₂, -, -⟩ := (Runs.stake_iff hd0).mp hR
    dsimp only [ContractName.account] at hL hst
    -- the coin can stop at the recipient on its way into the pool
    obtain ⟨l₁, l₂, hl₁r, hl₂, hLl⟩ :=
      Ledger.send_via hd0 hl₁.1 hl₁.2 (Address.checkKey_of_fault hra) hL
    -- the plain redemption leaves the same bond and sends the coin instead
    obtain ⟨rs', hred'⟩ := Bond.redeem_flag hred false
    obtain ⟨d', hpd', -, heff'⟩ := Bond.redeem_delivers hred' ht hp hpay
    obtain rfl : d = d' := Except.ok.inj (hpd.symm.trans hpd')
    rw [if_neg Bool.false_ne_true] at heff'
    -- the recipient's stake reads what the bond account's stake read
    obtain ⟨rs₃, hst', hE⟩ := Staking.stake_of_agree hLl he.symm ht hst r
    obtain ⟨l', hrunB, -⟩ := EffectsRun.agree hrun₂ (Staking.stake_emits_no_call hst) hLl
    have hsendB : EffectsRun (fun w s f m => Runs (n+1) w env s f m) .bond
        { w with ledger := l, bond := b } rs'.effects { w with ledger := l₁, bond := b } []
        [.send .bond bondAccount r [Coin.of w.staking.config.baseDenom d]] := by
      rw [heff']
      exact .send (by simp [ownsAccount, ContractName.account]) hl₁r (.nil _)
    exact ⟨d, _, _, _, _, _, _, hpd,
      Runs.redeem_iff.mpr ⟨hσ, hv, l, b, rs', _, _, htf, hred', hsendB, rfl, rfl⟩,
      (Runs.stake_iff hd0).mpr ⟨hra, hcv, l₂, st, rs₃, _, _, hl₂, hst', hE ▸ hrunB, rfl, rfl⟩⟩

/-- Conversely, the plain redemption followed by the recipient's stake of the delivered coins in a
block of the same time makes a redemption into a stake, which leaves the same world but for how
the ledger stores what it holds. -/
theorem Runs.redeem_staked_of_split {d : Int} {w₁ : World} {evs₁ evs₂ : List Event}
    {ms₁ ms₂ : List Move} (hb : w.bond.PositionsLive) (hp : w.bond.positions.get? r = some p)
    (hpd : p.pendingPayout env.now = .ok d)
    (h₁ : w.Runs (n+2) env sender funds (.redeem r false) w₁ evs₁ ms₁)
    (h₂ : w₁.Runs (m+1) env' r [Coin.of w.staking.config.baseDenom d] (.stake r) w' evs₂ ms₂)
    (he : env'.now = env.now) :
    ∃ l evs ms, w.Runs (n+2) env sender funds (.redeem r true) { w' with ledger := l } evs ms ∧
      w'.ledger.Agree l := by
  obtain ⟨hσ, hv, l, b, rs, evs', ms', htf, hred, hrun, rfl, rfl⟩ := Runs.redeem_iff.mp h₁
  obtain ⟨hra, hpay⟩ := hb.live r p hp
  have ht := Address.isEmpty_of_fault hra
  obtain ⟨d', hpd', hd0, heff⟩ := Bond.redeem_delivers hred ht hp hpay
  obtain rfl : d = d' := Except.ok.inj (hpd.symm.trans hpd')
  rw [heff, if_neg Bool.false_ne_true] at hrun
  cases hrun with
  | send _ hL₁ hnil =>
    cases hnil
    obtain ⟨-, hcv, L₂, st, rs₂, evs₃, ms₃, hL₂, hst, hrun₂, -, -⟩ := (Runs.stake_iff hd0).mp h₂
    dsimp only at hL₁ hL₂ hst
    -- the coin could have gone into the pool at once
    obtain ⟨k, hk, hkk⟩ := Ledger.send_through hd0 hL₁ hL₂
    -- the redemption into a stake leaves the same bond and asks for the stake instead
    obtain ⟨rsT, hredT⟩ := Bond.redeem_flag hred true
    obtain ⟨d', hpd', -, heffT⟩ := Bond.redeem_delivers hredT ht hp hpay
    obtain rfl : d = d' := Except.ok.inj (hpd.symm.trans hpd')
    rw [if_pos rfl] at heffT
    -- the bond account's stake reads what the recipient's stake read
    obtain ⟨rs₃, hst', hE⟩ := Staking.stake_of_agree hkk.symm he ht hst bondAccount
    obtain ⟨l', hrunA, hl'⟩ := EffectsRun.agree hrun₂ (Staking.stake_emits_no_call hst) hkk.symm
    have hexecA : EffectsRun (fun w s f m => Runs (n+1) w env s f m) .bond
        { w with ledger := l, bond := b } rsT.effects { w' with ledger := l' }
        (rs₃.events ++ evs₃ ++ [])
        (.funds bondAccount .staking [Coin.of w.staking.config.baseDenom d] :: ms₃ ++ []) := by
      rw [heffT]
      exact .execute ((Runs.stake_iff hd0).mpr
        ⟨bondAccount_valid, hcv, k, st, rs₃, _, _, hk, hst', hE ▸ hrunA, rfl, rfl⟩) (.nil _)
    exact ⟨l', _, _, Runs.redeem_iff.mpr ⟨hσ, hv, l, b, rsT, _, _, htf, hredT, hexecA, rfl, rfl⟩,
      hl'⟩

end Split

end World

/-! ### On the chain -/

namespace Chain

variable {admits : Call → Prop} {c : Chain}

theorem Reachable.positionsLive (hc : c.Reachable admits) (hi : c.instantiated = true) :
    c.world.bond.PositionsLive := by
  refine Reachable.induction (P := fun c => c.instantiated = true → c.world.bond.PositionsLive)
    (fun h => by cases h) (fun _ h _ => Bond.PositionsLive.init (instantiate_eq_ok h).2.2.2.2)
    (fun _ _ hs hi hrun _ => World.Runs.keeps (Q := fun w => w.bond.PositionsLive) (fun _ _ h => h)
      (fun hd hw => World.dispatch_positionsLive hd hw) hrun (hs hi))
    (fun _ _ hs hi _ _ => hs hi) hc hi

/-- Redeeming into a stake is redeeming and then staking. On every reachable chain, for a
recipient with a position, the redemption with the stake flag completes exactly when the plain
redemption completes and the recipient's stake, for itself and in a block of the same time, of the
base tokens the position releases then completes too; and the two ways leave the same balances,
supplies, bond, staking state and oracle. -/
theorem staked_redeem_as_redeem_then_stake (hc : c.Reachable admits) {now : Instant}
    {sender r : String} {funds : Coins} {p : Position}
    (hp : c.world.bond.positions.get? r = some p) :
    ((∃ c₁ evs, c.execute now sender funds (.redeem r true) = .ok (c₁, evs)) ↔
      ∃ d c₁ evs₁ c₂ evs₂, p.pendingPayout now = .ok d ∧
        c.execute now sender funds (.redeem r false) = .ok (c₁, evs₁) ∧
        c₁.execute now r [Coin.of c.world.staking.config.baseDenom d] (.stake r) = .ok (c₂, evs₂)) ∧
    ∀ c₁ evs d c₁' evs₁ c₂ evs₂, c.execute now sender funds (.redeem r true) = .ok (c₁, evs) →
      p.pendingPayout now = .ok d →
      c.execute now sender funds (.redeem r false) = .ok (c₁', evs₁) →
      c₁'.execute now r [Coin.of c.world.staking.config.baseDenom d] (.stake r) = .ok (c₂, evs₂) →
      (∀ a dn, c₂.world.ledger.balance a dn = c₁.world.ledger.balance a dn) ∧
      (∀ dn, c₂.world.ledger.supplyOf dn = c₁.world.ledger.supplyOf dn) ∧
      c₂.world.bond = c₁.world.bond ∧ c₂.world.staking = c₁.world.staking ∧
      c₂.world.oracle = c₁.world.oracle := by
  -- a position exists only after genesis
  have hi : c.instantiated = true := by
    cases hg : c.genesisTime with
    | some t => simp [instantiated, hg]
    | none =>
      rw [hc.eq_empty hg] at hp
      cases hp
  have hb := hc.positionsLive hi
  have hl : c.world.ledger.Conserved ∧ c.world.ledger.SupplyFits :=
    hc.ledger (P := fun l => l.Conserved ∧ l.SupplyFits) ⟨Ledger.conserved_empty, fun _ => rfl⟩
      (fun hm hp => ⟨hp.1.apply hm, hp.2.apply hm hp.1⟩)
  refine ⟨⟨?_, ?_⟩, ?_⟩
  · rintro ⟨c₁, evs, h⟩
    obtain ⟨-, w, ms, hrun, rfl⟩ := execute_eq_ok.mp h
    obtain ⟨d, w₁, evs₁, ms₁, w₂, evs₂, ms₂, hpd, h₁, h₂⟩ :=
      World.Runs.redeem_staked_split (n := 7) (m := 8) ⟨now, c.height + 1 + 1⟩ hl hb hp hrun rfl
    exact ⟨d, _, evs₁, _, evs₂, hpd, execute_eq_ok.mpr ⟨hi, w₁, ms₁, h₁, rfl⟩,
      execute_eq_ok.mpr ⟨hi, w₂, ms₂, h₂, rfl⟩⟩
  · rintro ⟨d, c₁, evs₁, c₂, evs₂, hpd, h₁, h₂⟩
    obtain ⟨-, w₁, ms₁, hrun₁, rfl⟩ := execute_eq_ok.mp h₁
    obtain ⟨-, w₂, ms₂, hrun₂, rfl⟩ := execute_eq_ok.mp h₂
    obtain ⟨l, evs, ms, hrun, -⟩ :=
      World.Runs.redeem_staked_of_split (n := 7) (m := 8) hb hp hpd hrun₁ hrun₂ rfl
    exact ⟨_, evs, execute_eq_ok.mpr ⟨hi, _, ms, hrun, rfl⟩⟩
  · intro c₁ evs d c₁' evs₁ c₂ evs₂ h hpd h₁ h₂
    obtain ⟨-, w₁, ms₁, hrun₁, rfl⟩ := execute_eq_ok.mp h₁
    obtain ⟨-, w₂, ms₂, hrun₂, rfl⟩ := execute_eq_ok.mp h₂
    obtain ⟨l, evs', ms, hrun, hagree⟩ :=
      World.Runs.redeem_staked_of_split (n := 7) (m := 8) hb hp hpd hrun₁ hrun₂ rfl
    -- a call is a function of the chain, so the staked redemption left the world just built
    have h' := execute_eq_ok.mpr ⟨hi, _, ms, hrun, rfl⟩
    rw [h] at h'
    obtain ⟨rfl, -⟩ := Prod.mk.inj (Except.ok.inj h')
    exact ⟨hagree.1, hagree.2, rfl, rfl, rfl⟩

theorem staked_redeem_bonded :
    bondedAtZero.Reachable (fun _ => True) ∧
    bondedAtZero.world.bond.positions.get? bondHolder =
      some ⟨5000, ⟨5 * Int.pow 10 18⟩, 3600, ⟨0, 0, 0⟩⟩ ∧
    ((∃ c₁ evs, bondedAtZero.execute ⟨1800, 0, 0⟩ bondHolder [] (.redeem bondHolder true) =
        .ok (c₁, evs)) ↔
      ∃ d c₁ evs₁ c₂ evs₂,
        Position.pendingPayout ⟨5000, ⟨5 * Int.pow 10 18⟩, 3600, ⟨0, 0, 0⟩⟩ ⟨1800, 0, 0⟩ = .ok d ∧
        bondedAtZero.execute ⟨1800, 0, 0⟩ bondHolder [] (.redeem bondHolder false) =
          .ok (c₁, evs₁) ∧
        c₁.execute ⟨1800, 0, 0⟩ bondHolder
          [Coin.of bondedAtZero.world.staking.config.baseDenom d] (.stake bondHolder) =
          .ok (c₂, evs₂)) ∧
    ∀ c₁ evs d c₁' evs₁ c₂ evs₂,
      bondedAtZero.execute ⟨1800, 0, 0⟩ bondHolder [] (.redeem bondHolder true) = .ok (c₁, evs) →
      Position.pendingPayout ⟨5000, ⟨5 * Int.pow 10 18⟩, 3600, ⟨0, 0, 0⟩⟩ ⟨1800, 0, 0⟩ = .ok d →
      bondedAtZero.execute ⟨1800, 0, 0⟩ bondHolder [] (.redeem bondHolder false) = .ok (c₁', evs₁) →
      c₁'.execute ⟨1800, 0, 0⟩ bondHolder
        [Coin.of bondedAtZero.world.staking.config.baseDenom d] (.stake bondHolder) =
        .ok (c₂, evs₂) →
      (∀ a dn, c₂.world.ledger.balance a dn = c₁.world.ledger.balance a dn) ∧
      (∀ dn, c₂.world.ledger.supplyOf dn = c₁.world.ledger.supplyOf dn) ∧
      c₂.world.bond = c₁.world.bond ∧ c₂.world.staking = c₁.world.staking ∧
      c₂.world.oracle = c₁.world.oracle :=
  have hc : bondedAtZero.Reachable (fun _ => True) := .step _ trivial (.step _ trivial .empty)
  have hp : bondedAtZero.world.bond.positions.get? bondHolder =
      some ⟨5000, ⟨5 * Int.pow 10 18⟩, 3600, ⟨0, 0, 0⟩⟩ := by
    decide +kernel
  ⟨hc, hp, staked_redeem_as_redeem_then_stake hc hp⟩

end Chain

end Bonding

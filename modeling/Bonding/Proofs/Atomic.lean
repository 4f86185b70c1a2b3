import Mathlib
import Bonding.Proofs.Commit
set_option autoImplicit false

/-!
Calls are all or nothing. A session runs each call as one transaction of the store: the call
reads the committed chain through it, and only a call that succeeds stages the chain it leaves,
the state of every contract and the host's record of the new height, and commits it. A commit
writes its batch at once or, when the write fails, not at all. So a call that fails, in its
handler, in an effect, in a call an effect makes or in the final write, leaves the committed chain
as it was, and a call that commits leaves the chain its run computed, at the next height.
-/

namespace Bonding

namespace Transaction

variable {ε σ : Type} {t : Transaction ε} {write : σ → ε → σ} {s : σ}

@[simp] theorem view_put (e : ε) : (t.put e).view write s = write (t.view write s) e := by
  simp [view, put, List.foldl_append]

@[simp] theorem done_begin : (begin : Transaction ε).done = false := rfl

@[simp] theorem done_put (e : ε) : (t.put e).done = t.done := rfl

/-- A commit goes through exactly when the transaction is open and the write does not fail; it
then writes what the transaction reads. -/
theorem commit_eq_ok {fault : Option String} {s' : σ} :
    (t.commit write s fault).2 = .ok s' ↔ t.done = false ∧ fault = none ∧ s' = t.view write s := by
  unfold commit
  cases t.done <;> cases fault <;> simp [eq_comm]

end Transaction

namespace Chain

/-- Staging the chain a call leaves makes any transaction read that chain, whatever the committed
chain is: every part of it is written. -/
@[simp] theorem view_stage (t : Transaction Entry) (c c₀ : Chain) :
    (c.stage t).view write c₀ = c := by
  simp only [stage, List.foldl_cons, List.foldl_nil, Transaction.view_put, write]

@[simp] theorem done_stage (t : Transaction Entry) (c : Chain) : (c.stage t).done = t.done := by
  simp [stage]

end Chain

namespace Session

@[simp] theorem record_chain (s : Session) (r : Receipt) : (s.record r).chain = s.chain := by
  unfold record
  split <;> rfl

end Session

end Bonding

import Mathlib
import Bonding.Proofs.Epoch
import Bonding.Proofs.Settings
set_option autoImplicit false

/-!
Deadlines grow with their configured length. Four places add a configured number of seconds to an
instant: the unlock time a warmup stake sets, the end of the buffer an adjustment waits, the
freshness limit of an oracle quote and the end of the first epoch. Each turns the seconds into a
signed 64-bit count of nanoseconds and moves the instant by it. While that count fits, the deadline
lies never before the instant and never before the deadline of a shorter length: a longer warmup
never unlocks earlier, a longer trust period never turns a fresh quote stale and a longer buffer
never lets an adjustment step fire sooner. From 9223372037 seconds on the count wraps around, and
the deadline lands about 292 years before the instant.
-/

namespace Bonding

namespace Instant

theorem add_before_add {t : Instant} {d d' : Int} (h : d ≤ d') :
    (t.add d').before (t.add d) = false := by
  simp only [add, before_eq_false, second]
  omega

theorem add_before_self {t : Instant} {d : Int} (h : 0 ≤ d) : (t.add d).before t = false := by
  simp only [add, before_eq_false, second]
  omega

theorem before_eq_false_trans {a b c : Instant} (hab : a.before b = false)
    (hbc : b.before c = false) : a.before c = false := by
  rw [before_eq_false] at *
  omega

end Instant

namespace Duration

theorem ofSeconds_nonneg {s : Nat} (hfit : s * Instant.second < 2 ^ 63) : 0 ≤ ofSeconds s := by
  rw [ofSeconds_of_lt hfit]
  positivity

theorem ofSeconds_mono {s s' : Nat} (h : s ≤ s') (hfit : s' * Instant.second < 2 ^ 63) :
    ofSeconds s ≤ ofSeconds s' := by
  have hle : s * Instant.second ≤ s' * Instant.second := Nat.mul_le_mul_right _ h
  rw [ofSeconds_of_lt (lt_of_le_of_lt hle hfit), ofSeconds_of_lt hfit]
  exact_mod_cast hle

end Duration

/-! ### The four deadlines -/

theorem Quote.isFresh_mono {q : Quote} {now : Instant} {p p' : Nat} (h : p ≤ p')
    (hfit : p' * Instant.second < 2 ^ 63) (hq : q.isFresh now p = true) : q.isFresh now p' = true := by
  have hle := Duration.ofSeconds_mono h hfit
  simp only [Quote.isFresh, Bool.and_eq_true, Bool.not_eq_true'] at hq ⊢
  exact ⟨Instant.before_eq_false_trans (Instant.add_before_add hle) hq.1,
    Instant.before_eq_false_trans (Instant.add_before_add hle) hq.2⟩

/-- Whether an adjustment step at `now` moves the control variable: the adjustment has a rate and
its buffer has passed. -/
def Adjustment.due (a : Adjustment) (now : Instant) : Bool :=
  !a.rate.isZero && !now.before (a.lastTime.add (Duration.ofSeconds a.buffer))

theorem Bond.stepAdjustment_of_not_due {b : Bond} {env : Env} (h : b.adjustment.due env.now = false) :
    b.stepAdjustment env = .ok b := by
  simp only [Adjustment.due, Bool.and_eq_false_iff, Bool.not_eq_false'] at h
  unfold Bond.stepAdjustment
  rw [if_pos (by simpa using h)]
  rfl

theorem Adjustment.due_of_buffer_le {a : Adjustment} {now : Instant} {k k' : Nat} (h : k ≤ k')
    (hfit : k' * Instant.second < 2 ^ 63) (hd : ({ a with buffer := k' } : Adjustment).due now = true) :
    ({ a with buffer := k } : Adjustment).due now = true := by
  simp only [due, Bool.and_eq_true, Bool.not_eq_true'] at hd ⊢
  refine ⟨hd.1, ?_⟩
  rw [Instant.before_eq_false] at hd ⊢
  have hmono := Instant.add_before_add (t := a.lastTime) (Duration.ofSeconds_mono h hfit)
  rw [Instant.before_eq_false] at hmono
  omega

/-- A stake with a warmup leaves the recipient an entry that unlocks the warmup length after the
block time. -/
theorem Staking.stake_unlockTime {s s' : Staking} {l : Ledger} {env : Env} {sender toAddr : String}
    {funds : Coins} {r : Response} (hw : s.config.warmupLength ≠ 0)
    (h : s.stake l env sender funds toAddr = .ok (s', r)) :
    ∃ rcp w, recipientOf toAddr sender = .ok rcp ∧ s'.warmups.get? rcp = some w ∧
      w.unlockTime = env.now.add (Duration.ofSeconds s.config.warmupLength) := by
  simp only [stake, Result.bind_eq_ok] at h
  obtain ⟨amount, -, rcp, hrcp, rate, -, minted, -, h⟩ := h
  split at h
  · cases h
  simp only [Result.bind_eq_ok] at h
  obtain ⟨s₁, hs₁, h⟩ := h
  obtain ⟨pts, rfl⟩ := accruePoints_eq_ok hs₁
  simp only [Result.pure_eq_ok] at h
  obtain ⟨p, -, m, -, s₂, hs₂, _, rfl, h⟩ := h
  simp only [Prod.mk.injEq] at h
  obtain ⟨rfl, -⟩ := h
  obtain rfl := setWarmup_eq_ok hs₂
  exact ⟨rcp, _, hrcp, KeyMap.get?_insert_self _ _ _, rfl⟩

theorem Staking.init_epoch_stop {env : Env} {g : StakingGenesis} {s : Staking}
    (hu : g.firstEpochEnd.isUnset = true) (h : Staking.init env g = .ok s) :
    s.config.epochLength = g.config.epochLength ∧
      s.epoch.stop = env.now.add (Duration.ofSeconds g.config.epochLength) := by
  have hcfg := init_config h
  obtain ⟨apr, -, hc⟩ := StakingConfigInput.validate_eq_ok hcfg
  simp only [init, Result.bind_eq_ok] at h
  obtain ⟨cfg, hc', he⟩ := h
  rw [hcfg] at hc'
  cases hc'
  rw [setEpoch_eq_ok he, hc]
  simp [hu]

/-- Deadlines grow with their configured length, while the length fits the nanosecond word. A
block time `t` plus `s` seconds is never before `t`, and plus `s' ≥ s` seconds never before plus
`s`. These are the deadlines of the contracts: a stake with a warmup of `s` seconds at `t` leaves an
entry unlocking at `t` plus `s`, and a genesis without a first epoch end at `t` ends the first epoch
at `t` plus its length; a quote fresh at `t` under a trust period of `s` is fresh under `s'`, and an
adjustment step due at `t` with a buffer of `s'` is due with a buffer of `s`. -/
theorem deadlines_grow_with_length (t : Instant) {s s' : Nat} (hs : s ≤ s')
    (hfit : s' * Instant.second < 2 ^ 63) :
    (t.add (Duration.ofSeconds s)).before t = false ∧
    (t.add (Duration.ofSeconds s')).before (t.add (Duration.ofSeconds s)) = false ∧
    (∀ (st st' : Staking) (l : Ledger) (env : Env) (sender toAddr : String) (funds : Coins)
      (r : Response), env.now = t → st.config.warmupLength = s → s ≠ 0 →
      st.stake l env sender funds toAddr = .ok (st', r) →
      ∃ rcp w, Staking.recipientOf toAddr sender = .ok rcp ∧ st'.warmups.get? rcp = some w ∧
        w.unlockTime = t.add (Duration.ofSeconds s)) ∧
    (∀ (env : Env) (g : StakingGenesis) (st : Staking), env.now = t → g.config.epochLength = s →
      g.firstEpochEnd.isUnset = true → Staking.init env g = .ok st →
      st.epoch.stop = t.add (Duration.ofSeconds s)) ∧
    (∀ q : Quote, q.isFresh t s = true → q.isFresh t s' = true) ∧
    (∀ a : Adjustment, ({ a with buffer := s' } : Adjustment).due t = true →
      ({ a with buffer := s } : Adjustment).due t = true) := by
  have hle := Duration.ofSeconds_mono hs hfit
  have hfit' : s * Instant.second < 2 ^ 63 := lt_of_le_of_lt (Nat.mul_le_mul_right _ hs) hfit
  refine ⟨Instant.add_before_self (Duration.ofSeconds_nonneg hfit'), Instant.add_before_add hle,
    ?_, ?_, fun q => Quote.isFresh_mono hs hfit, fun a => Adjustment.due_of_buffer_le hs hfit⟩
  · intro st st' l env sender toAddr funds r hnow hw hs0 h
    obtain ⟨rcp, w, hrcp, hget, hu⟩ := Staking.stake_unlockTime (hw ▸ hs0) h
    exact ⟨rcp, w, hrcp, hget, by rw [hu, hw, hnow]⟩
  · intro env g st hnow hlen hu h
    rw [(Staking.init_epoch_stop hu h).2, hlen, hnow]

def newYear : Instant := ⟨1704067200, 0, 0⟩

theorem deadlines_grow_with_length_minute :
    (60 ≤ 600 ∧ 600 * Instant.second < 2 ^ 63) ∧
    (newYear.add (Duration.ofSeconds 60)).before newYear = false ∧
    (newYear.add (Duration.ofSeconds 600)).before (newYear.add (Duration.ofSeconds 60)) = false ∧
    (∀ (st st' : Staking) (l : Ledger) (env : Env) (sender toAddr : String) (funds : Coins)
      (r : Response), env.now = newYear → st.config.warmupLength = 60 → 60 ≠ 0 →
      st.stake l env sender funds toAddr = .ok (st', r) →
      ∃ rcp w, Staking.recipientOf toAddr sender = .ok rcp ∧ st'.warmups.get? rcp = some w ∧
        w.unlockTime = newYear.add (Duration.ofSeconds 60)) ∧
    (∀ (env : Env) (g : StakingGenesis) (st : Staking), env.now = newYear →
      g.config.epochLength = 60 → g.firstEpochEnd.isUnset = true → Staking.init env g = .ok st →
      st.epoch.stop = newYear.add (Duration.ofSeconds 60)) ∧
    (∀ q : Quote, q.isFresh newYear 60 = true → q.isFresh newYear 600 = true) ∧
    (∀ a : Adjustment, ({ a with buffer := 600 } : Adjustment).due newYear = true →
      ({ a with buffer := 60 } : Adjustment).due newYear = true) :=
  ⟨by decide, deadlines_grow_with_length newYear (by decide) (by decide)⟩

/-- Past the word the count wraps. A quote updated at the block time is fresh under a trust period
of 9223372036 seconds and stale under one of 9223372037 seconds, whose deadline lies before the
block time. -/
theorem trust_period_wraps_stale :
    (⟨none, newYear, newYear⟩ : Quote).isFresh newYear 9223372036 = true ∧
    (⟨none, newYear, newYear⟩ : Quote).isFresh newYear 9223372037 = false ∧
    (newYear.add (Duration.ofSeconds 9223372037)).before newYear = true := by
  decide

end Bonding

import Mathlib
import Bonding.Proofs.Staking
set_option autoImplicit false

/-!
Epochs move past the block time. When the running epoch is over, the next one starts where it
ended and, when that one would be over too, moves on by whole epoch lengths: it ends past the block
time, a positive whole number of lengths after the old end, and lasts one length. So a rebase mints
the yield of a lagging clock once, and every rebase before the new end does nothing.

This holds while spans stay inside the signed 64-bit nanosecond range of durations (epoch lengths
and lags below about 292 years) and the epoch number below the largest word. The lengths skipped
are counted from whole Unix seconds, so an old end with a fraction of a second later in its second
than the block time's can make the new epoch start after the block time; with whole-second ends it
starts by then.
-/

namespace Bonding

namespace Duration

theorem wrap_of_lt {x : Int} (hlo : -(2 ^ 63) ≤ x) (hhi : x < 2 ^ 63) : wrap x = x := by
  unfold wrap
  apply Int.bmod_eq_of_le_mul_two
  · show -((Nat.pow 2 64 : Nat) : Int) ≤ x * 2
    norm_num
    omega
  · show x * 2 < ((Nat.pow 2 64 : Nat) : Int)
    norm_num
    omega

theorem ofSeconds_of_lt {n : Nat} (h : n * Instant.second < 2 ^ 63) :
    ofSeconds n = n * (Instant.second : Int) := by
  have h' : (n : Int) * Instant.second < 2 ^ 63 := by exact_mod_cast h
  have h0 : (0 : Int) ≤ n * Instant.second := by positivity
  exact wrap_of_lt (by omega) h'

theorem neg_ofSeconds_of_lt {n : Nat} (h : n * Instant.second < 2 ^ 63) :
    neg (ofSeconds n) = -n * (Instant.second : Int) := by
  have h' : (n : Int) * Instant.second < 2 ^ 63 := by exact_mod_cast h
  have h0 : (0 : Int) ≤ n * Instant.second := by positivity
  rw [ofSeconds_of_lt h, neg, Int.neg_mul]
  exact wrap_of_lt (by omega) (by omega)

end Duration

theorem wordMod_of_lt {n : Int} (h0 : 0 ≤ n) (h : n < 2 ^ 64) : (wordMod n : Int) = n := by
  unfold wordMod
  rw [Int.emod_eq_of_lt h0 (by simpa using h), Int.toNat_of_nonneg h0]

namespace Instant

theorem before_eq_false {a b : Instant} :
    a.before b = false ↔ b.unix < a.unix ∨ (a.unix = b.unix ∧ b.nanos ≤ a.nanos) := by
  simp only [before, Bool.or_eq_false_iff, decide_eq_false_iff_not, Bool.and_eq_false_imp,
    beq_iff_eq]
  omega

theorem before_eq_true {a b : Instant} :
    a.before b = true ↔ a.unix < b.unix ∨ (a.unix = b.unix ∧ a.nanos < b.nanos) := by
  simp [before]

theorem add_seconds {t : Instant} (ht : t.nanos < second) (k : Int) :
    t.add (k * second) = t.addSeconds k := by
  have hs : (0 : Int) < second := by decide
  simp only [add, addSeconds, Instant.mk.injEq, and_true]
  constructor
  · rw [Int.add_mul_ediv_right _ _ hs.ne', Int.ediv_eq_zero_of_lt (by omega) (by exact_mod_cast ht)]
    omega
  · rw [Int.add_mul_emod_self_right, Int.emod_eq_of_lt (by omega) (by exact_mod_cast ht)]
    simp

@[simp] theorem addSeconds_zero (t : Instant) : t.addSeconds 0 = t := by
  simp [addSeconds]

@[simp] theorem nanos_addSeconds (t : Instant) (k : Int) : (t.addSeconds k).nanos = t.nanos := rfl

@[simp] theorem unix_addSeconds (t : Instant) (k : Int) : (t.addSeconds k).unix = t.unix + k := rfl

theorem addSeconds_addSeconds (t : Instant) (j k : Int) :
    (t.addSeconds j).addSeconds k = t.addSeconds (j + k) := by
  simp only [addSeconds, Int.add_assoc]

/-- From an instant to one not before it, the elapsed seconds are the difference of the whole
seconds, when it fits a word. -/
theorem elapsed_of_not_before {a b : Instant} (hb : b.before a = false)
    (hlt : b.unix - a.unix < 2 ^ 64) : (a.elapsed b : Int) = b.unix - a.unix := by
  rw [before_eq_false] at hb
  unfold elapsed
  split
  · exact wordMod_of_lt (by omega) hlt
  · rename_i hab
    rw [Bool.not_eq_true, before_eq_false] at hab
    simp only [Nat.cast_zero]
    omega

end Instant

namespace EpochState

/-- The epoch after `e` at `now` starts a whole number `j` of lengths past the end of `e`, on a
second no later than `now`'s, and ends one length later, past `now`. -/
theorem advance_shape {e : EpochState} {L : Nat} {now : Instant} (hL : 0 < L)
    (hdue : now.before e.stop = false) (hs : e.stop.nanos < Instant.second)
    (hlen : L * Instant.second < 2 ^ 63)
    (hlag : (now.unix - e.stop.unix) * Instant.second < 2 ^ 63) (hnum : e.number + 1 < 2 ^ 64) :
    ∃ j : Nat,
      e.advance L now = ⟨e.stop.addSeconds (j * L : Nat), e.stop.addSeconds ((j + 1) * L : Nat),
        e.number + 1⟩ ∧
      e.stop.unix + (j * L : Nat) ≤ now.unix ∧
      now.before (e.stop.addSeconds ((j + 1) * L : Nat)) = true := by
  have hnum' : wordMod ((e.number : Int) + 1) = e.number + 1 := by
    have := wordMod_of_lt (n := (e.number : Int) + 1) (by positivity) (by exact_mod_cast hnum)
    omega
  have hnext : e.stop.add (Duration.ofSeconds L) = e.stop.addSeconds L := by
    rw [Duration.ofSeconds_of_lt hlen]
    exact Instant.add_seconds hs L
  -- `now` is not before the end, so the lag is a non-negative number of seconds
  have hback : 0 ≤ now.unix - e.stop.unix := by
    have := Instant.before_eq_false.mp hdue
    omega
  have hlag' : now.unix - e.stop.unix < 2 ^ 63 :=
    lt_of_le_of_lt (le_mul_of_one_le_right hback (by decide)) hlag
  unfold advance
  simp only [hnext, hnum']
  split
  · -- the epoch after `e` is still running at `now`
    rename_i hrun
    refine ⟨0, by simp, ?_, by simpa using hrun⟩
    rw [Instant.before_eq_false] at hdue
    simp only [Nat.zero_mul, Nat.cast_zero, Int.add_zero]
    omega
  · -- behind by `d` seconds past the next end, it skips `d / L + 1` more lengths
    rename_i hover
    have hover' : now.before (e.stop.addSeconds L) = false := by simpa using hover
    set d := (e.stop.addSeconds L).elapsed now with hd_def
    have hd : (d : Int) = now.unix - e.stop.unix - L := by
      rw [hd_def, Instant.elapsed_of_not_before hover' (by simp only [Instant.unix_addSeconds]; omega)]
      simp only [Instant.unix_addSeconds]
      omega
    -- `d` holds `q` whole lengths and less than one more
    set q := d / L with hq_def
    have hq : q * L ≤ d := Nat.div_mul_le_self d L
    have hq' : d < (q + 1) * L := by
      have hdm : L * q + d % L = d := Nat.div_add_mod d L
      have hmod : d % L < L := Nat.mod_lt d hL
      rw [Nat.add_mul, Nat.one_mul, Nat.mul_comm q L]
      omega
    have hqI : ((q : Int) + 1) * L ≤ now.unix - e.stop.unix := by
      have : ((q * L : Nat) : Int) ≤ d := by exact_mod_cast hq
      push_cast at this
      rw [Int.add_mul, Int.one_mul]
      omega
    have hskip : ((q + 1) * L * Instant.second : Nat) < (2 ^ 63 : Int) := by
      have h0 : (0 : Int) ≤ Instant.second := by positivity
      have := Int.mul_le_mul_of_nonneg_right hqI h0
      push_cast
      omega
    have hbL' : (q + 1) * L ≤ (q + 1) * L * Instant.second := Nat.le_mul_of_pos_right _ (by decide)
    have hbehind : wordMod ((q : Int) + 1) = q + 1 := by
      have h1 : q + 1 ≤ (q + 1) * L * Instant.second := (Nat.le_mul_of_pos_right _ hL).trans hbL'
      have h1' : ((q : Int) + 1) ≤ ((q + 1) * L * Instant.second : Nat) := by exact_mod_cast h1
      have := wordMod_of_lt (n := (q : Int) + 1) (by positivity) (by omega)
      omega
    have hbL : wordMod (((q + 1 : Nat) : Int) * L) = (q + 1) * L := by
      have h1 : ((q + 1 : Nat) : Int) * L ≤ ((q + 1) * L * Instant.second : Nat) := by
        exact_mod_cast hbL'
      have := wordMod_of_lt (n := ((q + 1 : Nat) : Int) * L) (by positivity) (by omega)
      omega
    have hdur : Duration.ofSeconds ((q + 1) * L) = (((q + 1) * L : Nat) : Int) * Instant.second :=
      Duration.ofSeconds_of_lt (by exact_mod_cast hskip)
    have hs' : (e.stop.addSeconds L).nanos < Instant.second := by simpa using hs
    have hs'' : ((e.stop.addSeconds L).addSeconds ((q + 1) * L : Nat)).nanos < Instant.second := by
      simpa using hs
    simp only [hbehind, hbL, hdur]
    rw [Instant.add_seconds hs', Duration.neg_ofSeconds_of_lt hlen, Instant.add_seconds hs'',
      Instant.addSeconds_addSeconds, Instant.addSeconds_addSeconds]
    refine ⟨q + 1, ?_, ?_, ?_⟩
    · simp only [Instant.addSeconds, EpochState.mk.injEq, Instant.mk.injEq, and_true]
      constructor <;> push_cast <;> ring
    · -- the new epoch starts at most `d` seconds past the next end
      push_cast
      omega
    · -- and it ends past `now`, which is less than one more length away
      have hd' : (d : Int) < ((q + 1) * L : Nat) := by exact_mod_cast hq'
      rw [Instant.before_eq_true, Instant.unix_addSeconds]
      left
      push_cast at hd' ⊢
      simp only [Int.add_mul, Int.one_mul] at hd' ⊢
      omega

end EpochState

namespace Staking

theorem rebase_of_before {s : Staking} {l : Ledger} {env : Env}
    (h : env.now.before s.epoch.stop = true) : s.rebase l env = .ok (s, {}) := by
  simp [rebase, h, pure, Except.pure]

/-- A rebase once the epoch is over has a positive epoch length and stores the epoch after the
running one. -/
theorem rebase_epoch {s s' : Staking} {l : Ledger} {env : Env} {r : Response}
    (h : s.rebase l env = .ok (s', r)) (hdue : env.now.before s.epoch.stop = false) :
    0 < s.config.epochLength ∧ s'.epoch = s.epoch.advance s.config.epochLength env.now := by
  unfold rebase at h
  rw [if_neg (by simp [hdue])] at h
  dsimp only at h
  split at h
  · cases h
  rename_i hL
  simp only [Result.bind_eq_ok, Result.pure_eq_ok, Prod.mk.injEq] at h
  obtain ⟨balance, -, amount, -, s₁, hs₁, rfl, -⟩ := h
  obtain rfl := setEpoch_eq_ok hs₁
  refine ⟨Nat.pos_of_ne_zero hL, ?_⟩
  split <;> rfl

end Staking

/-- A rebase never leaves an epoch that is already over. For an epoch over at `now`, a positive
epoch length `L`, a length and a lag below 2^63 nanoseconds and an epoch number below the largest
word, the next epoch has the next number, lasts `L` seconds, starts no earlier than the old end and
ends past `now`, a positive whole number of lengths after the old end; it starts by `now` unless the
old end lies later in its second than `now`. A rebase at `now` stores that epoch and mints at most
once, and every later rebase before its end, one at the same `now` among them, does nothing. -/
theorem advance_passes_now (e : EpochState) (L : Nat) (now : Instant) (hL : 0 < L)
    (hdue : now.before e.stop = false) (hs : e.stop.nanos < Instant.second)
    (hlen : L * Instant.second < 2 ^ 63)
    (hlag : (now.unix - e.stop.unix) * Instant.second < 2 ^ 63) (hnum : e.number + 1 < 2 ^ 64) :
    (e.advance L now).number = e.number + 1 ∧
    (e.advance L now).stop = (e.advance L now).start.addSeconds L ∧
    (e.advance L now).start.before e.stop = false ∧
    now.before (e.advance L now).stop = true ∧
    (∃ k : Nat, 0 < k ∧ (e.advance L now).stop = e.stop.addSeconds (k * L : Nat)) ∧
    (e.stop.nanos ≤ now.nanos → now.before (e.advance L now).start = false) ∧
    ∀ (s s' : Staking) (l : Ledger) (env : Env) (r : Response), s.epoch = e →
      s.config.epochLength = L → env.now = now → s.rebase l env = .ok (s', r) →
      s'.epoch = e.advance L now ∧
      (∀ l', s'.rebase l' env = .ok (s', {})) ∧
      (∀ l' env', env'.now.before s'.epoch.stop = true → s'.rebase l' env' = .ok (s', {})) ∧
      (r.effects = [] ∨
        ∃ amount, r.effects = [.mint (Coin.of s.config.baseDenom amount) stakingAccount]) := by
  obtain ⟨j, heq, hstart, hstop⟩ := EpochState.advance_shape hL hdue hs hlen hlag hnum
  rw [heq]
  refine ⟨rfl, ?_, ?_, hstop, ⟨j + 1, Nat.succ_pos j, rfl⟩, ?_, ?_⟩
  · have hsum : (((j + 1) * L : Nat) : Int) = (j * L : Nat) + L := by
      push_cast
      ring
    rw [Instant.addSeconds_addSeconds, hsum]
  · rw [Instant.before_eq_false]
    simp only [Instant.unix_addSeconds, Instant.nanos_addSeconds]
    omega
  · intro hn
    rw [Instant.before_eq_false]
    simp only [Instant.unix_addSeconds, Instant.nanos_addSeconds]
    omega
  · -- the rebase stores the advanced epoch, whose end lies past `now`
    intro s s' l env r he hL' hnow h
    obtain ⟨-, hepoch⟩ := Staking.rebase_epoch h (by rw [he, hnow]; exact hdue)
    rw [he, hL', hnow, heq] at hepoch
    refine ⟨hepoch, fun l' => Staking.rebase_of_before (by rw [hepoch, hnow]; exact hstop),
      fun l' env' h' => Staking.rebase_of_before h', (Staking.rebase_eq_ok h).2.2.2⟩

def epochSeven : EpochState := ⟨⟨0, 0, 0⟩, ⟨10, 0, 0⟩, 7⟩

theorem advance_passes_now_seven :
    (0 < 10 ∧ (⟨35, 0, 0⟩ : Instant).before epochSeven.stop = false ∧
      epochSeven.stop.nanos < Instant.second ∧ 10 * Instant.second < 2 ^ 63 ∧
      ((⟨35, 0, 0⟩ : Instant).unix - epochSeven.stop.unix) * Instant.second < 2 ^ 63 ∧
      epochSeven.number + 1 < 2 ^ 64) ∧
    (epochSeven.advance 10 ⟨35, 0, 0⟩).number = epochSeven.number + 1 ∧
    (epochSeven.advance 10 ⟨35, 0, 0⟩).stop =
      (epochSeven.advance 10 ⟨35, 0, 0⟩).start.addSeconds 10 ∧
    (epochSeven.advance 10 ⟨35, 0, 0⟩).start.before epochSeven.stop = false ∧
    (⟨35, 0, 0⟩ : Instant).before (epochSeven.advance 10 ⟨35, 0, 0⟩).stop = true ∧
    (∃ k : Nat, 0 < k ∧
      (epochSeven.advance 10 ⟨35, 0, 0⟩).stop = epochSeven.stop.addSeconds (k * 10 : Nat)) ∧
    (epochSeven.stop.nanos ≤ (⟨35, 0, 0⟩ : Instant).nanos →
      (⟨35, 0, 0⟩ : Instant).before (epochSeven.advance 10 ⟨35, 0, 0⟩).start = false) ∧
    ∀ (s s' : Staking) (l : Ledger) (env : Env) (r : Response), s.epoch = epochSeven →
      s.config.epochLength = 10 → env.now = ⟨35, 0, 0⟩ → s.rebase l env = .ok (s', r) →
      s'.epoch = epochSeven.advance 10 ⟨35, 0, 0⟩ ∧
      (∀ l', s'.rebase l' env = .ok (s', {})) ∧
      (∀ l' env', env'.now.before s'.epoch.stop = true → s'.rebase l' env' = .ok (s', {})) ∧
      (r.effects = [] ∨
        ∃ amount, r.effects = [.mint (Coin.of s.config.baseDenom amount) stakingAccount]) :=
  ⟨by decide, advance_passes_now epochSeven 10 ⟨35, 0, 0⟩ (by decide) (by decide) (by decide)
    (by decide) (by decide) (by decide)⟩

/-- Where the bounds fail: an epoch length of 18446744074 seconds wraps to 0.290448384 seconds,
so at second 1 the epoch after one ending at 0.29 seconds is already over; and an end half a second
past second 10, advanced at second 30 with a length of 10, starts the new epoch after second 30. -/
theorem advance_wraps_or_overshoots :
    (⟨1, 0, 0⟩ : Instant).before (⟨0, 290448384, 0⟩ : Instant) = false ∧
    (⟨1, 0, 0⟩ : Instant).before
      ((⟨⟨0, 0, 0⟩, ⟨0, 290448384, 0⟩, 0⟩ : EpochState).advance 18446744074 ⟨1, 0, 0⟩).stop =
        false ∧
    (⟨30, 0, 0⟩ : Instant).before (⟨10, 500000000, 0⟩ : Instant) = false ∧
    (⟨30, 0, 0⟩ : Instant).before
      ((⟨⟨0, 500000000, 0⟩, ⟨10, 500000000, 0⟩, 0⟩ : EpochState).advance 10 ⟨30, 0, 0⟩).start =
        true := by
  decide

end Bonding

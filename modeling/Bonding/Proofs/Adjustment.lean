import Mathlib
import Bonding.Proofs.Deadlines
set_option autoImplicit false

/-!
The control variable ramps to its target. A step of the adjustment is due when the adjustment has
a rate and its buffer has passed since it last stepped; a step that is not due changes nothing. A
due step adds the rate to the control variable, or takes it away without going below zero, restarts
the buffer at the block time, and stops the adjustment once the control variable has reached the
target from the side it moves. So with a positive rate and a target not below zero, the adjustment
stops after exactly `max(1, ⌈gap / rate⌉)` firing steps, where the gap is how far the target lies in
the direction of the move, and never fires again.

A step that adds can overflow: a sum of 2^256 or more panics, and then every due step panics again
and the adjustment never stops. The ramp goes through when its last value stays in range.
-/

namespace Bonding

namespace Adjustment

/-- The control variable a firing step moves `cv` to: the rate added, or taken away without going
below zero. -/
def nextCv (a : Adjustment) (cv : Dec) : Dec :=
  if a.add then ⟨cv.units + a.rate.units⟩ else ⟨max (cv.units - a.rate.units) 0⟩

def reached (a : Adjustment) (cv : Dec) : Bool :=
  if a.add then decide (a.target.units ≤ cv.units) else decide (cv.units ≤ a.target.units)

/-- The adjustment after a firing step at `now` that moved the control variable to `cv`: it stops
once the target is reached. -/
def afterStep (a : Adjustment) (cv : Dec) (now : Instant) : Adjustment :=
  { a with rate := if a.reached cv then Dec.zero else a.rate, lastTime := now }

def gap (a : Adjustment) (cv : Dec) : Int :=
  if a.add then a.target.units - cv.units else cv.units - a.target.units

def stepsToTarget (a : Adjustment) (cv : Dec) : Nat :=
  max 1 ⌈((a.gap cv : Int) : ℚ) / (a.rate.units : ℚ)⌉.toNat

def rampCv (a : Adjustment) (cv : Dec) : Nat → Dec
  | 0 => cv
  | k + 1 => if a.add then ⟨cv.units + (k + 1) * a.rate.units⟩
    else ⟨max (cv.units - (k + 1) * a.rate.units) 0⟩

theorem one_le_stepsToTarget (a : Adjustment) (cv : Dec) : 1 ≤ a.stepsToTarget cv :=
  le_max_left _ _

theorem nextCv_rampCv {a : Adjustment} {cv : Dec} (hR : 0 < a.rate.units) (k : Nat) :
    a.nextCv (a.rampCv cv k) = a.rampCv cv (k + 1) := by
  cases k with
  | zero => cases h : a.add <;> simp [nextCv, rampCv, h]
  | succ k =>
    cases h : a.add
    · -- taking the rate away from a value already floored at zero stays at zero
      simp only [nextCv, rampCv, h, Bool.false_eq_true, if_false, Dec.mk.injEq]
      have hstep : ((k : Int) + 1 + 1) * a.rate.units = ((k : Int) + 1) * a.rate.units + a.rate.units := by
        ring
      push_cast
      omega
    · simp only [nextCv, rampCv, h, if_true, Dec.mk.injEq]
      push_cast
      ring

theorem reached_rampCv_iff {a : Adjustment} {cv : Dec} (hR : 0 < a.rate.units)
    (hT : 0 ≤ a.target.units) (k : Nat) :
    a.reached (a.rampCv cv (k + 1)) = true ↔ a.stepsToTarget cv ≤ k + 1 := by
  have hRq : (0 : ℚ) < a.rate.units := by exact_mod_cast hR
  have hsteps : a.stepsToTarget cv ≤ k + 1 ↔ a.gap cv ≤ (k + 1) * a.rate.units := by
    rw [stepsToTarget, max_le_iff, Int.toNat_le, Int.ceil_le, div_le_iff₀ hRq]
    constructor
    · rintro ⟨-, h⟩
      exact_mod_cast h
    · intro h
      exact ⟨by omega, by exact_mod_cast h⟩
  rw [hsteps]
  cases h : a.add
  · simp only [reached, rampCv, gap, h, Bool.false_eq_true, if_false, decide_eq_true_eq]
    omega
  · simp only [reached, rampCv, gap, h, if_true, decide_eq_true_eq]
    omega

/-- Along the ramp, until its last step, the control variable stays in range when it starts in
range and, for a ramp that adds, ends in range. -/
theorem rampCv_fits {a : Adjustment} {cv : Dec} (hR : 0 < a.rate.units)
    (hcv : cv.units.natAbs < Dec.limit)
    (hfit : a.add = true → cv.units + a.stepsToTarget cv * a.rate.units < Dec.limit) {j : Nat}
    (hj : j ≤ a.stepsToTarget cv) : (a.rampCv cv j).units.natAbs < Dec.limit := by
  cases j with
  | zero => exact hcv
  | succ j =>
    cases h : a.add
    · have hpos : 0 ≤ ((j : Int) + 1) * a.rate.units := by positivity
      simp only [rampCv, h, Bool.false_eq_true, if_false]
      omega
    · have hN := hfit h
      have hle : ((j + 1 : Nat) : Int) * a.rate.units ≤ a.stepsToTarget cv * a.rate.units :=
        Int.mul_le_mul_of_nonneg_right (by exact_mod_cast hj) hR.le
      have hpos : 0 ≤ ((j + 1 : Nat) : Int) * a.rate.units := by positivity
      simp only [rampCv, h, if_true]
      push_cast at hle hpos ⊢
      omega

theorem rampCv_nonneg {a : Adjustment} {cv : Dec} (hR : 0 < a.rate.units) (h0 : 0 ≤ cv.units)
    (k : Nat) : 0 ≤ (a.rampCv cv k).units := by
  cases k with
  | zero => exact h0
  | succ k =>
    have hpos : 0 ≤ ((k : Int) + 1) * a.rate.units := by positivity
    cases h : a.add <;> simp only [rampCv, h, Bool.false_eq_true, if_false, if_true] <;> omega

/-- For a buffer that fits the nanosecond word and a valid last step time, a step is due exactly
when the adjustment has a rate and the block time is not before the last step plus the buffer in
whole seconds. -/
theorem due_iff {a : Adjustment} {now : Instant} (hfit : a.buffer * Instant.second < 2 ^ 63)
    (hs : a.lastTime.nanos < Instant.second) :
    a.due now = true ↔ a.rate.units ≠ 0 ∧ now.before (a.lastTime.addSeconds a.buffer) = false := by
  have hdl : a.lastTime.add (Duration.ofSeconds a.buffer) = a.lastTime.addSeconds a.buffer := by
    rw [Duration.ofSeconds_of_lt hfit]
    exact Instant.add_seconds hs _
  simp [due, hdl, Dec.isZero]

end Adjustment

/-! ### One step -/

theorem Dec.le_iff (x y : Dec) : x ≤ y ↔ x.units ≤ y.units := Iff.rfl

theorem Dec.lt_iff (x y : Dec) : x < y ↔ x.units < y.units := Iff.rfl

namespace Bond

variable {b : Bond} {env : Env}

theorem setAdjustment_of_storable {a : Adjustment} (ht : a.lastTime.jsonFault? = none) :
    b.setAdjustment a = .ok { b with adjustment := a } := by
  simp [setAdjustment, Adjustment.times, Record.checkTimes, Instant.firstJsonFault?, ht, pure,
    Except.pure, bind, Except.bind]

/-- A due step moves the control variable by the rate, restarts the buffer at the block time and
stops the adjustment at the target, when the new control variable is in range and the block time
can be stored. -/
theorem stepAdjustment_of_due (hd : b.adjustment.due env.now = true)
    (hfit : (b.adjustment.nextCv b.terms.controlVariable).units.natAbs < Dec.limit)
    (ht : env.now.jsonFault? = none) :
    b.stepAdjustment env = .ok { b with
      terms := { b.terms with controlVariable := b.adjustment.nextCv b.terms.controlVariable }
      adjustment := b.adjustment.afterStep (b.adjustment.nextCv b.terms.controlVariable) env.now } := by
  simp only [Adjustment.due, Bool.and_eq_true, Bool.not_eq_true'] at hd
  unfold stepAdjustment
  rw [if_neg (by simp [hd.1, hd.2])]
  -- the step up, the step down by the rate, and the step down that stops at zero
  cases hadd : b.adjustment.add
  · simp only [Adjustment.nextCv, hadd, Bool.false_eq_true, if_false] at hfit ⊢
    by_cases hgt : b.adjustment.rate.units < b.terms.controlVariable.units
    · have hmax : max (b.terms.controlVariable.units - b.adjustment.rate.units) 0 =
          b.terms.controlVariable.units - b.adjustment.rate.units := by omega
      rw [hmax] at hfit ⊢
      have hsub : b.terms.controlVariable.sub b.adjustment.rate =
          .ok ⟨b.terms.controlVariable.units - b.adjustment.rate.units⟩ := by
        simp only [Dec.sub, Dec.checked, if_pos hfit]
      simp [hgt, hsub, bind, Except.bind, ht, setAdjustment_of_storable, Dec.le_iff, Dec.lt_iff,
        Adjustment.afterStep, Adjustment.reached, hadd, pure, Except.pure]
    · have hmax : max (b.terms.controlVariable.units - b.adjustment.rate.units) 0 = 0 := by omega
      simp [hgt, bind, Except.bind, ht, setAdjustment_of_storable, Dec.le_iff, Dec.lt_iff,
        Adjustment.afterStep, Adjustment.reached, hadd, hmax, Dec.zero, pure, Except.pure]
  · simp only [Adjustment.nextCv, hadd, if_true] at hfit ⊢
    have hsum : b.terms.controlVariable.add b.adjustment.rate =
        .ok ⟨b.terms.controlVariable.units + b.adjustment.rate.units⟩ := by
      simp only [Dec.add, Dec.checked, if_pos hfit]
    simp [hsum, bind, Except.bind, ht, setAdjustment_of_storable, Dec.le_iff, Adjustment.afterStep,
      Adjustment.reached, hadd, pure, Except.pure]

theorem stepAdjustment_of_rate_zero (h : b.adjustment.rate = Dec.zero) : b.stepAdjustment env = .ok b :=
  stepAdjustment_of_not_due (by simp [Adjustment.due, h, Dec.zero, Dec.isZero])

theorem stepAdjustment_overflow (hd : b.adjustment.due env.now = true) (hadd : b.adjustment.add = true)
    (hover : Dec.limit ≤ (b.adjustment.nextCv b.terms.controlVariable).units.natAbs) :
    b.stepAdjustment env = .error Dec.overflow := by
  simp only [Adjustment.due, Bool.and_eq_true, Bool.not_eq_true'] at hd
  simp only [Adjustment.nextCv, hadd, if_true] at hover
  unfold stepAdjustment
  rw [if_neg (by simp [hd.1, hd.2])]
  simp [hadd, Dec.add, Dec.checked, not_lt.mpr hover, bind, Except.bind]

end Bond

/-! ### A run of steps -/

/-- Adjustment steps at the block times of `envs`, one after another with nothing else changing the
bond in between: the bond they leave and how many of them were due. -/
def Bond.adjustAlong (b : Bond) : List Env → Result (Bond × Nat)
  | [] => .ok (b, 0)
  | env :: envs => do
    let b' ← b.stepAdjustment env
    let (b'', n) ← b'.adjustAlong envs
    pure (b'', (if b.adjustment.due env.now then 1 else 0) + n)

/-- A bond `k` firing steps into the adjustment `a` from the control variable `cv`: its control
variable is `k` steps along the ramp, and its adjustment is `a` with the rate kept until the last
step and zero from then on. -/
structure Bond.OnRamp (a : Adjustment) (cv : Dec) (k : Nat) (b : Bond) : Prop where
  le_steps : k ≤ a.stepsToTarget cv
  cv_eq : b.terms.controlVariable = a.rampCv cv k
  adjustment_eq : b.adjustment =
    { a with rate := if k < a.stepsToTarget cv then a.rate else Dec.zero,
             lastTime := b.adjustment.lastTime }

namespace Bond.OnRamp

variable {a : Adjustment} {cv : Dec} {k : Nat} {b : Bond} {env : Env}

theorem start (hb : b.adjustment = a) (hcv : b.terms.controlVariable = cv) : b.OnRamp a cv 0 := by
  subst hb hcv
  refine ⟨Nat.zero_le _, rfl, ?_⟩
  simp [Nat.lt_of_lt_of_le Nat.zero_lt_one (Adjustment.one_le_stepsToTarget _ _)]

theorem rate_eq_zero_iff (h : b.OnRamp a cv k) (hR : 0 < a.rate.units) :
    b.adjustment.rate = Dec.zero ↔ k = a.stepsToTarget cv := by
  have hr := congrArg Adjustment.rate h.adjustment_eq
  simp only at hr
  rw [hr]
  have hne : a.rate ≠ Dec.zero := fun h0 => by simp [h0, Dec.zero] at hR
  have := h.le_steps
  split_ifs with hk <;> simp [hne] <;> omega

theorem step (h : b.OnRamp a cv k) (hR : 0 < a.rate.units) (hT : 0 ≤ a.target.units)
    (hcv : cv.units.natAbs < Dec.limit)
    (hfit : a.add = true → cv.units + a.stepsToTarget cv * a.rate.units < Dec.limit)
    (ht : env.now.jsonFault? = none) :
    ∃ b', b.stepAdjustment env = .ok b' ∧
      b'.OnRamp a cv (k + if b.adjustment.due env.now then 1 else 0) ∧
      b' = { b with terms := { b.terms with controlVariable := b'.terms.controlVariable },
                    adjustment := b'.adjustment } := by
  cases hd : b.adjustment.due env.now with
  | false => exact ⟨b, stepAdjustment_of_not_due hd, by simpa using h, rfl⟩
  | true =>
    rw [if_pos rfl]
    -- a due step has a rate, so the ramp has a step left
    have hk : k < a.stepsToTarget cv := by
      have hrate : b.adjustment.rate.isZero = false := by
        simp only [Adjustment.due, Bool.and_eq_true, Bool.not_eq_true'] at hd
        exact hd.1
      by_contra hk
      have := (h.rate_eq_zero_iff hR).mpr (le_antisymm h.le_steps (not_lt.mp hk))
      simp [this, Dec.zero, Dec.isZero] at hrate
    have hadj := h.adjustment_eq
    rw [if_pos hk] at hadj
    have hnext : b.adjustment.nextCv b.terms.controlVariable = a.rampCv cv (k + 1) := by
      rw [h.cv_eq, ← Adjustment.nextCv_rampCv hR, hadj]
      rfl
    refine ⟨_, Bond.stepAdjustment_of_due hd
      (hnext ▸ Adjustment.rampCv_fits hR hcv hfit hk) ht, ⟨hk, by simp [hnext], ?_⟩, rfl⟩
    simp only [Adjustment.afterStep, hnext]
    rw [hadj]
    simp only [Adjustment.mk.injEq, true_and, and_true]
    -- the step stops the adjustment exactly when it is the last one
    have hreach : a.reached (a.rampCv cv (k + 1)) = true ↔ a.stepsToTarget cv ≤ k + 1 :=
      Adjustment.reached_rampCv_iff hR hT k
    have hreach' : ({ a with rate := a.rate, lastTime := b.adjustment.lastTime } : Adjustment).reached
        (a.rampCv cv (k + 1)) = a.reached (a.rampCv cv (k + 1)) := rfl
    rw [hreach']
    by_cases hlast : a.stepsToTarget cv ≤ k + 1
    · rw [if_pos (hreach.mpr hlast), if_neg (by omega)]
    · rw [if_neg (by rwa [hreach]), if_pos (by omega)]

theorem run (h : b.OnRamp a cv k) (hR : 0 < a.rate.units) (hT : 0 ≤ a.target.units)
    (hcv : cv.units.natAbs < Dec.limit)
    (hfit : a.add = true → cv.units + a.stepsToTarget cv * a.rate.units < Dec.limit)
    {envs : List Env} (ht : ∀ env ∈ envs, env.now.jsonFault? = none) :
    ∃ b' n, b.adjustAlong envs = .ok (b', n) ∧ b'.OnRamp a cv (k + n) ∧
      b' = { b with terms := { b.terms with controlVariable := b'.terms.controlVariable },
                    adjustment := b'.adjustment } := by
  induction envs generalizing b k with
  | nil => exact ⟨b, 0, rfl, h, rfl⟩
  | cons env envs ih =>
    obtain ⟨b₁, hb₁, h₁, hf₁⟩ := h.step hR hT hcv hfit (ht env (List.mem_cons_self ..))
    obtain ⟨b₂, n, hb₂, h₂, hf₂⟩ := ih h₁ (fun e he => ht e (List.mem_cons_of_mem _ he))
    refine ⟨b₂, (if b.adjustment.due env.now then 1 else 0) + n, ?_, ?_, ?_⟩
    · simp [adjustAlong, hb₁, hb₂, bind, Except.bind, pure, Except.pure]
    · rwa [← Nat.add_assoc]
    · rw [hf₂, hf₁]

end Bond.OnRamp

/-! ### The ramp -/

/-- The control variable ramps to its target. A step fires only when it is due: the adjustment has
a rate and the block time is not before the last step plus the buffer, which for a buffer that fits
the nanosecond word is that many whole seconds later. A step that fires moves the control variable
to the rate added, or taken away without going below zero, restarts the buffer at the block time and
zeroes the rate exactly when the target is reached from the side of the move; a step that adds past
the range panics instead. So from a control variable in range, with a positive rate and a target not
below zero, a run of steps at storable block times, with nothing else changing the bond, goes through
when the last value of the ramp is in range. It fires at most `max(1, ⌈gap / rate⌉)` times, leaves
the control variable that many firing steps along the ramp and everything else but the adjustment's
rate and time as it was, has no rate left exactly after the last of those steps and never fires
after it; a control variable not below zero never goes below zero. -/
theorem control_variable_ramps_to_target (b : Bond) (envs : List Env)
    (hR : 0 < b.adjustment.rate.units) (hT : 0 ≤ b.adjustment.target.units)
    (hcv : b.terms.controlVariable.units.natAbs < Dec.limit)
    (hfit : b.adjustment.add = true → b.terms.controlVariable.units +
      b.adjustment.stepsToTarget b.terms.controlVariable * b.adjustment.rate.units < Dec.limit)
    (ht : ∀ env ∈ envs, env.now.jsonFault? = none) :
    (∀ (c : Bond) (env : Env), c.adjustment.due env.now = false → c.stepAdjustment env = .ok c) ∧
    (∀ (a : Adjustment) (now : Instant), a.buffer * Instant.second < 2 ^ 63 →
      a.lastTime.nanos < Instant.second →
      (a.due now = true ↔ a.rate.units ≠ 0 ∧ now.before (a.lastTime.addSeconds a.buffer) = false)) ∧
    (∀ (c : Bond) (env : Env), c.adjustment.due env.now = true →
      (c.adjustment.nextCv c.terms.controlVariable).units.natAbs < Dec.limit →
      env.now.jsonFault? = none →
      c.stepAdjustment env = .ok { c with
        terms := { c.terms with controlVariable := c.adjustment.nextCv c.terms.controlVariable }
        adjustment := c.adjustment.afterStep (c.adjustment.nextCv c.terms.controlVariable) env.now }) ∧
    (∀ (c : Bond) (env : Env), c.adjustment.due env.now = true → c.adjustment.add = true →
      Dec.limit ≤ (c.adjustment.nextCv c.terms.controlVariable).units.natAbs →
      c.stepAdjustment env = .error Dec.overflow) ∧
    ∃ b' n, b.adjustAlong envs = .ok (b', n) ∧
      n ≤ b.adjustment.stepsToTarget b.terms.controlVariable ∧
      b'.terms.controlVariable = b.adjustment.rampCv b.terms.controlVariable n ∧
      b' = { b with terms := { b.terms with controlVariable := b'.terms.controlVariable },
                    adjustment := { b.adjustment with rate := b'.adjustment.rate,
                                                      lastTime := b'.adjustment.lastTime } } ∧
      (b'.adjustment.rate = Dec.zero ↔ n = b.adjustment.stepsToTarget b.terms.controlVariable) ∧
      (b'.adjustment.rate = Dec.zero → ∀ env, b'.stepAdjustment env = .ok b') ∧
      (0 ≤ b.terms.controlVariable.units → 0 ≤ b'.terms.controlVariable.units) := by
  obtain ⟨b', n, hrun, hramp, hframe⟩ := (Bond.OnRamp.start rfl rfl).run hR hT hcv hfit ht
  rw [Nat.zero_add] at hramp
  have hadj := hramp.adjustment_eq
  refine ⟨fun c env hd => Bond.stepAdjustment_of_not_due hd, fun a now hb hs => Adjustment.due_iff hb hs,
    fun c env hd hfit' ht' => Bond.stepAdjustment_of_due hd hfit' ht',
    fun c env hd hadd hover => Bond.stepAdjustment_overflow hd hadd hover,
    b', n, hrun, hramp.le_steps, hramp.cv_eq, ?_, hramp.rate_eq_zero_iff hR,
    fun h0 env => Bond.stepAdjustment_of_rate_zero h0, fun h0 => ?_⟩
  · -- the adjustment keeps its direction, target and buffer
    have had : b'.adjustment =
        { b.adjustment with rate := b'.adjustment.rate, lastTime := b'.adjustment.lastTime } := by
      rw [hadj]
    rw [← had]
    exact hframe
  · rw [hramp.cv_eq]
    exact Adjustment.rampCv_nonneg hR h0 n

/-- A ramp up by one from zero to two and a half, with no buffer, stepped at five blocks a second
apart from the first block time of the deployments: it fires three times and then stops. -/
def rampToTwoAndAHalf : Bond where
  terms := { (default : Terms) with controlVariable := Dec.zero }
  adjustment := ⟨true, Dec.one, ⟨2500000000000000000⟩, 0, newYear⟩

def rampBlocks : List Env := (List.range 5).map fun k : Nat => ⟨newYear.addSeconds k, k + 1⟩

theorem control_variable_ramps_to_target_newYear :
    (fun r : Bond × Nat => (r.1.terms.controlVariable, r.1.adjustment.rate, r.2)) <$>
      rampToTwoAndAHalf.adjustAlong rampBlocks = .ok (⟨3000000000000000000⟩, Dec.zero, 3) ∧
    (0 < rampToTwoAndAHalf.adjustment.rate.units ∧ 0 ≤ rampToTwoAndAHalf.adjustment.target.units ∧
      rampToTwoAndAHalf.terms.controlVariable.units.natAbs < Dec.limit ∧
      (rampToTwoAndAHalf.adjustment.add = true → rampToTwoAndAHalf.terms.controlVariable.units +
        rampToTwoAndAHalf.adjustment.stepsToTarget rampToTwoAndAHalf.terms.controlVariable *
          rampToTwoAndAHalf.adjustment.rate.units < Dec.limit) ∧
      ∀ env ∈ rampBlocks, env.now.jsonFault? = none) ∧
    (∀ (c : Bond) (env : Env), c.adjustment.due env.now = false → c.stepAdjustment env = .ok c) ∧
    (∀ (a : Adjustment) (now : Instant), a.buffer * Instant.second < 2 ^ 63 →
      a.lastTime.nanos < Instant.second →
      (a.due now = true ↔ a.rate.units ≠ 0 ∧ now.before (a.lastTime.addSeconds a.buffer) = false)) ∧
    (∀ (c : Bond) (env : Env), c.adjustment.due env.now = true →
      (c.adjustment.nextCv c.terms.controlVariable).units.natAbs < Dec.limit →
      env.now.jsonFault? = none →
      c.stepAdjustment env = .ok { c with
        terms := { c.terms with controlVariable := c.adjustment.nextCv c.terms.controlVariable }
        adjustment := c.adjustment.afterStep (c.adjustment.nextCv c.terms.controlVariable) env.now }) ∧
    (∀ (c : Bond) (env : Env), c.adjustment.due env.now = true → c.adjustment.add = true →
      Dec.limit ≤ (c.adjustment.nextCv c.terms.controlVariable).units.natAbs →
      c.stepAdjustment env = .error Dec.overflow) ∧
    ∃ b' n, rampToTwoAndAHalf.adjustAlong rampBlocks = .ok (b', n) ∧
      n ≤ rampToTwoAndAHalf.adjustment.stepsToTarget rampToTwoAndAHalf.terms.controlVariable ∧
      b'.terms.controlVariable =
        rampToTwoAndAHalf.adjustment.rampCv rampToTwoAndAHalf.terms.controlVariable n ∧
      b' = { rampToTwoAndAHalf with
        terms := { rampToTwoAndAHalf.terms with controlVariable := b'.terms.controlVariable },
        adjustment := { rampToTwoAndAHalf.adjustment with rate := b'.adjustment.rate,
                                                          lastTime := b'.adjustment.lastTime } } ∧
      (b'.adjustment.rate = Dec.zero ↔
        n = rampToTwoAndAHalf.adjustment.stepsToTarget rampToTwoAndAHalf.terms.controlVariable) ∧
      (b'.adjustment.rate = Dec.zero → ∀ env, b'.stepAdjustment env = .ok b') ∧
      (0 ≤ rampToTwoAndAHalf.terms.controlVariable.units → 0 ≤ b'.terms.controlVariable.units) := by
  have hsteps : rampToTwoAndAHalf.adjustment.stepsToTarget rampToTwoAndAHalf.terms.controlVariable = 3 := by
    norm_num [rampToTwoAndAHalf, Adjustment.stepsToTarget, Adjustment.gap, Dec.one, Dec.scale,
      Dec.zero]
    rfl
  have hR : 0 < rampToTwoAndAHalf.adjustment.rate.units := by decide
  have hT : 0 ≤ rampToTwoAndAHalf.adjustment.target.units := by decide
  have hcv : rampToTwoAndAHalf.terms.controlVariable.units.natAbs < Dec.limit := by decide
  have hfit : rampToTwoAndAHalf.adjustment.add = true → rampToTwoAndAHalf.terms.controlVariable.units +
      rampToTwoAndAHalf.adjustment.stepsToTarget rampToTwoAndAHalf.terms.controlVariable *
        rampToTwoAndAHalf.adjustment.rate.units < Dec.limit := fun _ => by
    rw [hsteps]
    decide
  have ht : ∀ env ∈ rampBlocks, env.now.jsonFault? = none := by decide
  exact ⟨by decide, ⟨hR, hT, hcv, hfit, ht⟩,
    control_variable_ramps_to_target rampToTwoAndAHalf rampBlocks hR hT hcv hfit ht⟩

/-- A ramp whose last value leaves the range: from 10^77 up by 2^256 - 1 to 2^256 - 1, a single
step is due at once, and it panics. -/
def rampPastRange : Bond where
  terms := { (default : Terms) with controlVariable := Dec.ofInt (Nat.pow 10 77) }
  adjustment := ⟨true, Dec.ofInt (Nat.pow 2 256 - 1), Dec.ofInt (Nat.pow 2 256 - 1), 0, newYear⟩

/-- The ramp claimed to stop after one firing step never completes it: the due step panics, at every
block time it is tried. -/
theorem ramp_overflows_at_last_step :
    rampPastRange.adjustment.stepsToTarget rampPastRange.terms.controlVariable = 1 ∧
    rampPastRange.adjustment.due newYear = true ∧
    rampPastRange.stepAdjustment ⟨newYear, 1⟩ = .error Dec.overflow := by
  have hdue : rampPastRange.adjustment.due newYear = true := by decide
  refine ⟨?_, hdue, Bond.stepAdjustment_overflow hdue rfl (by decide)⟩
  norm_num [rampPastRange, Adjustment.stepsToTarget, Adjustment.gap, Dec.ofInt, Dec.scale]

end Bonding

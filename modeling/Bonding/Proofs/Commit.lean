import Mathlib
import Bonding.Proofs.Run
import Bonding.Proofs.Gauges
set_option autoImplicit false

/-!
What a call commits. The chain commits a call as the next block only when it succeeds, with the
world that the call and every effect it emitted left. The chains that calls reach from the empty
chain are the states every invariant of the contracts is proved for.
-/

namespace Bonding

theorem Result.foldlM_preserves {α β : Type} {P : β → Prop} {f : β → α → Result β}
    (hf : ∀ {b a b'}, f b a = .ok b' → P b → P b') :
    ∀ {xs : List α} {b b' : β}, xs.foldlM f b = .ok b' → P b → P b' := by
  intro xs
  induction xs with
  | nil =>
    intro b b' h hb
    rw [List.foldlM_nil, Result.pure_eq_ok] at h
    exact h ▸ hb
  | cons x xs ih =>
    intro b b' h hb
    rw [List.foldlM_cons, Result.bind_eq_ok] at h
    obtain ⟨b₁, h₁, h₂⟩ := h
    exact ih h₂ (hf h₁ hb)

namespace Chain

variable {c c' : Chain} {now : Instant}

/-- A call commits its world as the next block exactly when the chain is instantiated and the
body succeeds. -/
theorem call_eq_ok {body : World → Env → Result (World × List Event)} {evs : List Event} :
    c.call now body = .ok (c', evs) ↔
      c.instantiated = true ∧ ∃ w, body c.world ⟨now, c.height + 1⟩ = .ok (w, evs) ∧
        c' = { c with height := c.height + 1, world := w } := by
  unfold call
  cases hi : c.instantiated with
  | false => simp [notInstantiated]
  | true =>
    cases hb : body c.world ⟨now, c.height + 1⟩ with
    | error f => cases f <;> simp
    | ok r =>
      obtain ⟨w, evs'⟩ := r
      simp only [Bool.not_true, Bool.false_eq_true, if_false, Except.ok.injEq, Prod.mk.injEq, true_and]
      constructor
      · rintro ⟨rfl, rfl⟩
        exact ⟨w, ⟨rfl, rfl⟩, rfl⟩
      · rintro ⟨_, ⟨rfl, rfl⟩, rfl⟩
        exact ⟨rfl, rfl⟩

/-- An execution commits the world of a run of the message, one level of calls below the
deepest, as the next block. -/
theorem execute_eq_ok {sender : String} {funds : Coins} {msg : ExecuteMsg} {evs : List Event} :
    c.execute now sender funds msg = .ok (c', evs) ↔
      c.instantiated = true ∧ ∃ w ms,
        c.world.Runs (maxCallDepth + 1) ⟨now, c.height + 1⟩ sender funds msg w evs ms ∧
        c' = { c with height := c.height + 1, world := w } := by
  simp only [execute, call_eq_ok, World.execute_eq_ok_iff]
  constructor
  · rintro ⟨hi, w, ⟨ms, hr⟩, rfl⟩
    exact ⟨hi, w, ms, hr, rfl⟩
  · rintro ⟨hi, w, ms, hr, rfl⟩
    exact ⟨hi, w, ⟨ms, hr⟩, rfl⟩

theorem transfer_eq_ok {src dst : String} {coins : Coins} {evs : List Event}
    (h : c.transfer now src dst coins = .ok (c', evs)) :
    c.instantiated = true ∧ ∃ l, c.world.ledger.send src dst coins = .ok l ∧
      c' = { c with height := c.height + 1, world := { c.world with ledger := l } } := by
  obtain ⟨hi, w, hw, rfl⟩ := call_eq_ok.mp h
  refine ⟨hi, ?_⟩
  unfold World.transfer at hw
  cases hs : Address.fault? src with
  | some f => simp [hs, Result.bind_eq_ok, throw, throwThe, MonadExceptOf.throw] at hw
  | none =>
    cases hd : Address.fault? dst with
    | some f => simp [hs, hd, Result.bind_eq_ok, throw, throwThe, MonadExceptOf.throw] at hw
    | none =>
      cases he : coins.isEmpty with
      | true => simp [hs, hd, he, Result.bind_eq_ok, throw, throwThe, MonadExceptOf.throw] at hw
      | false =>
        simp only [hs, hd, he, Bool.false_eq_true, if_false, Result.bind_eq_ok, Result.pure_eq_ok,
          Prod.mk.injEq] at hw
        obtain ⟨l, hl, rfl, -⟩ := hw
        exact ⟨l, hl, rfl⟩

/-- What an instantiation keeps and what it starts: it needs a chain without genesis, keeps the
height, sets the genesis time, and starts staking and bond from their genesis. -/
theorem instantiate_eq_ok {g : Genesis} (h : c.instantiate now g = .ok c') :
    c.genesisTime = none ∧ c'.genesisTime = some now ∧ c'.height = c.height ∧
      Staking.init ⟨now, c.height⟩ (Genesis.prepared g).staking = .ok c'.world.staking ∧
      Bond.init ⟨now, c.height⟩ (Genesis.prepared g).bond.config (Genesis.prepared g).bond.terms
        (Genesis.prepared g).bond.adjustment = .ok c'.world.bond := by
  unfold instantiate at h
  cases ht : c.genesisTime with
  | some t => simp [ht, Result.bind_eq_ok, throw, throwThe, MonadExceptOf.throw] at h
  | none =>
    simp only [ht, Result.bind_eq_ok, Result.pure_eq_ok, Result.context_eq_ok] at h
    obtain ⟨-, -, l, -, o, -, st, hst, bd, hbd, -, -, rfl⟩ := h
    exact ⟨rfl, rfl, rfl, hst, hbd⟩

/-- The ledger an instantiation leaves has every property that the old ledger has and that
minting keeps. -/
theorem instantiate_ledger {g : Genesis} {P : Ledger → Prop}
    (hP : ∀ {l l' : Ledger} {coin : Coin} {addr : String}, l.mint coin addr = .ok l' → P l → P l')
    (h : c.instantiate now g = .ok c') (h0 : P c.world.ledger) : P c'.world.ledger := by
  unfold instantiate at h
  cases ht : c.genesisTime with
  | some t => simp [ht, Result.bind_eq_ok, throw, throwThe, MonadExceptOf.throw] at h
  | none =>
    simp only [ht, Result.bind_eq_ok, bind_pure_comp, List.forIn_yield_eq_foldlM, id_map',
      Result.map_eq_ok] at h
    obtain ⟨-, -, l, hl, -, -, -, -, -, -, -, -, rfl⟩ := h
    -- every balance of the genesis is a run of mints, each keeping the property
    refine Result.foldlM_preserves (fun hb hp => ?_) hl h0
    exact Result.foldlM_preserves (fun hm hp => hP (Result.context_eq_ok.mp hm) hp) hb hp

/-- A call a client makes to the chain, with the time of the block it runs in. -/
inductive Call where
  | instantiate (now : Instant) (g : Genesis)
  | execute (now : Instant) (sender : String) (funds : Coins) (msg : ExecuteMsg)
  | transfer (now : Instant) (src dst : String) (coins : Coins)

/-- The chain a call leaves: what the call committed when it succeeds, the same chain when it
fails. -/
def step (c : Chain) : Call → Chain
  | .instantiate now g =>
    match c.instantiate now g with
    | .ok c' => c'
    | .error _ => c
  | .execute now sender funds msg =>
    match c.execute now sender funds msg with
    | .ok (c', _) => c'
    | .error _ => c
  | .transfer now src dst coins =>
    match c.transfer now src dst coins with
    | .ok (c', _) => c'
    | .error _ => c

theorem step_of_execute {now : Instant} {sender : String} {funds : Coins} {msg : ExecuteMsg}
    {evs : List Event} (h : c.execute now sender funds msg = .ok (c', evs)) :
    c.step (.execute now sender funds msg) = c' := by
  simp only [step, h]

/-- The chains that calls admitted by `admits` reach from the empty chain, every call failing or not. -/
inductive Reachable (admits : Call → Prop) : Chain → Prop
  | empty : Reachable admits {}
  | step {c : Chain} (call : Call) : admits call → Reachable admits c → Reachable admits (c.step call)

theorem step_eq_self_of_genesisTime {call : Call} (hg : (c.step call).genesisTime = none) :
    c.step call = c := by
  cases call with
  | instantiate now g =>
    simp only [step] at hg ⊢
    cases h : c.instantiate now g with
    | ok c' =>
      rw [h] at hg
      simp [(instantiate_eq_ok h).2.1] at hg
    | error f => rfl
  | execute now sender funds msg =>
    simp only [step] at hg ⊢
    cases h : c.execute now sender funds msg with
    | ok r =>
      obtain ⟨c', evs⟩ := r
      obtain ⟨hi, w, ms, -, rfl⟩ := execute_eq_ok.mp h
      rw [h] at hg
      simp only at hg
      simp [instantiated, hg] at hi
    | error f => rfl
  | transfer now src dst coins =>
    simp only [step] at hg ⊢
    cases h : c.transfer now src dst coins with
    | ok r =>
      obtain ⟨c', evs⟩ := r
      obtain ⟨hi, l, -, rfl⟩ := transfer_eq_ok h
      rw [h] at hg
      simp only at hg
      simp [instantiated, hg] at hi
    | error f => rfl

theorem Reachable.eq_empty {admits : Call → Prop} (hr : Reachable admits c) :
    c.genesisTime = none → c = {} := by
  induction hr with
  | empty => intro _; rfl
  | step call _ _ ih =>
    intro hg
    have hs := step_eq_self_of_genesisTime hg
    rw [hs] at hg ⊢
    exact ih hg

/-- A property of ledgers that holds of the empty ledger and that every move keeps holds of the
ledger of every reachable chain: a genesis mints, and a call changes the ledger only by its moves. -/
theorem Reachable.ledger {admits : Call → Prop} {P : Ledger → Prop} (h0 : P {})
    (hmove : ∀ {l l' : Ledger} {m : Move}, m.apply l = .ok l' → P l → P l')
    (hr : c.Reachable admits) : P c.world.ledger := by
  induction hr with
  | empty => exact h0
  | step call _ _ ih =>
    rename_i c _ _
    cases call with
    | instantiate now g =>
      simp only [Chain.step]
      cases h : c.instantiate now g with
      | ok c' =>
        -- a genesis balance is minted as the staking contract would mint it
        exact instantiate_ledger (fun hm hp => hmove (m := .mint .staking _ _) hm hp) h ih
      | error f => exact ih
    | execute now sender funds msg =>
      simp only [Chain.step]
      cases h : c.execute now sender funds msg with
      | ok r =>
        obtain ⟨c', evs⟩ := r
        obtain ⟨-, w, ms, hrun, rfl⟩ := execute_eq_ok.mp h
        exact Result.foldlM_preserves hmove hrun.applyAll ih
      | error f => exact ih
    | transfer now src dst coins =>
      simp only [Chain.step]
      cases h : c.transfer now src dst coins with
      | ok r =>
        obtain ⟨c', evs⟩ := r
        obtain ⟨-, l, hl, rfl⟩ := transfer_eq_ok h
        exact hmove (m := .send .bond src dst coins) hl ih
      | error f => exact ih

def deploymentTreasury : String := "cosmos1vmafl8f3s6uuzwnxkqz0eza47v6ecn0tfqrcl7"
def deploymentAdmin : String := "cosmos1335hded4gyzpt00fpz75mms4m7ck02wg624z75"

def bondHolder : String := "cosmos190vqdjtlpcq27xslcveglfmr4ynfwg7gqmchsn"

/-- A genesis with a priced principal, a treasury holding the base supply and one holder of
principal tokens. -/
def bondingGenesis : Genesis where
  oracle := {
    config := ⟨deploymentAdmin, "uusd"⟩
    prices := some [⟨"ulp", some ⟨25 * Int.pow 10 17⟩⟩] }
  bond := {
    config := ⟨"uusd", "ulp", deploymentAdmin, deploymentTreasury, 600, false, some 1⟩
    terms :=
      ⟨some (Dec.ofInt 1000), some (Dec.ofInt 2), some ⟨2 * Int.pow 10 17⟩, some 500000, 3600⟩ }
  staking := {
    config := {
      admin := deploymentAdmin, baseDenom := "uohm", stakedDenom := "usohm", epochLength := 28800,
      epochApr := some ⟨3 * Int.pow 10 15⟩, pointsEnabled := true }
    firstEpochNumber := 1 }
  balances :=
    some [⟨deploymentTreasury, [Coin.of "uohm" 1000000]⟩, ⟨bondHolder, [Coin.of "ulp" 100000]⟩]

def bondingChain : Chain := ({} : Chain).step (.instantiate ⟨0, 0, 0⟩ bondingGenesis)

def holderDeposit : Call :=
  .execute ⟨0, 0, 0⟩ bondHolder [Coin.of "ulp" 10000] (.deposit (some (Dec.ofInt 10)) "")

def bondedAtZero : Chain := bondingChain.step holderDeposit

theorem bondedAtZero_reachable : bondedAtZero.Reachable fun _ => True :=
  .step _ trivial (.step _ trivial .empty)

end Chain

end Bonding

import Mathlib
import Bonding.Proofs.Commit
import Bonding.Proofs.Staking
set_option autoImplicit false

/-!
Who may take coins from an account during a call. The moves of a successful call follow the tree
of its calls: the funds of each call leave its own sender, the caller for the outer call and the
emitting contract's account for a call a contract emits; an effect spends or burns only from an
account its contract owns; and only staking mints or burns, only its own two denominations, which
no handler changes. Hence an
account that is neither the caller nor a module account never loses coins in a call, and the
supply of every other denomination stays as it was.
-/

namespace Bonding

def moduleAccounts : List String := [bondAccount, stakingAccount, warmupAccount, oracleAccount]

theorem ContractName.account_mem (c : ContractName) : c.account ∈ moduleAccounts := by
  cases c <;> simp [ContractName.account, moduleAccounts]

namespace World

def denoms (w : World) : String × String :=
  (w.staking.config.baseDenom, w.staking.config.stakedDenom)

theorem ownsAccount_mem {c : ContractName} {a : String} (h : ownsAccount c a = true) :
    a ∈ moduleAccounts := by
  cases c <;> simp only [ownsAccount, Staking.ownsAccount, Bool.or_eq_true, beq_iff_eq] at h
  case staking => rcases h with rfl | rfl <;> simp [moduleAccounts]
  all_goals exact h ▸ ContractName.account_mem _

theorem ownsDenom_eq_true {w : World} {c : ContractName} {d : String} :
    w.ownsDenom c d = true ↔ c = .staking ∧ (d = w.denoms.1 ∨ d = w.denoms.2) := by
  cases c <;> simp [ownsDenom, Staking.ownsDenom, denoms]

theorem dispatch_denoms {w w' : World} {env : Env} {sender : String} {funds : Coins}
    {msg : ExecuteMsg} {resp : Response} (h : w.dispatch env sender funds msg = .ok (w', resp)) :
    w'.denoms = w.denoms := by
  cases msg <;>
    simp only [dispatch, Result.bind_eq_ok, Result.pure_eq_ok, Prod.exists, Prod.mk.injEq] at h
  case stake =>
    obtain ⟨s, r, hs, rfl, -⟩ := h
    obtain ⟨_, _, _, _, -, -, -, ⟨-, rfl, -⟩ | ⟨-, ⟨_, -, rfl⟩, -⟩⟩ := Staking.stake_eq_ok hs <;> rfl
  case unstake =>
    obtain ⟨s, r, hs, rfl, -⟩ := h
    obtain ⟨_, _, _, _, -, -, rfl, -⟩ := Staking.unstake_eq_ok hs
    rfl
  case claim =>
    obtain ⟨s, r, hs, rfl, -⟩ := h
    obtain ⟨_, _, _, -, -, rfl, -⟩ := Staking.claim_eq_ok hs
    rfl
  case rebase =>
    obtain ⟨s, r, hs, rfl, -⟩ := h
    obtain ⟨-, hb, hst, -⟩ := Staking.rebase_eq_ok hs
    simp [denoms, hb, hst]
  case mint =>
    obtain ⟨_, _, rfl, -⟩ := h
    rfl
  case updateStakingConfig =>
    obtain ⟨s, r, hs, rfl, -⟩ := h
    obtain ⟨cfg, rfl, hb, hst, -⟩ := Staking.updateConfig_eq_ok hs
    simp [denoms, hb, hst]
  case jail =>
    obtain ⟨s, r, hs, rfl, -⟩ := h
    obtain ⟨_, rfl, -⟩ := Staking.jail_eq_ok hs
    rfl
  -- the bond and oracle handlers leave staking alone
  all_goals obtain ⟨_, _, _, rfl, -⟩ := h; rfl

end World

namespace Move

def source : Move → Option String
  | .funds s _ _ => some s
  | .send _ src _ _ => some src
  | .mint .. => none
  | .burn _ holder _ => some holder

def supplyDenom : Move → Option String
  | .mint _ coin _ => some coin.denom
  | .burn _ _ coin => some coin.denom
  | _ => none

/-- The moves the effects of the contract `c` make in a world whose staking denominations are
`denoms`, in order. An effect spends or burns only from an account its contract owns, and only
staking mints or burns, only its two denominations. A call the contract emits is a call from the
contract's own account: its funds leave that account, and the moves of the called contract's
effects follow. -/
inductive ByEffects (denoms : String × String) : ContractName → List Move → Prop
  | nil {c : ContractName} : ByEffects denoms c []
  | send {c : ContractName} {src dst : String} {coins : Coins} {ms : List Move} :
      World.ownsAccount c src = true → ByEffects denoms c ms →
      ByEffects denoms c (.send c src dst coins :: ms)
  | mint {c : ContractName} {coin : Coin} {recipient : String} {ms : List Move} :
      c = .staking → (coin.denom = denoms.1 ∨ coin.denom = denoms.2) → ByEffects denoms c ms →
      ByEffects denoms c (.mint c coin recipient :: ms)
  | burn {c : ContractName} {holder : String} {coin : Coin} {ms : List Move} :
      World.ownsAccount c holder = true → c = .staking →
      (coin.denom = denoms.1 ∨ coin.denom = denoms.2) → ByEffects denoms c ms →
      ByEffects denoms c (.burn c holder coin :: ms)
  | call {c c' : ContractName} {funds : Coins} {ms₁ ms : List Move} :
      ByEffects denoms c' ms₁ → ByEffects denoms c ms →
      ByEffects denoms c (World.fundsMoves c.account c' funds ++ ms₁ ++ ms)

variable {denoms : String × String} {m : Move}

theorem source_fundsMoves {s : String} {c : ContractName} {funds : Coins} {a : String}
    (hm : m ∈ World.fundsMoves s c funds) (ha : m.source = some a) : a = s := by
  unfold World.fundsMoves at hm
  split at hm
  · cases hm
  · rw [List.mem_singleton.mp hm] at ha
    exact (Option.some.inj ha).symm

theorem supplyDenom_fundsMoves {s : String} {c : ContractName} {funds : Coins}
    (hm : m ∈ World.fundsMoves s c funds) : m.supplyDenom = none := by
  unfold World.fundsMoves at hm
  split at hm
  · cases hm
  · rw [List.mem_singleton.mp hm]
    rfl

theorem ByEffects.source_mem {c : ContractName} {ms : List Move} (h : ByEffects denoms c ms)
    (hm : m ∈ ms) {a : String} (ha : m.source = some a) : a ∈ moduleAccounts := by
  induction h with
  | nil => cases hm
  | send hown _ ih =>
    rcases List.mem_cons.mp hm with rfl | hm
    · cases ha
      exact World.ownsAccount_mem hown
    · exact ih hm
  | mint _ _ _ ih =>
    rcases List.mem_cons.mp hm with rfl | hm
    · cases ha
    · exact ih hm
  | burn hown _ _ _ ih =>
    rcases List.mem_cons.mp hm with rfl | hm
    · cases ha
      exact World.ownsAccount_mem hown
    · exact ih hm
  | call _ _ ih₁ ih =>
    rcases List.mem_append.mp hm with hm | hm
    · rcases List.mem_append.mp hm with hm | hm
      · -- the funds of an emitted call leave the emitting contract's account
        rw [source_fundsMoves hm ha]
        exact ContractName.account_mem _
      · exact ih₁ hm
    · exact ih hm

theorem ByEffects.supplyDenom {c : ContractName} {ms : List Move} (h : ByEffects denoms c ms)
    (hm : m ∈ ms) {d : String} (hd : m.supplyDenom = some d) : d = denoms.1 ∨ d = denoms.2 := by
  induction h with
  | nil => cases hm
  | send _ _ ih =>
    rcases List.mem_cons.mp hm with rfl | hm
    · cases hd
    · exact ih hm
  | mint _ hden _ ih =>
    rcases List.mem_cons.mp hm with rfl | hm
    · cases hd
      exact hden
    · exact ih hm
  | burn _ _ hden _ ih =>
    rcases List.mem_cons.mp hm with rfl | hm
    · cases hd
      exact hden
    · exact ih hm
  | call _ _ ih₁ ih =>
    rcases List.mem_append.mp hm with hm | hm
    · rcases List.mem_append.mp hm with hm | hm
      · rw [supplyDenom_fundsMoves hm] at hd
        cases hd
      · exact ih₁ hm
    · exact ih hm

variable {l l' : Ledger}

theorem balance_le_apply (h : m.apply l = .ok l') {a : String} (ha : m.source ≠ some a) (d : String) :
    l.balance a d ≤ l'.balance a d := by
  cases m with
  | funds s c coins =>
    have hs : a ≠ s := fun e => ha (e ▸ rfl)
    have hb := Ledger.balance_send h a d
    have hn := Ledger.amountOf_nonneg_of_send h d
    rw [if_neg hs] at hb
    split at hb <;> omega
  | send _ src dst coins =>
    have hs : a ≠ src := fun e => ha (e ▸ rfl)
    have hb := Ledger.balance_send h a d
    have hn := Ledger.amountOf_nonneg_of_send h d
    rw [if_neg hs] at hb
    split at hb <;> omega
  | mint _ coin r =>
    have hb := Ledger.balance_mint h a d
    obtain ⟨x, hx, -⟩ := Ledger.mint_eq_ok h
    obtain ⟨hamt, hx0⟩ := Ledger.checkCoin_eq_ok hx
    rw [hamt, Option.getD_some] at hb
    split at hb <;> omega
  | burn _ holder coin =>
    have hs : holder ≠ a := fun e => ha (e ▸ rfl)
    have hb := Ledger.balance_burn h a d
    rw [if_neg (by simp [hs])] at hb
    omega

theorem supplyOf_apply (h : m.apply l = .ok l') {d : String} (hd : m.supplyDenom ≠ some d) :
    l'.supplyOf d = l.supplyOf d := by
  cases m with
  | funds _ _ _ => simp only [Ledger.supplyOf, Ledger.supply_send h]
  | send _ _ _ _ => simp only [Ledger.supplyOf, Ledger.supply_send h]
  | mint _ coin _ =>
    have hc : coin.denom ≠ d := fun e => hd (e ▸ rfl)
    simpa [hc] using Ledger.supplyOf_mint h d
  | burn _ _ coin =>
    have hc : coin.denom ≠ d := fun e => hd (e ▸ rfl)
    simpa [hc] using Ledger.supplyOf_burn h d

theorem applyAll_balance_le {ms : List Move} (h : applyAll l ms = .ok l') {a : String}
    (ha : ∀ m ∈ ms, m.source ≠ some a) (d : String) : l.balance a d ≤ l'.balance a d := by
  induction ms generalizing l with
  | nil =>
    cases h
    exact le_rfl
  | cons m ms ih =>
    obtain ⟨l₁, h₁, h₂⟩ := Result.bind_eq_ok.mp h
    calc l.balance a d ≤ l₁.balance a d := balance_le_apply h₁ (ha m (by simp)) d
      _ ≤ l'.balance a d := ih h₂ fun m' hm' => ha m' (by simp [hm'])

theorem applyAll_supplyOf {ms : List Move} (h : applyAll l ms = .ok l') {d : String}
    (hd : ∀ m ∈ ms, m.supplyDenom ≠ some d) : l'.supplyOf d = l.supplyOf d := by
  induction ms generalizing l with
  | nil =>
    cases h
    rfl
  | cons m ms ih =>
    obtain ⟨l₁, h₁, h₂⟩ := Result.bind_eq_ok.mp h
    calc l'.supplyOf d = l₁.supplyOf d := ih h₂ fun m' hm' => hd m' (by simp [hm'])
      _ = l.supplyOf d := supplyOf_apply h₁ (hd m (by simp))

end Move

namespace World

/-- Carrying out the effects of `c` makes the moves of its effects and keeps the staking
denominations, given that every call they emit makes the moves of a call. -/
theorem EffectsRun.authorized
    {callR : World → String → Coins → ExecuteMsg → World → List Event → List Move → Prop}
    {c : ContractName} {w w' : World} {effects : List Effect} {evs : List Event} {ms : List Move}
    (hcall : ∀ {w s f m w' evs ms}, callR w s f m w' evs ms → w'.denoms = w.denoms ∧
      ∃ ms', ms = fundsMoves s m.contract f ++ ms' ∧ Move.ByEffects w.denoms m.contract ms')
    (h : EffectsRun callR c w effects w' evs ms) :
    w'.denoms = w.denoms ∧ Move.ByEffects w.denoms c ms := by
  induction h with
  | nil => exact ⟨rfl, .nil⟩
  | send hown _ _ ih => exact ⟨ih.1, .send hown ih.2⟩
  | mint hden _ _ ih =>
    obtain ⟨rfl, hd⟩ := ownsDenom_eq_true.mp hden
    exact ⟨ih.1, .mint rfl hd ih.2⟩
  | burn hden hown _ _ ih =>
    obtain ⟨rfl, hd⟩ := ownsDenom_eq_true.mp hden
    exact ⟨ih.1, .burn hown rfl hd ih.2⟩
  | execute hR _ ih =>
    -- the emitted call runs with the contract's account as its sender
    obtain ⟨hd₁, ms₁, rfl, hby⟩ := hcall hR
    rw [hd₁] at ih
    exact ⟨ih.1, .call hby ih.2⟩

/-- The moves of a run are the funds of the call, taken from its sender, followed by the moves
of the called contract's effects; the run keeps the staking denominations. -/
theorem Runs.authorized {n : Nat} {w w' : World} {env : Env} {sender : String} {funds : Coins}
    {msg : ExecuteMsg} {evs : List Event} {ms : List Move}
    (h : w.Runs n env sender funds msg w' evs ms) :
    w'.denoms = w.denoms ∧ ∃ ms', ms = fundsMoves sender msg.contract funds ++ ms' ∧
      Move.ByEffects w.denoms msg.contract ms' := by
  induction n generalizing w sender funds msg w' evs ms with
  | zero => exact h.elim
  | succ n ih =>
    obtain ⟨-, -, w₁, w₂, resp, evs', ms', htf, hd, hrun, -, rfl⟩ := h
    obtain ⟨l, -, rfl⟩ := takeFunds_eq_ok htf
    have hd₂ : w₂.denoms = w.denoms := by
      rw [dispatch_denoms hd]
      rfl
    obtain ⟨hd', hby⟩ := hrun.authorized ih
    rw [hd₂] at hd' hby
    exact ⟨hd', ms', rfl, hby⟩

theorem Runs.balance_le {n : Nat} {w w' : World} {env : Env} {sender : String} {funds : Coins}
    {msg : ExecuteMsg} {evs : List Event} {ms : List Move}
    (h : w.Runs n env sender funds msg w' evs ms) {a : String} (hs : a ≠ sender)
    (hm : a ∉ moduleAccounts) (d : String) : w.ledger.balance a d ≤ w'.ledger.balance a d := by
  obtain ⟨-, ms', rfl, hby⟩ := h.authorized
  refine Move.applyAll_balance_le h.applyAll (fun mv hmv ha => ?_) d
  rcases List.mem_append.mp hmv with hmv | hmv
  · exact hs (Move.source_fundsMoves hmv ha)
  · exact hm (hby.source_mem hmv ha)

theorem Runs.supplyOf_eq {n : Nat} {w w' : World} {env : Env} {sender : String} {funds : Coins}
    {msg : ExecuteMsg} {evs : List Event} {ms : List Move}
    (h : w.Runs n env sender funds msg w' evs ms) {d : String} (hb : d ≠ w.denoms.1)
    (hst : d ≠ w.denoms.2) : w'.ledger.supplyOf d = w.ledger.supplyOf d := by
  obtain ⟨-, ms', rfl, hby⟩ := h.authorized
  refine Move.applyAll_supplyOf h.applyAll fun mv hmv hd => ?_
  rcases List.mem_append.mp hmv with hmv | hmv
  · rw [Move.supplyDenom_fundsMoves hmv] at hd
    cases hd
  · rcases hby.supplyDenom hmv hd with rfl | rfl
    · exact hb rfl
    · exact hst rfl

end World

namespace Chain

/-- A successful call moves coins only with authority. Its moves are its funds, taken from the
caller, then the moves of the called contract's effects: sends and burns from accounts that
contract owns, mints and burns of the staking denominations by staking alone, and for each call a
contract emits, funds taken from that contract's account followed by the moves of the callee's
effects. Every move that lowers a balance takes from that account, so an account that is neither
the caller nor a module account ends with at least what it had, and the supply of every
denomination but the two of staking is unchanged. -/
theorem execute_moves_authorized {c c' : Chain} {now : Instant} {sender : String} {funds : Coins}
    {msg : ExecuteMsg} {evs : List Event} (h : c.execute now sender funds msg = .ok (c', evs)) :
    (∀ a d, a ≠ sender → a ∉ moduleAccounts →
      c.world.ledger.balance a d ≤ c'.world.ledger.balance a d) ∧
    (∃ ms, c.world.Runs (maxCallDepth + 1) ⟨now, c.height + 1⟩ sender funds msg c'.world evs ms ∧
      (∃ ms', ms = World.fundsMoves sender msg.contract funds ++ ms' ∧
        Move.ByEffects c.world.denoms msg.contract ms') ∧
      ∀ ms₁ mv ms₂ l₁ l₂, ms = ms₁ ++ mv :: ms₂ → Move.applyAll c.world.ledger ms₁ = .ok l₁ →
        mv.apply l₁ = .ok l₂ → ∀ a d, l₂.balance a d < l₁.balance a d → mv.source = some a) ∧
    (∀ d, d ≠ c.world.staking.config.baseDenom → d ≠ c.world.staking.config.stakedDenom →
      c'.world.ledger.supplyOf d = c.world.ledger.supplyOf d) := by
  obtain ⟨-, w, ms, hr, rfl⟩ := execute_eq_ok.mp h
  refine ⟨fun a d hs hm => hr.balance_le hs hm d, ⟨ms, hr, hr.authorized.2, ?_⟩,
    fun d hb hst => hr.supplyOf_eq hb hst⟩
  intro ms₁ mv ms₂ l₁ l₂ _ _ h₂ a d hlt
  by_contra ha
  exact absurd (Move.balance_le_apply h₂ ha d) (not_le.mpr hlt)

def holderDepositEvents : List Event :=
  ((bondingChain.execute ⟨0, 0, 0⟩ bondHolder [Coin.of "ulp" 10000]
    (.deposit (some (Dec.ofInt 10)) "")).toOption.map Prod.snd).getD []

theorem execute_moves_authorized_deposit :
    bondingChain.execute ⟨0, 0, 0⟩ bondHolder [Coin.of "ulp" 10000] (.deposit (some (Dec.ofInt 10)) "") =
      .ok (bondedAtZero, holderDepositEvents) ∧
    (∀ a d, a ≠ bondHolder → a ∉ moduleAccounts →
      bondingChain.world.ledger.balance a d ≤ bondedAtZero.world.ledger.balance a d) ∧
    (∃ ms, bondingChain.world.Runs (maxCallDepth + 1) ⟨⟨0, 0, 0⟩, bondingChain.height + 1⟩ bondHolder
        [Coin.of "ulp" 10000] (.deposit (some (Dec.ofInt 10)) "") bondedAtZero.world
        holderDepositEvents ms ∧
      (∃ ms', ms = World.fundsMoves bondHolder ContractName.bond [Coin.of "ulp" 10000] ++ ms' ∧
        Move.ByEffects bondingChain.world.denoms ContractName.bond ms') ∧
      ∀ ms₁ mv ms₂ l₁ l₂, ms = ms₁ ++ mv :: ms₂ → Move.applyAll bondingChain.world.ledger ms₁ = .ok l₁ →
        mv.apply l₁ = .ok l₂ → ∀ a d, l₂.balance a d < l₁.balance a d → mv.source = some a) ∧
    (∀ d, d ≠ bondingChain.world.staking.config.baseDenom →
      d ≠ bondingChain.world.staking.config.stakedDenom →
      bondedAtZero.world.ledger.supplyOf d = bondingChain.world.ledger.supplyOf d) := by
  have hok : (bondingChain.execute ⟨0, 0, 0⟩ bondHolder [Coin.of "ulp" 10000]
      (.deposit (some (Dec.ofInt 10)) "")).isOk = true := by
    decide +kernel
  cases he : bondingChain.execute ⟨0, 0, 0⟩ bondHolder [Coin.of "ulp" 10000]
      (.deposit (some (Dec.ofInt 10)) "") with
  | error f =>
    rw [he] at hok
    cases hok
  | ok r =>
    obtain ⟨c', evs⟩ := r
    have hc' : bondedAtZero = c' := step_of_execute he
    have hevs : holderDepositEvents = evs := by
      rw [holderDepositEvents, he]
      rfl
    rw [hc', hevs]
    exact ⟨rfl, execute_moves_authorized he⟩

end Chain

end Bonding

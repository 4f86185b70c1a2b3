import Mathlib
import Bonding.Proofs.Ledger
import Bonding.Host
set_option autoImplicit false

namespace Bonding

theorem Result.context_eq_ok {α : Type} {ctx : String} {r : Result α} {a : α} :
    Result.context ctx r = .ok a ↔ r = .ok a := by
  cases r <;> simp [Result.context, Except.mapError]

theorem Result.map_eq_ok {α β : Type} {f : α → β} {x : Result α} {b : β} :
    (f <$> x) = .ok b ↔ ∃ a, x = .ok a ∧ f a = b := by
  cases x <;> simp [Functor.map, Except.map]

/-- A change the host makes to the ledger during a call, with the party it acts for: the funds
of a call taken from its sender, or an effect carried out for the contract that emitted it. -/
inductive Move where
  | funds (sender : String) (contract : ContractName) (coins : Coins)
  | send (emitter : ContractName) (src dst : String) (coins : Coins)
  | mint (emitter : ContractName) (coin : Coin) (recipient : String)
  | burn (emitter : ContractName) (holder : String) (coin : Coin)
  deriving Repr

namespace Move

def apply (l : Ledger) : Move → Result Ledger
  | .funds s c coins => l.send s c.account coins
  | .send _ src dst coins => l.send src dst coins
  | .mint _ coin r => l.mint coin r
  | .burn _ h coin => l.burn coin h

def applyAll (l : Ledger) (ms : List Move) : Result Ledger := ms.foldlM apply l

@[simp] theorem applyAll_nil (l : Ledger) : applyAll l [] = .ok l := rfl

theorem applyAll_cons (l : Ledger) (m : Move) (ms : List Move) :
    applyAll l (m :: ms) = apply l m >>= fun l' => applyAll l' ms := rfl

theorem applyAll_append {l l'' : Ledger} {ms ms' : List Move} :
    applyAll l (ms ++ ms') = .ok l'' ↔ ∃ l', applyAll l ms = .ok l' ∧ applyAll l' ms' = .ok l'' := by
  simp [applyAll, List.foldlM_append, Result.bind_eq_ok]

end Move

namespace World

/-- The world with the funds of a call moved from its sender to the called contract; nothing
moves when every amount is zero. -/
def takeFunds (w : World) (sender : String) (c : ContractName) (funds : Coins) : Result World :=
  if funds.isZero then pure w
  else do pure { w with ledger := ← w.ledger.send sender c.account funds }

def fundsMoves (sender : String) (c : ContractName) (funds : Coins) : List Move :=
  if funds.isZero then [] else [.funds sender c funds]

/-- The host carrying out one effect emitted by `emitter`, after the events so far, a call the
effect emits being run by `call`. -/
def applyEffect (call : World → String → Coins → ExecuteMsg → Result (World × List Event))
    (emitter : ContractName) : World × List Event → Effect → Result (World × List Event)
  | (w, events), e =>
    Result.context (e.kindName ++ " emitted by " ++ emitter.name) (do
        match e with
        | .send src dst coins =>
          if !ownsAccount emitter src then
            throw (.wrap .unauthorized (emitter.name ++ " cannot spend from " ++ src))
          pure ({ w with ledger := ← w.ledger.send src dst coins }, events)
        | .mint coin toAddr =>
          if !w.ownsDenom emitter coin.denom then
            throw (.wrap .unauthorized (emitter.name ++ " cannot mint " ++ coin.denom))
          pure ({ w with ledger := ← w.ledger.mint coin toAddr }, events)
        | .burn holder coin =>
          if !w.ownsDenom emitter coin.denom || !ownsAccount emitter holder then
            throw (.wrap .unauthorized (emitter.name ++ " cannot burn " ++ coin.denom ++ " held by " ++ holder))
          pure ({ w with ledger := ← w.ledger.burn coin holder }, events)
        | .execute subFunds sub => do
          let (w, more) ← call w emitter.account subFunds sub
          pure (w, events ++ more))

/-- A call, one level down: its checks, the funds it carries, its handler, then the effects of
the handler one after another. -/
theorem execute_succ (n : Nat) (w : World) (env : Env) (sender : String) (funds : Coins)
    (msg : ExecuteMsg) :
    execute (n+1) w env sender funds msg = (do
      if let some f := Address.fault? sender then throw (.wrap .invalidInput ("sender address: " ++ f))
      if let some f ← Coins.validate funds then throw (.wrap .invalidInput ("funds: " ++ f))
      let w ← w.takeFunds sender msg.contract funds
      let (w, resp) ← w.dispatch env sender funds msg
      resp.effects.foldlM (applyEffect (fun w s f m => execute n w env s f m) msg.contract)
        (w, resp.events)) := by
  rw [execute]
  cases Address.fault? sender with
  | some f => rfl
  | none =>
    cases Coins.validate funds with
    | error e => rfl
    | ok v =>
      cases v with
      | some f => rfl
      | none =>
        -- the funds either stay or move; the monad laws line the two sides up
        cases hz : funds.isZero <;>
          simp only [takeFunds, hz, Bool.false_eq_true, if_false, if_true, bind_assoc, pure_bind] <;>
          rfl

theorem takeFunds_eq_ok {w w₁ : World} {sender : String} {c : ContractName} {funds : Coins}
    (h : w.takeFunds sender c funds = .ok w₁) :
    ∃ l, Move.applyAll w.ledger (fundsMoves sender c funds) = .ok l ∧ w₁ = { w with ledger := l } := by
  unfold takeFunds at h
  by_cases hz : funds.isZero
  · simp only [hz, if_true, Result.pure_eq_ok] at h
    exact ⟨w.ledger, by simp [fundsMoves, hz], h.symm⟩
  · simp only [hz, Bool.false_eq_true, if_false, Result.bind_eq_ok, Result.pure_eq_ok] at h
    obtain ⟨l,hl,rfl⟩ := h
    exact ⟨l, by simp [fundsMoves, hz, Move.applyAll_cons, Move.apply, hl, Result.bind_eq_ok], rfl⟩

section Effects

variable {call : World → String → Coins → ExecuteMsg → Result (World × List Event)} {c : ContractName}
  {w : World} {acc : List Event} {r : World × List Event}

theorem applyEffect_send_eq_ok {src dst : String} {coins : Coins} :
    applyEffect call c (w, acc) (.send src dst coins) = .ok r ↔
      ownsAccount c src = true ∧ ∃ l, w.ledger.send src dst coins = .ok l ∧ ({ w with ledger := l }, acc) = r := by
  rw [applyEffect, Result.context_eq_ok]
  cases ownsAccount c src <;> simp [Result.map_eq_ok, Result.bind_eq_ok, throw, throwThe, MonadExceptOf.throw]

theorem applyEffect_mint_eq_ok {coin : Coin} {recipient : String} :
    applyEffect call c (w, acc) (.mint coin recipient) = .ok r ↔
      w.ownsDenom c coin.denom = true ∧ ∃ l, w.ledger.mint coin recipient = .ok l ∧ ({ w with ledger := l }, acc) = r := by
  rw [applyEffect, Result.context_eq_ok]
  cases w.ownsDenom c coin.denom <;> simp [Result.map_eq_ok, Result.bind_eq_ok, throw, throwThe, MonadExceptOf.throw]

theorem applyEffect_burn_eq_ok {holder : String} {coin : Coin} :
    applyEffect call c (w, acc) (.burn holder coin) = .ok r ↔
      w.ownsDenom c coin.denom = true ∧ ownsAccount c holder = true ∧
        ∃ l, w.ledger.burn coin holder = .ok l ∧ ({ w with ledger := l }, acc) = r := by
  rw [applyEffect, Result.context_eq_ok]
  cases w.ownsDenom c coin.denom <;> cases ownsAccount c holder <;>
    simp [Result.map_eq_ok, Result.bind_eq_ok, throw, throwThe, MonadExceptOf.throw]

theorem applyEffect_execute_eq_ok {funds : Coins} {msg : ExecuteMsg} :
    applyEffect call c (w, acc) (.execute funds msg) = .ok r ↔
      ∃ w₁ more, call w c.account funds msg = .ok (w₁, more) ∧ (w₁, acc ++ more) = r := by
  rw [applyEffect, Result.context_eq_ok]
  simp [Result.map_eq_ok, Prod.exists]

end Effects

/-- The effects of one response carried out in order for `emitter`, a call that an effect emits
being run by `call`: the world after them, the events of the calls they emitted, and the moves the
host made. -/
inductive EffectsRun
    (call : World → String → Coins → ExecuteMsg → World → List Event → List Move → Prop)
    (emitter : ContractName) : World → List Effect → World → List Event → List Move → Prop where
  | nil (w : World) : EffectsRun call emitter w [] w [] []
  | send {w w' : World} {src dst : String} {coins : Coins} {rest : List Effect} {l : Ledger}
      {evs : List Event} {ms : List Move} :
      ownsAccount emitter src = true → w.ledger.send src dst coins = .ok l →
      EffectsRun call emitter { w with ledger := l } rest w' evs ms →
      EffectsRun call emitter w (.send src dst coins :: rest) w' evs (.send emitter src dst coins :: ms)
  | mint {w w' : World} {coin : Coin} {recipient : String} {rest : List Effect} {l : Ledger}
      {evs : List Event} {ms : List Move} :
      w.ownsDenom emitter coin.denom = true → w.ledger.mint coin recipient = .ok l →
      EffectsRun call emitter { w with ledger := l } rest w' evs ms →
      EffectsRun call emitter w (.mint coin recipient :: rest) w' evs (.mint emitter coin recipient :: ms)
  | burn {w w' : World} {holder : String} {coin : Coin} {rest : List Effect} {l : Ledger}
      {evs : List Event} {ms : List Move} :
      w.ownsDenom emitter coin.denom = true → ownsAccount emitter holder = true →
      w.ledger.burn coin holder = .ok l →
      EffectsRun call emitter { w with ledger := l } rest w' evs ms →
      EffectsRun call emitter w (.burn holder coin :: rest) w' evs (.burn emitter holder coin :: ms)
  | execute {w w₁ w' : World} {funds : Coins} {msg : ExecuteMsg} {rest : List Effect}
      {more evs : List Event} {ms₁ ms : List Move} :
      call w emitter.account funds msg w₁ more ms₁ →
      EffectsRun call emitter w₁ rest w' evs ms →
      EffectsRun call emitter w (.execute funds msg :: rest) w' (more ++ evs) (ms₁ ++ ms)

/-- A call that completes with `levels` levels of calls left: the sender is an address and the
funds are valid, the funds move to the called contract, its handler answers, and every effect of
the answer is carried out in order, a call it emits running one level down with the contract's
account as sender. The events are the handler's then those of the emitted calls; the moves are
every change the host made to the ledger, in order. -/
def Runs : Nat → World → Env → String → Coins → ExecuteMsg → World → List Event → List Move → Prop
  | 0, _, _, _, _, _, _, _, _ => False
  | n+1, w, env, sender, funds, msg, w', evs, ms =>
    Address.fault? sender = none ∧ funds.validate = .ok none ∧
    ∃ w₁ w₂ resp evs' ms', w.takeFunds sender msg.contract funds = .ok w₁ ∧
      w₁.dispatch env sender funds msg = .ok (w₂, resp) ∧
      EffectsRun (fun w s f m => Runs n w env s f m) msg.contract w₂ resp.effects w' evs' ms' ∧
      evs = resp.events ++ evs' ∧ ms = fundsMoves sender msg.contract funds ++ ms'

/-- Carrying out effects succeeds exactly when they run, given that a call they emit succeeds
exactly when it runs. -/
theorem foldlM_applyEffect_eq_ok {call : World → String → Coins → ExecuteMsg → Result (World × List Event)}
    {c : ContractName}
    {callR : World → String → Coins → ExecuteMsg → World → List Event → List Move → Prop}
    (hcall : ∀ w s f m w' evs, call w s f m = .ok (w', evs) ↔ ∃ ms, callR w s f m w' evs ms)
    (effects : List Effect) (w : World) (acc : List Event) (w' : World) (evs : List Event) :
    effects.foldlM (applyEffect call c) (w, acc) = .ok (w', evs) ↔
      ∃ evs' ms, EffectsRun callR c w effects w' evs' ms ∧ evs = acc ++ evs' := by
  induction effects generalizing w acc with
  | nil =>
    constructor
    · intro h
      obtain ⟨rfl, rfl⟩ : w = w' ∧ acc = evs := by simpa [Result.pure_eq_ok] using h
      exact ⟨[], [], .nil w, by simp⟩
    · rintro ⟨evs', ms, hrun, rfl⟩
      cases hrun
      simp [Result.pure_eq_ok]
  | cons e rest ih =>
    rw [List.foldlM_cons, Result.bind_eq_ok]
    cases e with
    | send src dst coins =>
      simp only [applyEffect_send_eq_ok]
      constructor
      · rintro ⟨_, ⟨hown, l, hl, rfl⟩, hrest⟩
        obtain ⟨evs', ms, hrun, rfl⟩ := (ih _ _).mp hrest
        exact ⟨evs', _, .send hown hl hrun, rfl⟩
      · rintro ⟨evs', _, hrun, rfl⟩
        cases hrun with
        | send hown hl hrun => exact ⟨_, ⟨hown, _, hl, rfl⟩, (ih _ _).mpr ⟨evs', _, hrun, rfl⟩⟩
    | mint coin recipient =>
      simp only [applyEffect_mint_eq_ok]
      constructor
      · rintro ⟨_, ⟨hown, l, hl, rfl⟩, hrest⟩
        obtain ⟨evs', ms, hrun, rfl⟩ := (ih _ _).mp hrest
        exact ⟨evs', _, .mint hown hl hrun, rfl⟩
      · rintro ⟨evs', _, hrun, rfl⟩
        cases hrun with
        | mint hown hl hrun => exact ⟨_, ⟨hown, _, hl, rfl⟩, (ih _ _).mpr ⟨evs', _, hrun, rfl⟩⟩
    | burn holder coin =>
      simp only [applyEffect_burn_eq_ok]
      constructor
      · rintro ⟨_, ⟨hden, hown, l, hl, rfl⟩, hrest⟩
        obtain ⟨evs', ms, hrun, rfl⟩ := (ih _ _).mp hrest
        exact ⟨evs', _, .burn hden hown hl hrun, rfl⟩
      · rintro ⟨evs', _, hrun, rfl⟩
        cases hrun with
        | burn hden hown hl hrun =>
          exact ⟨_, ⟨hden, hown, _, hl, rfl⟩, (ih _ _).mpr ⟨evs', _, hrun, rfl⟩⟩
    | execute funds msg =>
      simp only [applyEffect_execute_eq_ok]
      constructor
      · rintro ⟨_, ⟨w₁, more, hc, rfl⟩, hrest⟩
        obtain ⟨evs', ms, hrun, rfl⟩ := (ih _ _).mp hrest
        obtain ⟨ms₁, hR⟩ := (hcall _ _ _ _ _ _).mp hc
        exact ⟨more ++ evs', _, .execute hR hrun, by simp⟩
      · rintro ⟨evs', _, hrun, rfl⟩
        cases hrun with
        | @execute _ w₁ _ _ _ _ more evs ms₁ ms hR hrun =>
          exact ⟨_, ⟨w₁, more, (hcall _ _ _ _ _ _).mpr ⟨ms₁, hR⟩, rfl⟩,
            (ih _ _).mpr ⟨evs, ms, hrun, by simp⟩⟩


theorem execute_eq_ok_iff (n : Nat) (w : World) (env : Env) (sender : String) (funds : Coins)
    (msg : ExecuteMsg) (w' : World) (evs : List Event) :
    w.execute n env sender funds msg = .ok (w', evs) ↔
      ∃ ms, w.Runs n env sender funds msg w' evs ms := by
  induction n generalizing w sender funds msg w' evs with
  | zero => simp [execute, Runs]
  | succ n ih =>
    rw [execute_succ]
    simp only [Runs]
    cases hf : Address.fault? sender with
    | some f => simp [throw, throwThe, MonadExceptOf.throw, Result.bind_eq_ok]
    | none =>
      cases hv : Coins.validate funds with
      | error e => simp [Result.bind_eq_ok]
      | ok v =>
        cases v with
        | some f => simp [throw, throwThe, MonadExceptOf.throw, Result.bind_eq_ok]
        | none =>
          simp only [Result.bind_eq_ok, Except.ok.injEq, exists_eq_left', true_and, Prod.exists,
            foldlM_applyEffect_eq_ok (fun w s f m w' evs => ih w s f m w' evs)]
          constructor
          · rintro ⟨w₁, htf, w₂, resp, hd, evs', ms', hrun, rfl⟩
            exact ⟨_, w₁, w₂, resp, evs', ms', htf, hd, hrun, rfl, rfl⟩
          · rintro ⟨_, w₁, w₂, resp, evs', ms', htf, hd, hrun, rfl, rfl⟩
            exact ⟨w₁, htf, w₂, resp, hd, evs', ms', hrun, rfl⟩

/-- Handlers change the state of the contracts, never the ledger: coins move only through the
funds of a call and the effects of a response. -/
theorem dispatch_ledger {w w' : World} {env : Env} {sender : String} {funds : Coins}
    {msg : ExecuteMsg} {resp : Response} (h : w.dispatch env sender funds msg = .ok (w', resp)) :
    w'.ledger = w.ledger := by
  cases msg <;> simp only [dispatch, Result.bind_eq_ok, Result.pure_eq_ok, Prod.exists, Prod.mk.injEq] at h
  case mint => obtain ⟨_, _, rfl, -⟩ := h; rfl
  all_goals obtain ⟨_, _, _, rfl, -⟩ := h; rfl

theorem EffectsRun.applyAll
    {callR : World → String → Coins → ExecuteMsg → World → List Event → List Move → Prop}
    {c : ContractName} {w w' : World} {effects : List Effect} {evs : List Event} {ms : List Move}
    (hcall : ∀ {w s f m w' evs ms}, callR w s f m w' evs ms → Move.applyAll w.ledger ms = .ok w'.ledger)
    (h : EffectsRun callR c w effects w' evs ms) : Move.applyAll w.ledger ms = .ok w'.ledger := by
  induction h with
  | nil => rfl
  | send _ hl _ ih => simpa [Move.applyAll_cons, Move.apply, hl, Result.bind_eq_ok] using ih
  | mint _ hl _ ih => simpa [Move.applyAll_cons, Move.apply, hl, Result.bind_eq_ok] using ih
  | burn _ _ hl _ ih => simpa [Move.applyAll_cons, Move.apply, hl, Result.bind_eq_ok] using ih
  | execute hR _ ih => exact Move.applyAll_append.mpr ⟨_, hcall hR, ih⟩

theorem Runs.applyAll {n : Nat} {w w' : World} {env : Env} {sender : String} {funds : Coins}
    {msg : ExecuteMsg} {evs : List Event} {ms : List Move}
    (h : w.Runs n env sender funds msg w' evs ms) : Move.applyAll w.ledger ms = .ok w'.ledger := by
  induction n generalizing w sender funds msg w' evs ms with
  | zero => exact h.elim
  | succ n ih =>
    obtain ⟨-, -, w₁, w₂, resp, evs', ms', htf, hd, hrun, -, rfl⟩ := h
    obtain ⟨l, hl, rfl⟩ := takeFunds_eq_ok htf
    have hw₂ : w₂.ledger = l := dispatch_ledger hd
    refine Move.applyAll_append.mpr ⟨l, hl, ?_⟩
    rw [← hw₂]
    exact hrun.applyAll ih

end World

end Bonding

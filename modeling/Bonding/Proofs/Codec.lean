import Mathlib
import Bonding.Proofs.Literals
set_option autoImplicit false

/-!
Execute messages read back from what is written. The writer gives each message as an envelope with
one member, named for the message type, whose value is the body: an object of the fields, with an
update's unset fields left out. The reader collects the members of the envelope, takes the contract
by name and the message by the one key left, and decodes the body member by member into the zero
message of that type.

Reading inverts writing on every message whose values have a written form that reads back (words
below 2^64, amounts of at most 256 bits, decimals in range, and the values the writer would write
as `"0"` when unset, set): each member decodes its field and the fields left out stay unset. The
one exception is the list of minters of a staking configuration update, which is written only when
nonempty, so that an empty list, which asks to clear the minters, reads back unset and asks to keep
them. In the other direction, a message is read only from an object with at least one member, all
of whose members have the message's type name as their key.
-/

namespace Bonding

def Dec.fits (d : Dec) : Bool := decide (d.units.natAbs < Dec.limit)

def fitsWord (n : Nat) : Bool := decide (n < 2 ^ 64)

namespace Json

variable {σ α : Type}

/-! ### Records decoded from their members -/

theorem field_name (name : String) (d : Decoder α) (get : σ → α) (set : σ → α → σ) :
    (field name d get set).name = name := rfl

theorem under_pure (step : PathStep) (x : α) : under step (pure x : DecodeM α) = pure x := rfl

theorem field_apply_of_pure {name : String} {d : Decoder α} {get : σ → α} {set : σ → α → σ}
    {s : σ} {j : Json} {a : α} (h : d (get s) j = pure a) :
    (field name d get set).apply s j = pure (set s a) := by
  simp [field, h]

/-- A record takes a member that selects a field decoding it without a mismatch, and goes on with
the rest. -/
theorem record_cons_field {ty k : String} {fields : List (Field σ)} {d : Decoder α} {get : σ → α}
    {set : σ → α → σ} {s : σ} {v : Json} {a : α} {ms : List (String × Json)}
    (hl : Field.lookup fields k = some (field k d get set)) (hd : d (get s) v = pure a) :
    record ty fields s (.obj ((k, v) :: ms)) = record ty fields (set s a) (.obj ms) := by
  simp only [record, List.foldlM_cons, hl, field_apply_of_pure hd, under_pure, pure_bind]

theorem record_nil {ty : String} {fields : List (Field σ)} {s : σ} :
    record ty fields s (.obj []) = pure s := rfl

/-! ### Values on their written forms -/

theorem text_str (old s : String) : text old (.str s) = pure s := rfl

theorem truth_bool (old b : Bool) : truth old (.bool b) = pure b := rfl

theorem word_ofNat {n : Nat} (h : fitsWord n = true) (old : Nat) : word old (Json.ofNat n) = pure n := by
  have hread : unsignedText? (toString n) (Nat.pow 2 64) = some n :=
    unsignedText?_toString (of_decide_eq_true h)
  simp only [word, unsigned, Json.ofNat, hread]

theorem decimal_render {d : Dec} (h : d.fits = true) (old : Option Dec) :
    decimal old (.str d.render) = pure (some d) := by
  simp only [decimal, selfText, Dec.read_render (of_decide_eq_true h), pure_bind]

theorem amount_render {x : Int} (h : Int256.fits x = true) (old : Option Int) :
    amount old (.str (Int256.render x)) = pure (some x) := by
  simp only [amount, selfText, Int256.readLiteral_render, h, if_true, pure_bind]

theorem optional_of_ne_null {inner : Decoder α} {zero : α} {old : Option α} {j : Json} {a : α}
    (hj : j ≠ .null) (h : inner (old.getD zero) j = pure a) :
    optional inner zero old j = pure (some a) := by
  cases j <;> simp_all [optional]

theorem nullable_of_ne_null {d : Decoder (Option α)} {old : Option α} {j : Json}
    (hj : j ≠ .null) : nullable d old j = d old j := by
  cases j <;> simp_all [nullable]

theorem optText_str (old : Option String) (v : String) : optText old (.str v) = pure (some v) :=
  optional_of_ne_null nofun (text_str _ _)

theorem optTruth_bool (old : Option Bool) (v : Bool) : optTruth old (.bool v) = pure (some v) :=
  optional_of_ne_null nofun (truth_bool _ _)

theorem optWord_ofNat {v : Nat} (h : fitsWord v = true) (old : Option Nat) :
    Json.optWord old (Json.ofNat v) = pure (some v) :=
  optional_of_ne_null nofun (word_ofNat h _)

theorem nullable_amount {x : Int} (h : Int256.fits x = true) (old : Option Int) :
    nullable amount old (Int256.toJson x) = pure (some x) :=
  (nullable_of_ne_null (j := .str (Int256.render x)) nofun).trans (amount_render h _)

theorem nullable_decimal {d : Dec} (h : d.fits = true) (old : Option Dec) :
    nullable decimal old (Dec.toJson d) = pure (some d) :=
  (nullable_of_ne_null (j := .str d.render) nofun).trans (decimal_render h _)

theorem list_loop_map {item : Decoder α} {zero : α} {olds : List α} {f : α → Json} (xs : List α)
    (h : ∀ x ∈ xs, ∀ o, item o (f x) = pure x) (i : Nat) :
    list.loop item zero olds (xs.map f) i = pure xs := by
  induction xs generalizing i with
  | nil => rfl
  | cons x xs ih =>
    simp only [List.map_cons, list.loop, h x List.mem_cons_self, under_pure, pure_bind,
      ih (fun y hy => h y (List.mem_cons_of_mem _ hy))]

theorem list_map {item : Decoder α} {zero : α} {ty : String} {f : α → Json} (xs : List α)
    (h : ∀ x ∈ xs, ∀ o, item o (f x) = pure x) (old : Option (List α)) :
    list item zero ty old (.arr (xs.map f)) = pure (some xs) := by
  simp only [list, list_loop_map xs h, pure_bind]

/-! ### The members of an envelope -/

/-- One step of collecting the members of an object: a repeated key takes the later value in its
first place, a new key goes last. -/
def collectMember (acc : List (String × Json)) (kv : String × Json) : List (String × Json) :=
  if acc.any (·.1 == kv.1) then acc.map fun (k', v') => if k' == kv.1 then (k', kv.2) else (k', v')
  else acc ++ [kv]

theorem members?_obj (ms : List (String × Json)) :
    members? (.obj ms) = some (ms.foldl collectMember []) := rfl

theorem mem_keys_collectMember {acc : List (String × Json)} {kv : String × Json} {k : String} :
    k ∈ (collectMember acc kv).map Prod.fst ↔ k ∈ acc.map Prod.fst ∨ k = kv.1 := by
  unfold collectMember
  split
  · rename_i hany
    obtain ⟨x, hx, hxk⟩ := List.any_eq_true.1 hany
    have hkeys : (acc.map fun (k', v') => if k' == kv.1 then (k', kv.2) else (k', v')).map Prod.fst =
        acc.map Prod.fst := by
      rw [List.map_map]
      congr 1
      funext ⟨k', v'⟩
      simp only [Function.comp_apply]
      split <;> rfl
    rw [hkeys]
    constructor
    · exact Or.inl
    · rintro (h | rfl)
      · exact h
      · exact List.mem_map.2 ⟨x, hx, beq_iff_eq.1 hxk⟩
  · simp

theorem mem_keys_foldl_collectMember (ms acc : List (String × Json)) (k : String) :
    k ∈ (ms.foldl collectMember acc).map Prod.fst ↔
      k ∈ acc.map Prod.fst ∨ k ∈ ms.map Prod.fst := by
  induction ms generalizing acc with
  | nil => simp
  | cons kv ms ih =>
    rw [List.foldl_cons, ih, mem_keys_collectMember, List.map_cons, List.mem_cons]
    tauto

/-- An object whose members collect to one member has at least one member, and all of its members
have that key. -/
theorem members?_eq_singleton {j : Json} {ty : String} {b : Json} (h : members? j = some [(ty, b)]) :
    ∃ ms, j = .obj ms ∧ ms ≠ [] ∧ ∀ kv ∈ ms, kv.1 = ty := by
  cases j with
  | obj ms =>
    rw [members?_obj, Option.some.injEq] at h
    refine ⟨ms, rfl, ?_, fun kv hkv => ?_⟩
    · rintro rfl
      simp at h
    · have hk := (mem_keys_foldl_collectMember ms [] kv.1).2 (Or.inr (List.mem_map_of_mem hkv))
      simpa [h] using hk
  | null => simp [members?] at h
  | bool _ | num _ | str _ | arr _ => simp [members?] at h

theorem decodeWith_of_pure {d : Decoder α} {start v : α} {j : Json} (h : d start j = pure v) :
    decodeWith d start j = .ok v := by
  simp only [decodeWith, h]
  rfl

end Json

/-! ### Bodies -/

namespace TermsInput

def Representable (t : TermsInput) : Bool :=
  t.controlVariable.any Dec.fits && t.minimumPrice.any Dec.fits && t.maxPayout.any Dec.fits &&
    t.maxDebt.any Int256.fits && fitsWord t.vestingTerm

theorem decoder_toJson {t : TermsInput} (ht : t.Representable = true) (old : TermsInput) :
    decoder old t.toJson = pure t := by
  obtain ⟨cv, mp, mx, md, vt⟩ := t
  simp only [Representable, Bool.and_eq_true, Option.any_eq_true] at ht
  obtain ⟨⟨⟨⟨⟨cv, rfl, hcv⟩, ⟨mp, rfl, hmp⟩⟩, ⟨mx, rfl, hmx⟩⟩, ⟨md, rfl, hmd⟩⟩, hvt⟩ :=
    ht
  simp only [toJson, decoder, Dec.toJson?, Int256.toJson?]
  rw [Json.record_cons_field rfl (Json.decimal_render hcv _),
    Json.record_cons_field rfl (Json.decimal_render hmp _),
    Json.record_cons_field rfl (Json.decimal_render hmx _),
    Json.record_cons_field rfl (Json.amount_render hmd _),
    Json.record_cons_field rfl (Json.word_ofNat hvt _), Json.record_nil]

end TermsInput

namespace PriceFeed

def Representable (p : PriceFeed) : Bool := p.price.any Dec.fits

theorem decoder_toJson {p : PriceFeed} (hp : p.Representable = true) (old : PriceFeed) :
    decoder old p.toJson = pure p := by
  obtain ⟨denom, price⟩ := p
  simp only [Representable, Option.any_eq_true] at hp
  obtain ⟨x, rfl, hx⟩ := hp
  simp only [toJson, decoder, Dec.toJson?]
  rw [Json.record_cons_field rfl (Json.text_str _ _),
    Json.record_cons_field rfl (Json.decimal_render hx _), Json.record_nil]

end PriceFeed

/-! ### Messages -/

theorem ContractName.ofName?_name (c : ContractName) : ContractName.ofName? c.name = some c := by
  cases c <;> rfl

theorem ContractName.name_of_ofName? {s : String} {c : ContractName}
    (h : ContractName.ofName? s = some c) : c.name = s := by
  unfold ContractName.ofName? at h
  split at h <;> simp only [Option.some.injEq, reduceCtorEq] at h <;> subst h <;> rfl

namespace ExecuteMsg

/-- Whether every value of a message has a written form that reads back: words below 2^64, amounts
of at most 256 bits and decimals in range, each set where the writer writes an unset one as "0"
(the max price of a deposit, the amount of a mint, the terms and the prices fed). -/
def Representable : ExecuteMsg → Bool
  | .deposit p _ => p.any Dec.fits
  | .updateTerms t => t.Representable
  | .updateBondConfig u => u.oracleTrustPeriod.all fitsWord && u.minPayout.all Int256.fits
  | .updateAdjustment u => u.rate.all Dec.fits && u.target.all Dec.fits && u.buffer.all fitsWord
  | .mint _ a => a.any Int256.fits
  | .updateStakingConfig u =>
    u.epochLength.all fitsWord && u.epochApr.all Dec.fits && u.warmupLength.all fitsWord
  | .feedPrice ps => ps.all (·.all PriceFeed.Representable)
  | .redeem .. | .stake _ | .unstake _ | .claim _ | .rebase | .jail .. | .registerFeeder .. => true

/-- What a message reads back as once written: itself, except that an empty list of minters is
written like an unset one. -/
def readBack : ExecuteMsg → ExecuteMsg
  | .updateStakingConfig u => .updateStakingConfig { u with minters := u.minters.filter (!·.isEmpty) }
  | m => m

variable {σ α : Type}

/-- A member present only when set decodes into its field, or is absent and leaves the unset field
alone. -/
theorem record_opt {ty name : String} {fields : List (Json.Field σ)} {f : α → Json}
    {d : Json.Decoder (Option α)} {get : σ → Option α} {set : σ → Option α → σ} {s : σ}
    {o : Option α} {ms : List (String × Json)}
    (hl : Json.Field.lookup fields name = some (Json.field name d get set))
    (hd : ∀ v ∈ o, d (get s) (f v) = pure (some v)) (hnone : set s none = s) :
    Json.record ty fields s (.obj (opt name f o ++ ms)) = Json.record ty fields (set s o) (.obj ms) := by
  cases o with
  | none => rw [hnone]; rfl
  | some v => exact Json.record_cons_field hl (hd v rfl)

theorem decodeBody_obj {d : Json.Decoder α} {zero v : α} {ms : List (String × Json)}
    (h : d zero (.obj ms) = pure v) : decodeBody d zero (.obj ms) = some v := by
  simp only [decodeBody, Json.decodeWith_of_pure h, Except.toOption]

/-- The minters of a staking configuration update are written as a member present only for a
nonempty list: an empty list is written like an unset one. -/
theorem body_updateStakingConfig (u : StakingConfigUpdate) :
    body (.updateStakingConfig u) = .obj (opt "admin" .str u.admin ++
      opt "epoch_length" Json.ofNat u.epochLength ++ opt "epoch_apr" Dec.toJson u.epochApr ++
      opt "warmup_length" Json.ofNat u.warmupLength ++
      opt "minters" (fun l => .arr (l.map Json.str)) (u.minters.filter (!·.isEmpty)) ++
      opt "points_enabled" .bool u.pointsEnabled) := by
  rcases h : u.minters with _ | _ | ⟨m, ms⟩ <;> simp [body, h, opt, Option.filter]

theorem bondConfigUpdate_decode {u : BondConfigUpdate} (hw : u.oracleTrustPeriod.all fitsWord = true)
    (ha : u.minPayout.all Int256.fits = true) :
    decodeBody bondConfigUpdateDecoder {} (body (.updateBondConfig u)) = some u := by
  apply decodeBody_obj
  rw [← List.append_nil (opt "min_payout" _ u.minPayout)]
  simp only [List.append_assoc, bondConfigUpdateDecoder]
  -- each member present decodes its field; a field left out stays unset in the zero update
  rw [record_opt rfl (fun v _ => Json.optText_str _ v) rfl,
    record_opt rfl (fun v _ => Json.optText_str _ v) rfl,
    record_opt rfl (fun v _ => Json.optText_str _ v) rfl,
    record_opt rfl (fun v _ => Json.optText_str _ v) rfl,
    record_opt rfl (fun v hv => Json.optWord_ofNat ((Option.all_eq_true _ _).1 hw v hv) _) rfl,
    record_opt rfl (fun v _ => Json.optTruth_bool _ v) rfl,
    record_opt rfl (fun v hv => Json.nullable_amount ((Option.all_eq_true _ _).1 ha v hv) _) rfl,
    Json.record_nil]

theorem adjustmentUpdate_decode {u : AdjustmentUpdate} (hr : u.rate.all Dec.fits = true)
    (ht : u.target.all Dec.fits = true) (hb : u.buffer.all fitsWord = true) :
    decodeBody adjustmentUpdateDecoder {} (body (.updateAdjustment u)) = some u := by
  apply decodeBody_obj
  rw [← List.append_nil (opt "buffer" _ u.buffer)]
  simp only [List.append_assoc, adjustmentUpdateDecoder]
  rw [record_opt rfl (fun v _ => Json.optTruth_bool _ v) rfl,
    record_opt rfl (fun v hv => Json.nullable_decimal ((Option.all_eq_true _ _).1 hr v hv) _) rfl,
    record_opt rfl (fun v hv => Json.nullable_decimal ((Option.all_eq_true _ _).1 ht v hv) _) rfl,
    record_opt rfl (fun v hv => Json.optWord_ofNat ((Option.all_eq_true _ _).1 hb v hv) _) rfl,
    Json.record_nil]

theorem stakingConfigUpdate_decode {u : StakingConfigUpdate} (he : u.epochLength.all fitsWord = true)
    (ha : u.epochApr.all Dec.fits = true) (hw : u.warmupLength.all fitsWord = true) :
    decodeBody stakingConfigUpdateDecoder {} (body (.updateStakingConfig u)) =
      some { u with minters := u.minters.filter (!·.isEmpty) } := by
  rw [body_updateStakingConfig]
  apply decodeBody_obj
  rw [← List.append_nil (opt "points_enabled" _ u.pointsEnabled)]
  simp only [List.append_assoc, stakingConfigUpdateDecoder]
  rw [record_opt rfl (fun v _ => Json.optText_str _ v) rfl,
    record_opt rfl (fun v hv => Json.optWord_ofNat ((Option.all_eq_true _ _).1 he v hv) _) rfl,
    record_opt rfl (fun v hv => Json.nullable_decimal ((Option.all_eq_true _ _).1 ha v hv) _) rfl,
    record_opt rfl (fun v hv => Json.optWord_ofNat ((Option.all_eq_true _ _).1 hw v hv) _) rfl,
    record_opt rfl (fun v _ => Json.list_map v (fun x _ o => Json.text_str o x) _) rfl,
    record_opt rfl (fun v _ => Json.optTruth_bool _ v) rfl, Json.record_nil]

theorem deposit_decode {x : Dec} (hx : x.fits = true) (d : String) :
    decodeBody depositDecoder (none, "") (body (.deposit (some x) d)) = some (some x, d) := by
  apply decodeBody_obj
  simp only [depositDecoder, Dec.toJson?]
  rw [Json.record_cons_field rfl (Json.decimal_render hx _),
    Json.record_cons_field rfl (Json.text_str _ _), Json.record_nil]

theorem redeem_decode (r : String) (stake : Bool) :
    decodeBody redeemDecoder ("", false) (body (.redeem r stake)) = some (r, stake) := by
  apply decodeBody_obj
  rw [redeemDecoder, Json.record_cons_field rfl (Json.text_str _ _),
    Json.record_cons_field rfl (Json.truth_bool _ _), Json.record_nil]

theorem updateTerms_decode {t : TermsInput} (ht : t.Representable = true) :
    decodeBody updateTermsDecoder {} (body (.updateTerms t)) = some t := by
  apply decodeBody_obj
  rw [updateTermsDecoder, Json.record_cons_field rfl (TermsInput.decoder_toJson ht _), Json.record_nil]

theorem textBody_decode (ty field r : String) :
    decodeBody (textBody ty field) "" (.obj [(field, .str r)]) = some r := by
  have hl : Json.Field.lookup [Json.field field Json.text id fun _ v => v] field =
      some (Json.field field Json.text id fun _ v => v) := by
    simp [Json.Field.lookup, Json.field_name]
  apply decodeBody_obj
  rw [textBody, Json.record_cons_field hl (Json.text_str _ _), Json.record_nil]

theorem claim_decode (r : String) :
    decodeBody (textBody "types.ClaimMsg" "recipient") "" (body (.claim r)) = some r := by
  by_cases hr : r.isEmpty
  · rw [String.isEmpty_iff.1 hr]
    rfl
  · simp only [body, hr, Bool.false_eq_true, if_false]
    exact textBody_decode _ _ r

theorem mint_decode (r : String) {x : Int} (hx : Int256.fits x = true) :
    decodeBody mintDecoder ("", none) (body (.mint r (some x))) = some (r, some x) := by
  apply decodeBody_obj
  simp only [mintDecoder, Int256.toJson?]
  rw [Json.record_cons_field rfl (Json.text_str _ _),
    Json.record_cons_field rfl (Json.amount_render hx _), Json.record_nil]

theorem jail_decode (a : String) (j : Bool) :
    decodeBody jailDecoder ("", false) (body (.jail a j)) = some (a, j) := by
  apply decodeBody_obj
  rw [jailDecoder, Json.record_cons_field rfl (Json.text_str _ _),
    Json.record_cons_field rfl (Json.truth_bool _ _), Json.record_nil]

theorem registerFeeder_decode (d f : String) :
    decodeBody registerFeederDecoder ("", "") (body (.registerFeeder d f)) = some (d, f) := by
  apply decodeBody_obj
  rw [registerFeederDecoder, Json.record_cons_field rfl (Json.text_str _ _),
    Json.record_cons_field rfl (Json.text_str _ _), Json.record_nil]

theorem feedPrice_decode {ps : Option (List PriceFeed)}
    (hp : ps.all (·.all PriceFeed.Representable) = true) :
    decodeBody feedPriceDecoder none (body (.feedPrice ps)) = some ps := by
  apply decodeBody_obj
  rw [feedPriceDecoder]
  cases ps with
  | none => rfl
  | some l =>
    have hl : ∀ p ∈ l, ∀ o, PriceFeed.decoder o p.toJson = pure p := fun p hp' o =>
      PriceFeed.decoder_toJson (List.all_eq_true.1 hp p hp') o
    rw [Json.ofList?, Json.record_cons_field rfl (Json.list_map l hl _), Json.record_nil]

/-- The body of a message decodes, under the contract and type the message names, to the message
it reads back as. -/
theorem ofBody?_body {m : ExecuteMsg} (hm : m.Representable = true) :
    ofBody? m.contract m.typeName m.body = some (some m.readBack) := by
  cases m with
  | deposit p d =>
    obtain ⟨x, rfl, hx⟩ := (Option.any_eq_true _ _).1 hm
    simp [ofBody?, contract, typeName, readBack, deposit_decode hx]
  | redeem r stake => simp [ofBody?, contract, typeName, readBack, redeem_decode]
  | updateTerms t => simp [ofBody?, contract, typeName, readBack, updateTerms_decode hm]
  | updateBondConfig u =>
    simp only [Representable, Bool.and_eq_true] at hm
    simp [ofBody?, contract, typeName, readBack, bondConfigUpdate_decode hm.1 hm.2]
  | updateAdjustment u =>
    simp only [Representable, Bool.and_eq_true] at hm
    simp [ofBody?, contract, typeName, readBack, adjustmentUpdate_decode hm.1.1 hm.1.2 hm.2]
  | stake r => simp [ofBody?, contract, typeName, readBack, body, textBody_decode]
  | unstake r => simp [ofBody?, contract, typeName, readBack, body, textBody_decode]
  | claim r => simp [ofBody?, contract, typeName, readBack, claim_decode]
  | rebase => rfl
  | mint r a =>
    obtain ⟨x, rfl, hx⟩ := (Option.any_eq_true _ _).1 hm
    simp [ofBody?, contract, typeName, readBack, mint_decode r hx]
  | updateStakingConfig u =>
    simp only [Representable, Bool.and_eq_true] at hm
    simp [ofBody?, contract, typeName, readBack, stakingConfigUpdate_decode hm.1.1 hm.1.2 hm.2]
  | jail a j => simp [ofBody?, contract, typeName, readBack, jail_decode]
  | registerFeeder d f => simp [ofBody?, contract, typeName, readBack, registerFeeder_decode]
  | feedPrice ps => simp [ofBody?, contract, typeName, readBack, feedPrice_decode hm]

/-- A representable message, written and read back under its contract, gives the message it reads
back as. -/
theorem decode_encode {m : ExecuteMsg} (hm : m.Representable = true) :
    decode m.contract.name (some m.encode) = .ok m.readBack := by
  simp only [decode, ContractName.ofName?_name, encode, Option.bind_some, Json.members?,
    List.foldl_cons, List.foldl_nil, List.any_nil, Bool.false_eq_true, if_false, List.nil_append,
    ofBody?_body hm]
  rfl

theorem ofBody?_eq_some {c : ContractName} {ty : String} {j : Json} {m : ExecuteMsg}
    (h : ofBody? c ty j = some (some m)) : m.contract = c ∧ m.typeName = ty := by
  unfold ofBody? at h
  split at h <;> simp only [Option.some.injEq, Option.map_eq_some_iff, reduceCtorEq] at h <;>
    obtain ⟨_, -, rfl⟩ := h <;> exact ⟨rfl, rfl⟩

/-- A message is read only from an object with at least one member whose members all have the type
name of the message as key, addressed to the contract of the message. -/
theorem decode_eq_ok {contract : String} {raw : Option Json} {m : ExecuteMsg}
    (h : decode contract raw = .ok m) :
    m.contract.name = contract ∧
      ∃ ms, raw = some (.obj ms) ∧ ms ≠ [] ∧ ∀ kv ∈ ms, kv.1 = m.typeName := by
  unfold decode at h
  -- the contract, the envelope, its single type and the body: every other path throws
  split at h
  · rename_i c hc
    split at h
    · rename_i members hmembers
      split at h
      · rename_i ty body
        split at h
        · cases h
        · cases h
        · rename_i m' hbody
          cases h
          obtain ⟨hcm, hty⟩ := ofBody?_eq_some hbody
          obtain ⟨j, rfl, hj⟩ := Option.bind_eq_some_iff.1 hmembers
          obtain ⟨ms, rfl, hne, hkeys⟩ := Json.members?_eq_singleton hj
          exact ⟨by rw [hcm, ContractName.name_of_ofName? hc], ms, rfl, hne, hty ▸ hkeys⟩
      · cases h
    · cases h
  · cases h

theorem readBack_eq_self_iff {m : ExecuteMsg} :
    m.readBack = m ↔ ∀ u, m = .updateStakingConfig u → u.minters ≠ some [] := by
  cases m with
  | updateStakingConfig u =>
    obtain ⟨admin, epochLength, epochApr, warmupLength, minters, pointsEnabled⟩ := u
    simp only [readBack, updateStakingConfig.injEq, forall_eq', StakingConfigUpdate.mk.injEq]
    rcases minters with _ | _ | ⟨x, xs⟩ <;> simp [Option.filter]
  | _ => simp [readBack]

end ExecuteMsg

/-- Execute messages read back from what is written. A message whose values all have a written
form, written and read under its contract, reads back as itself, except that an empty list of
minters is written like an unset one and reads back unset. A message is read only from an object
with at least one member, whose members all have the type name of the message as their key, under
the name of the message's contract. -/
theorem execute_messages_read_back (m : ExecuteMsg) (hm : m.Representable = true) :
    ExecuteMsg.decode m.contract.name (some m.encode) = .ok m.readBack ∧
    (m.readBack = m ↔ ∀ u, m = .updateStakingConfig u → u.minters ≠ some []) ∧
    ∀ contract raw m', ExecuteMsg.decode contract raw = .ok m' →
      m'.contract.name = contract ∧
        ∃ ms, raw = some (.obj ms) ∧ ms ≠ [] ∧ ∀ kv ∈ ms, kv.1 = m'.typeName :=
  ⟨ExecuteMsg.decode_encode hm, ExecuteMsg.readBack_eq_self_iff,
    fun _ _ _ h => ExecuteMsg.decode_eq_ok h⟩

def feedOne : ExecuteMsg := .feedPrice (some [{ denom := "uusdc", price := some Dec.one }])

theorem execute_messages_read_back_feedOne :
    feedOne.Representable = true ∧
    (ExecuteMsg.decode feedOne.contract.name (some feedOne.encode) = .ok feedOne.readBack ∧
    (feedOne.readBack = feedOne ↔
      ∀ u, feedOne = .updateStakingConfig u → u.minters ≠ some []) ∧
    ∀ contract raw m', ExecuteMsg.decode contract raw = .ok m' →
      m'.contract.name = contract ∧
        ∃ ms, raw = some (.obj ms) ∧ ms ≠ [] ∧ ∀ kv ∈ ms, kv.1 = m'.typeName) :=
  ⟨by decide, execute_messages_read_back feedOne (by decide)⟩

/-- An empty list of minters is written like an unset one: the update that would clear the
minters reads back as an update that keeps them. -/
theorem empty_minters_read_back_unset :
    ExecuteMsg.decode "staking" (some (ExecuteMsg.updateStakingConfig { minters := some [] }).encode) =
      .ok (.updateStakingConfig {}) ∧
    ExecuteMsg.updateStakingConfig { minters := some [] } ≠ .updateStakingConfig {} :=
  ⟨ExecuteMsg.decode_encode (m := .updateStakingConfig { minters := some [] }) (by decide),
    by simp⟩

end Bonding

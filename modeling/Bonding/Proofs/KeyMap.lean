import Mathlib
import Bonding.KeyMap
set_option autoImplicit false

namespace Bonding.KeyMap

variable {κ α : Type} [BEq κ] [LawfulBEq κ]

def keys (m : KeyMap κ α) : List κ := m.entries.map (·.1)

def sumBy (m : KeyMap κ α) (f : κ → α → Int) : Int := (m.entries.map fun e => f e.1 e.2).sum

def overwrite (k : κ) (v : α) (e : κ × α) : κ × α := if e.1 == k then (k,v) else e

omit [LawfulBEq κ] in
theorem entries_insert (m : KeyMap κ α) (k : κ) (v : α) :
    (m.insert k v).entries =
      if m.contains k then m.entries.map (overwrite k v) else m.entries ++ [(k,v)] := by
  unfold insert
  split <;> rfl

omit [LawfulBEq κ] in
theorem entries_erase (m : KeyMap κ α) (k : κ) :
    (m.erase k).entries = m.entries.filter fun e => !(e.1 == k) := rfl

omit [LawfulBEq κ] in
theorem find?_key_eq_none {l : List (κ × α)} {k : κ} (hc : ¬(l.any fun x => x.1 == k) = true) :
    l.find? (·.1 == k) = none :=
  List.find?_eq_none.mpr fun x hx hk => hc (List.any_eq_true.mpr ⟨x,hx,hk⟩)

theorem overwrite_fst (k : κ) (v : α) (e : κ × α) : (overwrite k v e).1 = e.1 := by
  by_cases h : e.1 == k
  · simp [overwrite, beq_iff_eq.mp h]
  · simp [overwrite, h]

theorem map_overwrite_of_not_mem {l : List (κ × α)} {k : κ} (v : α) (h : k ∉ l.map (·.1)) :
    l.map (overwrite k v) = l := by
  induction l with
  | nil => rfl
  | cons e r ih =>
    have he : e.1 ≠ k := fun he => h (by simp [← he])
    have hr : k ∉ r.map (·.1) := fun hr => h (by simp_all)
    simp [overwrite, he, ih hr]

@[simp] theorem get?_insert_self (m : KeyMap κ α) (k : κ) (v : α) :
    (m.insert k v).get? k = some v := by
  obtain ⟨l⟩ := m
  by_cases hc : (l.any fun x => x.1 == k) = true
  · simp only [insert, contains, get?, hc, if_true, List.find?_map]
    obtain ⟨e,he,hek⟩ := List.any_eq_true.mp hc
    have hp : ((fun x : κ × α => x.1 == k) ∘ fun e => if (e.1 == k) = true then (k,v) else e) =
        (·.1 == k) := by
      funext x; by_cases h : x.1 == k <;> simp [h]
    rw [hp]
    cases hf : l.find? (·.1 == k) with
    | none => exact absurd (List.find?_eq_none.mp hf e he) (by simpa using hek)
    | some x => simp [List.find?_some hf]
  · simp [insert, contains, get?, hc, List.find?_append, find?_key_eq_none hc]

theorem get?_insert_of_ne (m : KeyMap κ α) {k k' : κ} (v : α) (h : k ≠ k') :
    (m.insert k v).get? k' = m.get? k' := by
  obtain ⟨l⟩ := m
  by_cases hc : (l.any fun x => x.1 == k) = true
  · simp only [insert, contains, get?, hc, if_true, List.find?_map]
    have hp : ((fun x : κ × α => x.1 == k') ∘ fun e => if (e.1 == k) = true then (k,v) else e) =
        (·.1 == k') := by
      funext x; by_cases hx : x.1 == k <;> simp_all
    rw [hp]
    cases hf : l.find? (·.1 == k') with
    | none => rfl
    | some x =>
      have hx : x.1 = k' := by simpa using List.find?_some hf
      have : (x.1 == k) = false := by simp [hx, Ne.symm h]
      simp [this]
  · simp [insert, contains, get?, hc, List.find?_append, h]

@[simp] theorem get?_erase_self (m : KeyMap κ α) (k : κ) : (m.erase k).get? k = none := by
  simp [erase, get?, List.find?_filter]

theorem get?_erase_of_ne (m : KeyMap κ α) {k k' : κ} (h : k ≠ k') :
    (m.erase k).get? k' = m.get? k' := by
  simp only [erase, get?, List.find?_filter]
  congr 2; funext x
  by_cases hx : x.1 = k' <;> simp [hx, Ne.symm h]

theorem getD_insert (m : KeyMap κ α) (k k' : κ) (v d : α) [Decidable (k = k')] :
    (m.insert k v).getD k' d = if k = k' then v else m.getD k' d := by
  by_cases h : k = k'
  · subst h; simp [getD]
  · simp [getD, h, get?_insert_of_ne m v h]

theorem getD_erase (m : KeyMap κ α) (k k' : κ) (d : α) [Decidable (k = k')] :
    (m.erase k).getD k' d = if k = k' then d else m.getD k' d := by
  by_cases h : k = k'
  · subst h; simp [getD]
  · simp [getD, h, get?_erase_of_ne m h]

theorem keys_insert (m : KeyMap κ α) (k : κ) (v : α) :
    (m.insert k v).keys = if m.contains k then m.keys else m.keys ++ [k] := by
  rw [keys, entries_insert]
  split
  · simp [keys, List.map_map, Function.comp_def, overwrite_fst]
  · simp [keys]

theorem contains_iff_mem_keys (m : KeyMap κ α) (k : κ) : m.contains k = true ↔ k ∈ m.keys := by
  simp [contains, keys]

theorem keys_insert_nodup {m : KeyMap κ α} (k : κ) (v : α) (h : m.keys.Nodup) :
    (m.insert k v).keys.Nodup := by
  rw [keys_insert]
  split
  · exact h
  · rename_i hc
    rw [contains_iff_mem_keys] at hc
    exact List.nodup_append.mpr ⟨h, List.nodup_singleton k, by simp; rintro _ hk rfl; exact hc hk⟩

omit [LawfulBEq κ] in
theorem keys_erase_nodup {m : KeyMap κ α} (k : κ) (h : m.keys.Nodup) : (m.erase k).keys.Nodup :=
  h.sublist ((List.filter_sublist).map _)

omit [LawfulBEq κ] in
theorem mem_insert {m : KeyMap κ α} {k : κ} {v : α} {e : κ × α}
    (he : e ∈ (m.insert k v).entries) : e = (k,v) ∨ e ∈ m.entries := by
  rw [entries_insert] at he
  split at he
  · obtain ⟨x,hx,rfl⟩ := List.mem_map.mp he
    by_cases h : x.1 == k
    · left; simp [overwrite, h]
    · right; simpa [overwrite, h] using hx
  · rcases List.mem_append.mp he with h | h
    · exact .inr h
    · exact .inl (List.mem_singleton.mp h)

omit [LawfulBEq κ] in
theorem mem_erase {m : KeyMap κ α} {k : κ} {e : κ × α} (he : e ∈ (m.erase k).entries) :
    e ∈ m.entries :=
  (List.mem_filter.mp he).1

theorem sum_map_overwrite (l : List (κ × α)) (k : κ) (v : α) (f : κ → α → Int)
    (hnd : (l.map (·.1)).Nodup) :
    ((l.map (overwrite k v)).map fun e => f e.1 e.2).sum +
        ((l.find? (·.1 == k)).map fun e => f k e.2).getD 0 =
      (l.map fun e => f e.1 e.2).sum + (if l.any (·.1 == k) then f k v else 0) := by
  induction l with
  | nil => simp
  | cons e r ih =>
    simp only [List.map_cons, List.nodup_cons] at hnd
    by_cases he : e.1 = k
    · have hr : k ∉ r.map (·.1) := he ▸ hnd.1
      simp [overwrite, he, map_overwrite_of_not_mem v hr]
      ring
    · have hb : (e.1 == k) = false := by simp [he]
      have := ih hnd.2
      simp only [List.map_cons, List.sum_cons, List.find?_cons, List.any_cons, overwrite, hb,
        Bool.false_or, Bool.false_eq_true, if_false] at this ⊢
      linarith

theorem sum_map_filter_key (l : List (κ × α)) (k : κ) (f : κ → α → Int)
    (hnd : (l.map (·.1)).Nodup) :
    ((l.filter fun e => !(e.1 == k)).map fun e => f e.1 e.2).sum +
        ((l.find? (·.1 == k)).map fun e => f k e.2).getD 0 =
      (l.map fun e => f e.1 e.2).sum := by
  induction l with
  | nil => simp
  | cons e r ih =>
    simp only [List.map_cons, List.nodup_cons] at hnd
    by_cases he : e.1 = k
    · have hr : k ∉ r.map (·.1) := he ▸ hnd.1
      have hf : r.filter (fun e => !(e.1 == k)) = r :=
        List.filter_eq_self.mpr fun x hx => by
          have : x.1 ≠ k := fun h => hr (List.mem_map.mpr ⟨x,hx,h⟩)
          simp [this]
      simp [he, hf]
      ring
    · have hb : (e.1 == k) = false := by simp [he]
      have := ih hnd.2
      simp only [List.map_cons, List.sum_cons, List.find?_cons, List.filter_cons, hb,
        Bool.not_false, if_true] at this ⊢
      linarith

omit [BEq κ] [LawfulBEq κ] in
theorem sumBy_nonneg {m : KeyMap κ α} {f : κ → α → Int} (h : ∀ e ∈ m.entries, 0 ≤ f e.1 e.2) :
    0 ≤ m.sumBy f := by
  refine List.sum_nonneg fun x hx => ?_
  obtain ⟨e, he, rfl⟩ := List.mem_map.mp hx
  exact h e he

theorem sumBy_insert {m : KeyMap κ α} (k : κ) (v : α) (f : κ → α → Int) (hnd : m.keys.Nodup) :
    (m.insert k v).sumBy f + ((m.get? k).map (f k)).getD 0 = m.sumBy f + f k v := by
  obtain ⟨l⟩ := m
  have hs := sum_map_overwrite l k v f hnd
  rw [sumBy, entries_insert]
  by_cases hc : (l.any fun x => x.1 == k) = true
  · simp only [contains, hc, if_true] at hs ⊢
    simpa [sumBy, get?, Option.map_map, Function.comp_def] using hs
  · simp [contains, hc, get?, find?_key_eq_none hc, sumBy]

theorem sumBy_erase {m : KeyMap κ α} (k : κ) (f : κ → α → Int) (hnd : m.keys.Nodup) :
    (m.erase k).sumBy f + ((m.get? k).map (f k)).getD 0 = m.sumBy f := by
  obtain ⟨l⟩ := m
  simpa [sumBy, entries_erase, get?, Option.map_map, Function.comp_def] using
    sum_map_filter_key l k f hnd

theorem getD_eq_or_mem (m : KeyMap κ α) (k : κ) (d : α) :
    m.getD k d = d ∨ (k, m.getD k d) ∈ m.entries := by
  unfold getD get?
  cases h : m.entries.find? (·.1 == k) with
  | none => exact .inl rfl
  | some e =>
    right
    have hk : e.1 = k := by simpa using List.find?_some h
    have he : e ∈ m.entries := List.mem_of_find?_eq_some h
    simpa [← hk] using he

def Positive (m : KeyMap κ Int) : Prop := m.keys.Nodup ∧ ∀ e ∈ m.entries, 0 < e.2

theorem Positive.insert {m : KeyMap κ Int} (hp : m.Positive) (k : κ) {x : Int} (hx : 0 < x) :
    (m.insert k x).Positive := by
  refine ⟨keys_insert_nodup k x hp.1, fun e he => ?_⟩
  rcases mem_insert he with rfl | he
  · exact hx
  · exact hp.2 e he

omit [LawfulBEq κ] in
theorem Positive.erase {m : KeyMap κ Int} (hp : m.Positive) (k : κ) : (m.erase k).Positive :=
  ⟨keys_erase_nodup k hp.1, fun e he => hp.2 e (mem_erase he)⟩

theorem Positive.getD_nonneg {m : KeyMap κ Int} (hp : m.Positive) (k : κ) : 0 ≤ m.getD k 0 := by
  rcases getD_eq_or_mem m k 0 with h | h
  · rw [h]
  · exact (hp.2 _ h).le

theorem mem_of_get? {m : KeyMap κ α} {k : κ} {v : α} (h : m.get? k = some v) :
    (k, v) ∈ m.entries := by
  unfold get? at h
  obtain ⟨e, he, rfl⟩ := Option.map_eq_some_iff.mp h
  have hk : e.1 = k := by simpa using List.find?_some he
  simpa [← hk] using List.mem_of_find?_eq_some he

omit [LawfulBEq κ] in
theorem get?_map_getD (m : KeyMap κ α) (k : κ) (f : α → Int) {d : α} (hd : f d = 0) :
    ((m.get? k).map f).getD 0 = f (m.getD k d) := by
  unfold getD
  cases m.get? k <;> simp [hd]

def NonnegBy (m : KeyMap κ α) (f : α → Int) : Prop := m.keys.Nodup ∧ ∀ e ∈ m.entries, 0 ≤ f e.2

variable {m : KeyMap κ α} {f : α → Int}

theorem NonnegBy.insert (hm : m.NonnegBy f) (k : κ) {v : α} (hv : 0 ≤ f v) :
    (m.insert k v).NonnegBy f := by
  refine ⟨keys_insert_nodup k v hm.1, fun e he => ?_⟩
  rcases mem_insert he with rfl | he
  · exact hv
  · exact hm.2 e he

omit [LawfulBEq κ] in
theorem NonnegBy.erase (hm : m.NonnegBy f) (k : κ) : (m.erase k).NonnegBy f :=
  ⟨keys_erase_nodup k hm.1, fun e he => hm.2 e (mem_erase he)⟩

theorem NonnegBy.of_get? (hm : m.NonnegBy f) {k : κ} {v : α} (h : m.get? k = some v) : 0 ≤ f v :=
  hm.2 _ (mem_of_get? h)

theorem NonnegBy.getD (hm : m.NonnegBy f) (k : κ) {d : α} (hd : 0 ≤ f d) : 0 ≤ f (m.getD k d) := by
  rcases getD_eq_or_mem m k d with h | h
  · rw [h]
    exact hd
  · exact hm.2 _ h

theorem NonnegBy.le_sumBy (hm : m.NonnegBy f) {k : κ} {v : α} (h : m.get? k = some v) :
    f v ≤ m.sumBy fun _ v => f v := by
  have hs := sumBy_erase k (fun _ v => f v) hm.1
  have hr : 0 ≤ (m.erase k).sumBy fun _ v => f v := sumBy_nonneg fun e he => hm.2 e (mem_erase he)
  rw [h] at hs
  simp only [Option.map_some, Option.getD_some] at hs
  omega

end Bonding.KeyMap

import Mathlib
import Bonding.Proofs.Quotes
set_option autoImplicit false

/-!
Numbers read back from the texts they are written as. A message carries its numbers as text: a word
as a JSON number in decimal, an amount as a string in decimal with an optional minus, and a decimal
as a string with all eighteen fractional digits after a point. Reading takes them apart again:
words and amounts digit by digit, an amount with the base taken from a prefix that decimal digits
never start with, a decimal by splitting at its point. Each reads back to the number written, as
long as it lies in the range the reader accepts.
-/

namespace Bonding

/-! ### Splitting at a separator -/

open String in
/-- Scanning for a one-character separator from a split boundary: the parts already cut, then the
characters after the boundary split at each occurrence. -/
theorem String.splitOnAux_singleton (c : Char) (r l m : List Char) (acc : List String) :
    splitOnAux (ofList (l ++ m ++ r)) (singleton c) ⟨utf8Len l⟩ ⟨utf8Len l + utf8Len m⟩ 0 acc =
      acc.reverse ++ (List.splitOnPPrepend (· == c) r m.reverse).map ofList := by
  have hget : Pos.Raw.get (singleton c) 0 = c := by
    simpa using get_of_valid [] [c]
  have hnext : Pos.Raw.next (singleton c) 0 = ⟨c.utf8Size⟩ := by
    simpa using next_of_valid [] c []
  have hend : (singleton c).rawEndPos = ⟨c.utf8Size⟩ := by
    rw [singleton_eq_ofList, rawEndPos_ofList]
    simp
  -- the scan of Batteries' splitToList, with a separator matched in one step
  induction r generalizing l m acc with
  | nil =>
    unfold splitOnAux
    simp only [List.append_nil, atEnd_iff, rawEndPos_ofList, utf8Len_append, Pos.Raw.mk_le_mk,
      le_refl, if_true, List.reverse_cons, List.splitOnPPrepend_nil,
      List.reverse_reverse, List.map_cons, List.map_nil]
    simpa using extract_of_valid l m []
  | cons x r ih =>
    unfold splitOnAux
    simp only [List.append_assoc, atEnd_iff, rawEndPos_ofList, utf8Len_append, Pos.Raw.mk_le_mk,
      Nat.add_le_add_iff_left, utf8Len_cons, hget, hnext, hend, Pos.Raw.unoffsetBy,
      Pos.Raw.byteIdx_zero, Nat.sub_zero, le_refl, if_true]
    simp only [by
      simpa [-ofList_append] using
        (⟨get_of_valid (l ++ m) (x :: r), next_of_valid (l ++ m) x r,
            extract_of_valid l m (x :: r)⟩ :
          _ ∧ _ ∧ _)]
    have hpos : ¬utf8Len m + (utf8Len r + x.utf8Size) ≤ utf8Len m := by
      have := x.utf8Size_pos
      omega
    rw [if_neg hpos, List.splitOnPPrepend_cons_eq_if]
    by_cases hx : x = c
    · subst hx
      have hcut : Pos.Raw.extract (ofList (l ++ (m ++ x :: r))) ⟨utf8Len l⟩ ⟨utf8Len l + utf8Len m⟩ =
          ofList m := by
        simpa using extract_of_valid l m (x :: r)
      have hrest := ih (l ++ m ++ [x]) [] (ofList m :: acc)
      simp only [List.append_nil, List.append_assoc, List.cons_append, List.nil_append,
        utf8Len_append, utf8Len_cons, utf8Len_nil, List.reverse_nil, Nat.zero_add, Nat.add_zero,
        ← Nat.add_assoc, List.splitOnPPrepend_nil_right] at hrest
      simp only [beq_self_eq_true, if_true, Nat.add_sub_cancel, hcut]
      rw [hrest]
      simp
    · have hrest := ih l (m ++ [x]) acc
      simp only [List.append_assoc, List.cons_append, List.nil_append, utf8Len_append,
        utf8Len_cons, utf8Len_nil, List.reverse_append, List.reverse_cons, List.reverse_nil,
        Nat.zero_add, ← Nat.add_assoc] at hrest
      have hx' : (x == c) = false := by simpa using hx
      simp only [hx', Bool.false_eq_true, if_false]
      rw [hrest]

theorem String.splitOn_singleton (s : String) (c : Char) :
    s.splitOn (String.singleton c) = (s.toList.splitOn c).map String.ofList := by
  have hne : (String.singleton c == "") = false := by
    rw [beq_eq_false_iff_ne, ne_eq, ← String.toList_inj]
    simp
  rw [String.splitOn, hne, if_neg Bool.false_ne_true]
  have h := String.splitOnAux_singleton c s.toList [] [] []
  simp only [List.nil_append, String.utf8Len_nil, Nat.add_zero, List.reverse_nil,
    List.splitOnPPrepend_nil_right, String.ofList_toList] at h
  rw [List.splitOn_eq_splitOnP]
  exact h

/-! ### Amounts -/

namespace Int256

theorem digitValue_of_isDigit {c : Char} (h : c.isDigit) : digitValue c = c.toNat - '0'.toNat := by
  have hle : '0' ≤ c ∧ c ≤ '9' := by
    simp only [Char.isDigit, Bool.and_eq_true, decide_eq_true_eq] at h
    exact ⟨h.1, h.2⟩
  rw [digitValue, if_pos hle]

theorem digitValue_lt_ten {c : Char} (h : c.isDigit) : digitValue c < 10 := by
  rw [digitValue_of_isDigit h]
  have := Char.isDigit_iff_toNat.1 h
  simp only [Char.reduceToNat] at this ⊢
  omega

theorem readDigits_digits (seps prev : Bool) (acc count : Nat) (bad : Bool) (ds : List Char)
    (hd : ∀ c ∈ ds, c.isDigit) :
    readDigits 10 seps prev acc count bad ds =
      (Nat.ofDigitChars 10 ds acc, count + ds.length, bad, prev || !ds.isEmpty, []) := by
  induction ds generalizing prev acc count with
  | nil => simp [readDigits, Nat.ofDigitChars_nil]
  | cons c ds ih =>
    have hc := hd c List.mem_cons_self
    have hsep : (c == '_') = false := by
      rw [beq_eq_false_iff_ne]
      rintro rfl
      simp at hc
    rw [readDigits, hsep, Bool.false_and, if_neg Bool.false_ne_true, if_pos (digitValue_lt_ten hc),
      ih _ _ _ (fun x hx => hd x (List.mem_cons_of_mem _ hx)), Nat.ofDigitChars_cons,
      digitValue_of_isDigit hc]
    simp [Nat.mul_comm, Nat.add_assoc, Nat.add_comm 1]

theorem readLiteral_digits {ds : List Char} (hne : ds ≠ []) (hd : ∀ c ∈ ds, c.isDigit) :
    readLiteral (String.ofList ds) 10 = some (Nat.ofDigitChars 10 ds 0) := by
  obtain ⟨c, cs, rfl⟩ := List.exists_cons_of_ne_nil hne
  have hc := hd c List.mem_cons_self
  have hminus : c ≠ '-' := by rintro rfl; simp at hc
  have hplus : c ≠ '+' := by rintro rfl; simp at hc
  unfold readLiteral
  simp only [String.toList_ofList]
  split
  · rename_i h
    simp_all
  · rename_i h
    simp_all
  · have h10 : (10 != 0) = true := rfl
    simp only [h10, if_true, List.isEmpty_cons, Bool.false_eq_true, if_false]
    rw [readDigits_digits _ _ _ _ _ _ hd]
    simp

theorem toDigits_head_ne_zero {n : Nat} (h : n ≠ 0) :
    ∃ c cs, Nat.toDigits 10 n = c :: cs ∧ c ≠ '0' := by
  induction n using Nat.strongRecOn with
  | ind n ih =>
    rw [Nat.toDigits_eq_if (by decide)]
    split
    · exact ⟨_, [], rfl, by simpa using h⟩
    · obtain ⟨c, cs, hcs, hc⟩ := ih (n / 10) (by omega) (by omega)
      exact ⟨c, cs ++ [Nat.digitChar (n % 10)], by rw [hcs, List.cons_append], hc⟩

/-- A number written in decimal with an optional minus reads back with the base taken from the
text: its digits carry no base prefix. -/
theorem readLiteral_sign_digits (neg : Bool) (n : Nat) :
    readLiteral (String.ofList ((if neg then ['-'] else []) ++ Nat.toDigits 10 n)) 0 =
      some (if neg then -(n : Int) else n) := by
  by_cases hn : n = 0
  · subst hn
    cases neg <;> decide
  obtain ⟨c, cs, hcs, hc0⟩ := toDigits_head_ne_zero hn
  have hd : ∀ x ∈ c :: cs, x.isDigit := hcs ▸ digits_isDigit n
  have hc := hd c List.mem_cons_self
  have hminus : c ≠ '-' := by rintro rfl; simp at hc
  have hplus : c ≠ '+' := by rintro rfl; simp at hc
  have hread : readDigits 10 true false 0 0 false (c :: cs) = (n, (c :: cs).length, false, true, []) := by
    have hval : Nat.ofDigitChars 10 (c :: cs) 0 = n := by
      rw [← hcs, Nat.ofDigitChars_ten_toDigits]
    rw [readDigits_digits _ _ _ _ _ _ hd, hval]
    simp
  unfold readLiteral
  rw [hcs]
  -- the sign, then the base prefix that a leading zero would start
  cases neg <;> simp only [String.toList_ofList, Bool.false_eq_true, if_false, if_true,
    List.nil_append, List.cons_append] <;> split <;> simp_all

theorem readLiteral_render (x : Int) : readLiteral (render x) 0 = some x := by
  have htext : render x = String.ofList ((if x < 0 then ['-'] else []) ++ Nat.toDigits 10 x.natAbs) := by
    rw [← String.toList_inj]
    unfold render
    split <;> simp [Nat.toList_repr]
  have hread := readLiteral_sign_digits (decide (x < 0)) x.natAbs
  simp only [decide_eq_true_eq] at hread
  rw [htext, hread, Option.some.injEq]
  split <;> omega

end Int256

/-! ### Decimals -/

theorem utf8Len_digits {l : List Char} (h : ∀ c ∈ l, c.isDigit) : String.utf8Len l = l.length := by
  induction l with
  | nil => rfl
  | cons c l ih =>
    have hc := Char.isDigit_iff_toNat.1 (h c List.mem_cons_self)
    have hone : c.utf8Size = 1 := by
      rw [Char.utf8Size_eq_one_iff]
      simp only [Char.reduceToNat] at hc
      have h57 : c.val.toNat ≤ 57 := hc.2
      have h127 : (127 : UInt32).toNat = 127 := rfl
      rw [UInt32.le_iff_toNat_le]
      omega
    simp [ih (fun x hx => h x (List.mem_cons_of_mem _ hx)), hone]

/-- The text of a decimal: an optional minus, then the padded digits of its magnitude with a point
before the last eighteen. -/
theorem Dec.render_toList (d : Dec) : ∃ w f : List Char,
    d.render.toList = (if d.units < 0 then ['-'] else []) ++ (w ++ '.' :: f) ∧ w ≠ [] ∧
      f.length = Dec.places ∧ (∀ c ∈ w ++ f, c.isDigit) ∧
      Nat.ofDigitChars 10 (w ++ f) 0 = d.units.natAbs := by
  unfold Dec.render
  simp only [Nat.toString_eq_repr]
  obtain ⟨k, hP, hlong⟩ := Dec.padded_toList d.units.natAbs
  generalize (if (Nat.repr d.units.natAbs).length ≤ Dec.places then _ else _) = padded at hP
  have hlen : padded.length = padded.toList.length := String.length_toList.symm
  have hdigits : ∀ c ∈ padded.toList, c.isDigit := by
    rw [hP]
    intro c hc
    rcases List.mem_append.1 hc with hz | hd
    · simp [List.eq_of_mem_replicate hz]
    · exact digits_isDigit _ c hd
  refine ⟨padded.toList.take (padded.length - Dec.places), padded.toList.drop (padded.length - Dec.places),
    by split <;> simp, ?_, ?_, by rwa [List.take_append_drop], ?_⟩
  · rw [← hP, ← hlen] at hlong
    have hne : padded.toList ≠ [] := by
      rw [← List.length_pos_iff, ← hlen]
      omega
    rw [ne_eq, List.take_eq_nil_iff, not_or]
    exact ⟨by omega, hne⟩
  · rw [List.length_drop, ← hlen]
    rw [← hP, ← hlen] at hlong
    omega
  · rw [List.take_append_drop, ← filter_point_of_digits hdigits, hP]
    exact (unsignedValue_zeros_append k _).trans (unsignedValue_toDigits _)

theorem dot_not_mem_digits {l : List Char} (h : ∀ c ∈ l, c.isDigit) : '.' ∉ l :=
  fun hm => by simpa using h _ hm

/-- A signed digit text with a point before its last eighteen digits reads as the number it
spells. -/
theorem Dec.read_digits (neg : Bool) {w f : List Char} (hw : w ≠ []) (hf : f.length = Dec.places)
    (hd : ∀ c ∈ w ++ f, c.isDigit) (hlim : Nat.ofDigitChars 10 (w ++ f) 0 < Dec.limit) :
    Dec.read (String.ofList ((if neg then ['-'] else []) ++ (w ++ '.' :: f))) =
      .ok ⟨if neg then -(Nat.ofDigitChars 10 (w ++ f) 0 : Int) else Nat.ofDigitChars 10 (w ++ f) 0⟩ := by
  have hdw : ∀ c ∈ w, c.isDigit := fun c hc => hd c (List.mem_append_left _ hc)
  have hdf : ∀ c ∈ f, c.isDigit := fun c hc => hd c (List.mem_append_right _ hc)
  have hsplit : (String.ofList (w ++ '.' :: f)).splitOn "." = [String.ofList w, String.ofList f] := by
    rw [show "." = String.singleton '.' by decide, String.splitOn_singleton, String.toList_ofList,
      show w ++ '.' :: f = ['.'].intercalate [w, f] by simp, List.splitOn_intercalate]
    · simp
    · simpa using ⟨dot_not_mem_digits hdw, dot_not_mem_digits hdf⟩
    · simp
  have hfrac : (String.ofList f).utf8ByteSize = Dec.places := by
    rw [← String.utf8Len_toList, String.toList_ofList, utf8Len_digits hdf, hf]
  obtain ⟨c, w', rfl⟩ := List.exists_cons_of_ne_nil hw
  have hc := hdw c List.mem_cons_self
  have hminus : c ≠ '-' := by rintro rfl; simp at hc
  unfold Dec.read
  have hread := Int256.readLiteral_digits (List.cons_ne_nil c (w' ++ f)) hd
  simp only [List.cons_append] at hsplit hread hlim
  have hf0 : f ≠ [] := by
    rintro rfl
    simp [Dec.places] at hf
  -- the sign, then the parts around the point
  cases neg <;> simp only [String.toList_ofList, Bool.false_eq_true, if_false, if_true,
    List.nil_append, List.cons_append] <;> split <;>
    simp_all [String.append_assoc] <;> rw [if_neg (not_le.mpr hlim)] <;> rfl

theorem Dec.read_render {d : Dec} (h : d.units.natAbs < Dec.limit) : Dec.read d.render = .ok d := by
  obtain ⟨w, f, htext, hw, hf, hd, hval⟩ := Dec.render_toList d
  have hread := Dec.read_digits (decide (d.units < 0)) hw hf hd (hval ▸ h)
  simp only [decide_eq_true_eq, hval] at hread
  rw [← String.ofList_toList (s := d.render), htext, hread, Except.ok.injEq]
  obtain ⟨u⟩ := d
  simp only [Dec.mk.injEq]
  split <;> omega

/-! ### Words -/

namespace Json

theorem digitsValue?_toDigits (n : Nat) : digitsValue? (Nat.toDigits 10 n) = some n := by
  have hall : (Nat.toDigits 10 n).all Char.isDigit = true := List.all_eq_true.2 (digits_isDigit n)
  have hfold : (Nat.toDigits 10 n).foldl (fun a c => a * 10 + (c.toNat - '0'.toNat)) 0 = n := by
    conv => rhs; rw [← Nat.ofDigitChars_ten_toDigits (n := n)]
    simp only [Nat.ofDigitChars_eq_foldl, Nat.mul_comm]
  simp only [digitsValue?, hall, Nat.toDigits_ne_nil, List.isEmpty_iff, Bool.not_true,
    Bool.or_false, if_false]
  exact congrArg some hfold

theorem unsignedText?_toString {n bound : Nat} (h : n < bound) :
    unsignedText? (toString n) bound = some n := by
  rw [unsignedText?, Nat.toString_eq_repr, Nat.toList_repr, digitsValue?_toDigits]
  exact if_pos h

end Json

end Bonding

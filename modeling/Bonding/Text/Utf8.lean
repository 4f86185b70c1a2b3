/-!
UTF-8 read leniently: the shortest encoding of each character is read, and a byte that starts
no valid sequence (a stray continuation byte, a truncated or overlong sequence, a surrogate or a
value above U+10FFFF) reads as one replacement character U+FFFD.
-/

namespace Bonding.Utf8

def isContinuation (b : Nat) : Bool := 0x80 ≤ b && b < 0xC0

/-- The character that a valid UTF-8 sequence at the head of the bytes encodes, with the
sequence's length: shortest forms only, no surrogates, nothing above U+10FFFF. -/
def leadingChar? : List Nat → Option (Char × Nat)
  | b0 :: rest =>
    if b0 < 0x80 then some (Char.ofNat b0, 1)
    else if 0xC2 ≤ b0 && b0 < 0xE0 then
      match rest with
      | b1 :: _ => if isContinuation b1 then some (Char.ofNat ((b0 - 0xC0) * 64 + (b1 - 0x80)), 2) else none
      | [] => none
    else if 0xE0 ≤ b0 && b0 < 0xF0 then
      match rest with
      | b1 :: b2 :: _ =>
        let lo := if b0 == 0xE0 then 0xA0 else 0x80
        let hi := if b0 == 0xED then 0xA0 else 0xC0
        if lo ≤ b1 && b1 < hi && isContinuation b2 then
          some (Char.ofNat (((b0 - 0xE0) * 64 + (b1 - 0x80)) * 64 + (b2 - 0x80)), 3)
        else none
      | _ => none
    else if 0xF0 ≤ b0 && b0 < 0xF5 then
      match rest with
      | b1 :: b2 :: b3 :: _ =>
        let lo := if b0 == 0xF0 then 0x90 else 0x80
        let hi := if b0 == 0xF4 then 0x90 else 0xC0
        if lo ≤ b1 && b1 < hi && isContinuation b2 && isContinuation b3 then
          some (Char.ofNat ((((b0 - 0xF0) * 64 + (b1 - 0x80)) * 64 + (b2 - 0x80)) * 64 + (b3 - 0x80)), 4)
        else none
      | _ => none
    else none
  | [] => none

def decodeLossy (bs : List Nat) : List Char :=
  match bs with
  | [] => []
  | b :: rest =>
    match leadingChar? (b :: rest) with
    | some (c, width) => c :: decodeLossy ((b :: rest).drop (max width 1))
    | none => Char.ofNat 0xFFFD :: decodeLossy rest
termination_by bs.length
decreasing_by all_goals simp only [List.length_drop, List.length_cons]; omega

end Bonding.Utf8

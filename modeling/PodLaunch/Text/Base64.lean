/-!
# Bytes in base 64

Four digits stand for three bytes; equals signs fill up the last group. Characters that are no
digits are passed over.
-/

namespace PodLaunch.Text

/-- The digits of base 64, in order. -/
def base64Digits : List Char :=
  "ABCDEFGHIJKLMNOPQRSTUVWXYZabcdefghijklmnopqrstuvwxyz0123456789+/".toList

/-- The value of a digit of base 64. -/
def base64Value? (c : Char) : Option Nat :=
  base64Digits.findIdx? (· == c)

/-- The bytes that digits stand for, behind the digits of an incomplete group (last one first) and a
number of equals signs. The signs that complete a group end the bytes, whatever follows them. -/
def decodeBase64From (group : List Nat) (padding : Nat) : List Char → Option (List UInt8)
  | [] => if group.isEmpty then some [] else none
  | '=' :: rest =>
    match group, padding with
    | [z, y, x], _ =>
      let bits := (x * 64 + y) * 64 + z
      some [UInt8.ofNat (bits / 1024), UInt8.ofNat (bits / 4)]
    | [y, x], _ + 1 => some [UInt8.ofNat ((x * 64 + y) / 16)]
    | [_, _], 0 => decodeBase64From group 1 rest
    | _, _ => decodeBase64From group padding rest
  | c :: rest =>
    match base64Value? c, group with
    | none, _ => decodeBase64From group padding rest
    | some digit, [z, y, x] =>
      let bits := ((x * 64 + y) * 64 + z) * 64 + digit
      (decodeBase64From [] 0 rest).map fun bytes =>
        UInt8.ofNat (bits / 65536) :: UInt8.ofNat (bits / 256) :: UInt8.ofNat bits :: bytes
    | some digit, _ => decodeBase64From (digit :: group) 0 rest

/-- The bytes that a text in base 64 stands for. -/
def decodeBase64 (s : List Char) : Option (List UInt8) :=
  decodeBase64From [] 0 s

end PodLaunch.Text

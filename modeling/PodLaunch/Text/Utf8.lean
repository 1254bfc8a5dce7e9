import PodLaunch.Text.Hexadecimal
import PodLaunch.Text.Lines

/-!
# Decoding UTF-8

Bytes become characters, up to the first ill-formed sequence, which is reported with its place, its
bytes and what is wrong with it. Overlong forms, surrogates and numbers above the last code point
are ill-formed. The bytes of a file are decoded in portions.
-/

namespace PodLaunch.Text

/-- What is wrong with an ill-formed sequence. -/
inductive Utf8Defect where
  /-- The byte begins no sequence. -/
  | start
  /-- A byte that has to continue the sequence does not. -/
  | continuation
  /-- The bytes end within the sequence. -/
  | truncated
  deriving DecidableEq, Repr

/-- The first ill-formed sequence of some bytes. -/
structure Utf8Error where
  /-- Where the sequence begins. -/
  offset : Nat
  /-- The bytes of the sequence, up to the defect. -/
  bytes : List UInt8
  /-- What is wrong. -/
  defect : Utf8Defect
  deriving DecidableEq, Repr

/-- The defect in words. -/
def Utf8Defect.message : Utf8Defect → String
  | .start => "invalid start byte"
  | .continuation => "invalid continuation byte"
  | .truncated => "unexpected end of data"

/-- The report of an ill-formed sequence. -/
def Utf8Error.message (error : Utf8Error) : String :=
  let place :=
    match error.bytes with
    | [byte] =>
      "byte 0x" ++ String.ofList (hexNumeral 2 byte.toNat) ++ " in position " ++
        toString error.offset
    | bytes =>
      "bytes in position " ++ toString error.offset ++ "-" ++
        toString (error.offset + bytes.length - 1)
  "'utf-8' codec can't decode " ++ place ++ ": " ++ error.defect.message

/-- Whether a byte may continue a sequence. -/
def isContinuation (byte : UInt8) : Bool :=
  0x80 ≤ byte && byte < 0xc0

/-- Whether the second byte of a sequence fits the first: it continues it and makes the sequence
neither overlong nor a surrogate nor too large. -/
def isSecondByte (first second : UInt8) : Bool :=
  isContinuation second &&
    !(first == 0xe0 && second < 0xa0) && !(first == 0xed && 0xa0 ≤ second) &&
    !(first == 0xf0 && second < 0x90) && !(first == 0xf4 && 0x90 ≤ second)

/-- The six bits that a continuing byte adds. -/
def continuationBits (byte : UInt8) : Nat :=
  byte.toNat % 64

/-- What comes out of some bytes. -/
structure Decoded where
  /-- The characters in front of the first ill-formed sequence. -/
  chars : List Char
  /-- The first ill-formed sequence, if there is one. -/
  error : Option Utf8Error
  deriving DecidableEq, Repr

/-- Decode bytes that begin at an offset, after the characters before them (last one first). -/
def decodeUtf8From (offset : Nat) (before : List Char) : List UInt8 → Decoded
  | [] => ⟨before.reverse, none⟩
  | first :: rest =>
    let stop (bytes : List UInt8) (defect : Utf8Defect) : Decoded :=
      ⟨before.reverse, some ⟨offset, bytes, defect⟩⟩
    if first < 0x80 then
      decodeUtf8From (offset + 1) (Char.ofNat first.toNat :: before) rest
    else if first < 0xc2 || 0xf5 ≤ first then stop [first] .start
    else
      match rest with
      | [] => stop [first] .truncated
      | second :: rest =>
        if !isSecondByte first second then stop [first] .continuation
        else if first < 0xe0 then
          let code := first.toNat % 32 * 64 + continuationBits second
          decodeUtf8From (offset + 2) (Char.ofNat code :: before) rest
        else
          match rest with
          | [] => stop [first, second] .truncated
          | third :: rest =>
            if !isContinuation third then stop [first, second] .continuation
            else if first < 0xf0 then
              let code :=
                (first.toNat % 16 * 64 + continuationBits second) * 64 + continuationBits third
              decodeUtf8From (offset + 3) (Char.ofNat code :: before) rest
            else
              match rest with
              | [] => stop [first, second, third] .truncated
              | fourth :: rest =>
                if !isContinuation fourth then stop [first, second, third] .continuation
                else
                  let code :=
                    ((first.toNat % 8 * 64 + continuationBits second) * 64 +
                      continuationBits third) * 64 + continuationBits fourth
                  decodeUtf8From (offset + 4) (Char.ofNat code :: before) rest

/-- Decode bytes. -/
def decodeUtf8 (bytes : List UInt8) : Except Utf8Error (List Char) :=
  let decoded := decodeUtf8From 0 [] bytes
  match decoded.error with
  | none => .ok decoded.chars
  | some error => .error error

/-! ## Files -/

/-- The number of bytes of a file that are decoded together. -/
def portionSize : Nat := 8192

/-- Decode the bytes of a file behind the beginning of a sequence that is still incomplete. What is
wrong is reported with its place in what is decoded together; characters from the same portion are
lost. The first argument bounds the number of portions. -/
def decodePortions : Nat → List UInt8 → List UInt8 → Decoded
  | 0, _, _ => ⟨[], none⟩
  | count + 1, incomplete, bytes =>
    let decoded := decodeUtf8From 0 [] (incomplete ++ bytes.take portionSize)
    match decoded.error with
    | some ⟨offset, sequence, .truncated⟩ =>
      if bytes.isEmpty then ⟨[], some ⟨offset, sequence, .truncated⟩⟩
      else
        let rest := decodePortions count sequence (bytes.drop portionSize)
        ⟨decoded.chars ++ rest.chars, rest.error⟩
    | some error => ⟨[], some error⟩
    | none =>
      if bytes.isEmpty then decoded
      else
        let rest := decodePortions count [] (bytes.drop portionSize)
        ⟨decoded.chars ++ rest.chars, rest.error⟩

/-- The text of a file, with every line end written as a line feed. A carriage return at the place
where the decoding stops is not settled. -/
def decodeFile (content : List UInt8) : Decoded :=
  let decoded := decodePortions (content.length / portionSize + 2) [] content
  let isUnsettled := decoded.error.isSome && decoded.chars.getLast? = some '\r'
  let chars := if isUnsettled then decoded.chars.dropLast else decoded.chars
  ⟨unifyLineEnds chars, decoded.error⟩

/-- The bytes of a text. -/
def encodeUtf8 (s : String) : List UInt8 :=
  s.toUTF8.toList

end PodLaunch.Text

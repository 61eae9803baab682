import DocIndex.Data.Show

/-!
# UTF-8 decoding

Bytes decode to text one sequence at a time. A sequence goes wrong in one of three ways:
its first byte cannot start a sequence, a later byte is not a valid continuation (the
second byte of a three- or four-byte sequence is also held to the range that excludes
overlong forms, surrogates and code points above U+10FFFF), or the data ends inside it.
A wrong sequence spans its first byte and the valid continuations after it; at the end of
the data it spans the rest. Strict decoding reports the first wrong sequence; lossy
decoding writes one U+FFFD for each and goes on after it.
-/

namespace DocIndex.Text

/-- What is wrong with a byte sequence. -/
inductive DecodeIssue where
  | invalidStart
  | invalidContinuation
  | unexpectedEnd
  deriving DecidableEq, Repr

/-- How a decoding problem is described. -/
def DecodeIssue.text : DecodeIssue → String
  | .invalidStart => "invalid start byte"
  | .invalidContinuation => "invalid continuation byte"
  | .unexpectedEnd => "unexpected end of data"

/-- The result of reading one sequence: a character and the bytes it used, or a problem
and the bytes the wrong sequence spans. -/
inductive Scalar where
  | char (c : Char) (used : Nat)
  | wrong (issue : DecodeIssue) (span : Nat)

/-- Whether a byte continues a sequence. -/
def isContinuation (byte : UInt8) : Bool :=
  0x80 ≤ byte.toNat && byte.toNat < 0xC0

/-- The low six bits of a continuation byte. -/
def low6 (byte : UInt8) : Nat :=
  byte.toNat % 64

/-- The range the second byte of a sequence must lie in, given the first byte. -/
def secondByteFits (first second : UInt8) : Bool :=
  let b := second.toNat
  match first.toNat with
  | 0xE0 => 0xA0 ≤ b && b < 0xC0
  | 0xED => 0x80 ≤ b && b < 0xA0
  | 0xF0 => 0x90 ≤ b && b < 0xC0
  | 0xF4 => 0x80 ≤ b && b < 0x90
  | _ => isContinuation second

/-- Read the sequence at the front of some bytes. -/
def readScalar : List UInt8 → Scalar
  | [] => .wrong .unexpectedEnd 0
  | first :: more =>
    let lead := first.toNat
    if lead < 0x80 then .char (Char.ofNat lead) 1
    else if lead < 0xC2 then .wrong .invalidStart 1
    else if lead < 0xE0 then
      match more with
      | [] => .wrong .unexpectedEnd 1
      | second :: _ =>
        if isContinuation second then .char (Char.ofNat ((lead % 32) * 64 + low6 second)) 2
        else .wrong .invalidContinuation 1
    else if lead < 0xF0 then
      match more with
      | [] => .wrong .unexpectedEnd 1
      | [second] =>
        if secondByteFits first second then .wrong .unexpectedEnd 2
        else .wrong .invalidContinuation 1
      | second :: third :: _ =>
        if !secondByteFits first second then .wrong .invalidContinuation 1
        else if !isContinuation third then .wrong .invalidContinuation 2
        else .char (Char.ofNat ((lead % 16) * 4096 + low6 second * 64 + low6 third)) 3
    else if lead < 0xF5 then
      match more with
      | [] => .wrong .unexpectedEnd 1
      | [second] =>
        if secondByteFits first second then .wrong .unexpectedEnd 2
        else .wrong .invalidContinuation 1
      | [second, third] =>
        if !secondByteFits first second then .wrong .invalidContinuation 1
        else if !isContinuation third then .wrong .invalidContinuation 2
        else .wrong .unexpectedEnd 3
      | second :: third :: fourth :: _ =>
        if !secondByteFits first second then .wrong .invalidContinuation 1
        else if !isContinuation third then .wrong .invalidContinuation 2
        else if !isContinuation fourth then .wrong .invalidContinuation 3
        else .char (Char.ofNat ((lead % 8) * 262144 + low6 second * 4096 + low6 third * 64 +
          low6 fourth)) 4
    else .wrong .invalidStart 1

/-- The first wrong sequence in some bytes: where it starts, the bytes it spans and what
is wrong. -/
structure DecodeError where
  start : Nat
  bytes : List UInt8
  issue : DecodeIssue

/-- How a decoding error is described. -/
def DecodeError.message (error : DecodeError) : String :=
  let what := match error.bytes with
    | [byte] => "byte 0x" ++ Data.hexPadded 2 byte.toNat ++ " in position " ++ toString error.start
    | bytes => "bytes in position " ++ toString error.start ++ "-" ++
      toString (error.start + bytes.length - 1)
  "'utf-8' codec can't decode " ++ what ++ ": " ++ error.issue.text

/-- Decode bytes strictly, from `position`, with `acc` the characters read so far, last
first; `fuel` bounds the number of sequences. -/
def decodeFrom (acc : List Char) (position : Nat) : Nat → List UInt8 → Except DecodeError String
  | _, [] => .ok (String.ofList acc.reverse)
  | 0, _ => .ok (String.ofList acc.reverse)
  | fuel + 1, bytes =>
    match readScalar bytes with
    | .char c used => decodeFrom (c :: acc) (position + used) fuel (bytes.drop used)
    | .wrong issue span =>
      let spanned := if issue = .unexpectedEnd then bytes.length else span
      .error ⟨position, bytes.take spanned, issue⟩

/-- Decode bytes strictly. -/
def decodeStrict (bytes : List UInt8) : Except DecodeError String :=
  decodeFrom [] 0 bytes.length bytes

/-- Decode bytes, writing U+FFFD for each wrong sequence; `fuel` bounds the number of
sequences. -/
def decodeLossyFrom (acc : List Char) : Nat → List UInt8 → String
  | _, [] => String.ofList acc.reverse
  | 0, _ => String.ofList acc.reverse
  | fuel + 1, bytes =>
    match readScalar bytes with
    | .char c used => decodeLossyFrom (c :: acc) fuel (bytes.drop used)
    | .wrong issue span =>
      let spanned := if issue = .unexpectedEnd then bytes.length else span
      decodeLossyFrom ('\uFFFD' :: acc) fuel (bytes.drop spanned)

/-- Decode bytes, replacing each wrong sequence by U+FFFD. -/
def decodeLossy (bytes : List UInt8) : String :=
  decodeLossyFrom [] bytes.length bytes

end DocIndex.Text

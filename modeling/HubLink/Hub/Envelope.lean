import HubLink.Error
/-!
Envelopes: every hub message body travels behind its length, written as a little-endian
base-128 varint (seven bits per byte, the top bit set on all but the last byte). A length takes
at most five bytes and is below 2 GB; a fifth byte above 7 would pass that bound and is
refused. Splitting an envelope off the front of a buffer waits (answers `none`) while the
prefix or the body is incomplete.
-/
namespace HubLink.Envelope

/-- The largest body length an envelope may announce: `2^31 - 1`. -/
def maxSize : Nat := Nat.pow 2 31 - 1

/-- The most bytes a length prefix takes. -/
def maxPrefixSize : Nat := 5

/-- The number of varint bytes of a length: one per started group of seven bits. -/
def prefixLength (n : Nat) : Nat :=
  if n < 0x80 then 1 else prefixLength (n / 128) + 1
termination_by n
decreasing_by omega

/-- The varint bytes of a length. -/
def varint (n : Nat) : List UInt8 :=
  if n < 0x80 then [n.toUInt8] else (n % 128 + 128).toUInt8 :: varint (n / 128)
termination_by n
decreasing_by omega

/-- The prefix of a body of `n` bytes; lengths over `maxSize` are refused. -/
def writePrefix (n : Nat) : Except Error (List UInt8) :=
  if n > maxSize then .error (.messageTooLarge n maxSize) else .ok (varint n)

/-- The length in a complete prefix, reading at most five bytes; `none` when the bytes end, or
five are read, before a byte without the continuation bit. -/
def peekLength (input : List UInt8) : Option Nat :=
  go (input.take maxPrefixSize) 0
where
  /-- Reads the group of weight `128^shift`. -/
  go : List UInt8 → Nat → Option Nat
    | [], _ => none
    | b :: rest, shift =>
      if b < 0x80 then some (b.toNat * Nat.pow 128 shift)
      else (go rest (shift + 1)).map (· + (b.toNat - 128) * Nat.pow 128 shift)

/-- The prefix's bytes as read: the bytes up to and including the first one without the
continuation bit, or the first five bytes, whichever comes first; `none` if the input ends
before either. -/
def prefixBytes (input : List UInt8) : Option (List UInt8) :=
  go input 0
where
  /-- Collects prefix bytes, `count` read so far. -/
  go : List UInt8 → Nat → Option (List UInt8)
    | [], _ => none
    | b :: rest, count =>
      if b < 0x80 || count + 1 = maxPrefixSize then some [b]
      else (go rest (count + 1)).map (b :: ·)

/-- The number the low seven bits of prefix bytes spell, least significant group first. -/
def groupsValue : List UInt8 → Nat
  | [] => 0
  | b :: rest => b.toNat % 128 + 128 * groupsValue rest

/-- Splits the first envelope off the input: its body and the bytes after it, or `none` while
the prefix or body is incomplete. A prefix of five bytes whose last is above 7 is refused. -/
def split (input : List UInt8) : Except Error (Option (List UInt8 × List UInt8)) :=
  match prefixBytes input with
  | none => .ok none
  | some pre =>
    let last := pre.getLast?.getD 0
    if pre.length = maxPrefixSize ∧ last > 7 then .error .envelopeTooLarge
    else
      let length := groupsValue pre
      let rest := input.drop pre.length
      -- the body is complete when taking it finds every byte
      let body := rest.take length
      if body.length = length then .ok (some (body, rest.drop length))
      else .ok none

/-- The number of bytes the first envelope takes, prefix included, once its prefix is
complete. -/
def envelopeLength (input : List UInt8) : Option Nat :=
  (prefixBytes input).map fun pre => pre.length + groupsValue pre

/-- Splits envelopes off the front while they are complete, at most `fuel` of them: the bodies,
the error that stopped the run if one did, and the bytes left. -/
def splitLoop (input : List UInt8) : Nat → List (List UInt8) × Option Error × List UInt8
  | 0 => ([], none, input)
  | fuel + 1 =>
    match split input with
    | .error e => ([], some e, input)
    | .ok none => ([], none, input)
    | .ok (some (body, rest)) =>
      let (bodies, e, left) := splitLoop rest fuel
      (body :: bodies, e, left)

/-- Splits every complete envelope off the front; each takes at least its one prefix byte, so
the input's length bounds their number. -/
def splitAll (input : List UInt8) : List (List UInt8) × Option Error × List UInt8 :=
  splitLoop input (input.length + 1)

end HubLink.Envelope

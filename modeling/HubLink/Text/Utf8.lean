/-!
UTF-8 text as bytes. `Utf8.decode` reads a byte list as text, refusing it at the first byte
that no well-formed sequence (RFC 3629) can continue with; the refusal says how many bytes
were valid before it and how long the bad sequence is, or that the input ended inside a
character. `Utf8.encode` writes text as bytes. Wire strings, map keys and text payloads all go
through these two functions.
-/
namespace HubLink.Utf8

/-- Why a byte list is no UTF-8 text: the first `validUpTo` bytes are valid, and the sequence
after them is bad in its first `errorLen` bytes, or is cut short by the end of the input
(`errorLen = none`). -/
structure Error where
  validUpTo : Nat
  errorLen : Option Nat
  deriving DecidableEq, Repr

/-- The text of a refusal, as the wire reports it. -/
def Error.message (e : Error) : String :=
  let pos := e.validUpTo
  match e.errorLen with
  | some n => s!"invalid utf-8 sequence of {n} bytes from index {pos}"
  | none => s!"incomplete utf-8 byte sequence from index {pos}"

/-- What a first byte announces: a one-byte character, a character with `tails` more bytes whose
first one lies in `lo ..= hi` (the rest in `0x80 ..= 0xBF`), or nothing valid. -/
inductive Lead where
  | single
  | multi (tails : Nat) (lo hi : UInt8)
  | invalid
  deriving DecidableEq, Repr

/-- The lead classes of RFC 3629: the narrowed second-byte ranges after `E0`, `ED`, `F0` and
`F4` exclude over-long forms, surrogates and code points above `10FFFF`. -/
def lead (b : UInt8) : Lead :=
  if b < 0x80 then .single
  else if b < 0xC2 then .invalid
  else if b < 0xE0 then .multi 1 0x80 0xBF
  else if b == 0xE0 then .multi 2 0xA0 0xBF
  else if b < 0xED then .multi 2 0x80 0xBF
  else if b == 0xED then .multi 2 0x80 0x9F
  else if b < 0xF0 then .multi 2 0x80 0xBF
  else if b == 0xF0 then .multi 3 0x90 0xBF
  else if b < 0xF4 then .multi 3 0x80 0xBF
  else if b == 0xF4 then .multi 3 0x80 0x8F
  else .invalid

/-- A continuation byte carries six bits and the marker `10`. -/
def isTail (b : UInt8) : Bool := b &&& 0xC0 == 0x80

/-- The code point of a well-formed sequence: the lead's payload bits, then six bits per tail. -/
def codePoint (b : UInt8) (tails : List UInt8) : Nat :=
  let leadBits := match tails.length with
    | 1 => b.toNat % 0x20
    | 2 => b.toNat % 0x10
    | _ => b.toNat % 0x08
  tails.foldl (fun acc t => acc * 64 + t.toNat % 64) leadBits

/-- Decodes from byte offset `pos`, with the characters read so far in `acc`, newest first. -/
def decodeFrom (pos : Nat) (acc : List Char) : List UInt8 → Except Error String
  | [] => .ok (String.ofList acc.reverse)
  | b :: rest =>
    match lead b with
    | .single => decodeFrom (pos + 1) (Char.ofNat b.toNat :: acc) rest
    | .invalid => .error ⟨pos, some 1⟩
    | .multi tails lo hi =>
      match rest with
      | [] => .error ⟨pos, none⟩
      | c1 :: rest1 =>
        if !(lo ≤ c1 && c1 ≤ hi) then .error ⟨pos, some 1⟩
        else if tails == 1 then
          decodeFrom (pos + 2) (Char.ofNat (codePoint b [c1]) :: acc) rest1
        else
          match rest1 with
          | [] => .error ⟨pos, none⟩
          | c2 :: rest2 =>
            if !isTail c2 then .error ⟨pos, some 2⟩
            else if tails == 2 then
              decodeFrom (pos + 3) (Char.ofNat (codePoint b [c1, c2]) :: acc) rest2
            else
              match rest2 with
              | [] => .error ⟨pos, none⟩
              | c3 :: rest3 =>
                if !isTail c3 then .error ⟨pos, some 3⟩
                else decodeFrom (pos + 4) (Char.ofNat (codePoint b [c1, c2, c3]) :: acc) rest3

/-- Reads a byte list as UTF-8 text. -/
def decode (bytes : List UInt8) : Except Error String :=
  decodeFrom 0 [] bytes

/-- Whether a byte list is UTF-8 text. -/
def isValid (bytes : List UInt8) : Bool :=
  match decode bytes with
  | .ok _ => true
  | .error _ => false

/-- The UTF-8 form of one character: one to four bytes by the size of its code point. -/
def encodeChar (c : Char) : List UInt8 :=
  let n := c.toNat
  if n < 0x80 then [n.toUInt8]
  else if n < 0x800 then [(0xC0 + n / 64).toUInt8, (0x80 + n % 64).toUInt8]
  else if n < 0x10000 then
    [(0xE0 + n / 4096).toUInt8, (0x80 + n / 64 % 64).toUInt8, (0x80 + n % 64).toUInt8]
  else
    [(0xF0 + n / 262144).toUInt8, (0x80 + n / 4096 % 64).toUInt8,
      (0x80 + n / 64 % 64).toUInt8, (0x80 + n % 64).toUInt8]

/-- The UTF-8 form of a text. -/
def encode (s : String) : List UInt8 :=
  s.toList.flatMap encodeChar

/-- The number of bytes of a text's UTF-8 form. -/
def byteLength (s : String) : Nat :=
  (encode s).length

end HubLink.Utf8

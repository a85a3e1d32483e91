/-!
Frame masking: byte `i` of a payload is combined by exclusive or with byte `(start + i) mod 4`
of the four-byte key, the key's bytes being the mask's big-endian bytes (`apply`). Masking a
payload in pieces, each piece starting where the last one stopped, gives the same bytes as
masking it at once, and masking twice gives the payload back.

Two procedures compute it and answer the key position for the next byte as well. `byBytes`
walks the payload a byte at a time. `byBlocks` masks sixteen-byte lanes with the key repeated
four times, then four-byte words with the key turned to the start position, then the last few
bytes one at a time; lanes and words are whole turns of the key, so only those last bytes move
the position.
-/
namespace HubLink.Mask

/-- Byte `i mod 4` of the mask, most significant first. -/
def keyByte (mask : UInt32) (i : Nat) : UInt8 :=
  (mask.toNat / Nat.pow 256 (3 - i % 4) % 256).toUInt8

/-- Masks `data` starting at key position `start`. -/
def apply (mask : UInt32) (start : Nat) (data : List UInt8) : List UInt8 :=
  data.mapIdx fun i b => b ^^^ keyByte mask (start + i)

/-- The key position after masking `len` bytes from `start`. -/
def nextIndex (start len : Nat) : Nat := (start + len) % 4

/-- Key bytes repeat every four positions. -/
@[simp]
theorem keyByte_mod (mask : UInt32) (i : Nat) : keyByte mask (i % 4) = keyByte mask i := by
  simp [keyByte]

/-- Masking keeps the length. -/
@[simp]
theorem apply_length (mask : UInt32) (start : Nat) (data : List UInt8) :
    (apply mask start data).length = data.length := by
  simp [apply]

/-- Masking nothing gives nothing. -/
@[simp]
theorem apply_nil (mask : UInt32) (start : Nat) : apply mask start [] = [] := rfl

/-- Masking two pieces one after the other is masking them together, the second piece starting
where the first one ended. -/
theorem apply_append (mask : UInt32) (start : Nat) (a b : List UInt8) :
    apply mask start (a ++ b) = apply mask start a ++ apply mask (start + a.length) b := by
  simp only [apply, List.mapIdx_append]
  congr 2
  funext i x
  rw [Nat.add_comm i a.length, Nat.add_assoc]

/-- Masking twice from the same position gives the bytes back. -/
@[simp]
theorem apply_apply (mask : UInt32) (start : Nat) (data : List UInt8) :
    apply mask start (apply mask start data) = data := by
  have h : (fun i => (fun b => b ^^^ keyByte mask (start + i)) ∘
      fun b => b ^^^ keyByte mask (start + i)) = fun (_ : Nat) (b : UInt8) => b := by
    funext i b
    show b ^^^ keyByte mask (start + i) ^^^ keyByte mask (start + i) = b
    rw [UInt8.xor_assoc, UInt8.xor_self, UInt8.xor_zero]
  simp only [apply, List.mapIdx_mapIdx, h, List.mapIdx_eq_iff]
  intro i
  cases data[i]? <;> rfl

/-- Masks a byte at a time from key position `start`: the bytes and the next position. -/
def byBytes (mask : UInt32) (start : Nat) (data : List UInt8) : List UInt8 × Nat :=
  (apply mask start data, nextIndex start data.length)

/-- The four key bytes in the order they meet a word that starts at key position `start`. -/
def turnedKey (mask : UInt32) (start : Nat) : List UInt8 :=
  [keyByte mask start, keyByte mask (start + 1), keyByte mask (start + 2), keyByte mask (start + 3)]

/-- Combines a block with a key of its length, byte by byte. -/
def xorBlock (key block : List UInt8) : List UInt8 :=
  List.zipWith (· ^^^ ·) block key

/-- Masks the whole blocks of `key.length` bytes at the front of `data` with `key`: the masked
blocks and the rest, which is shorter than a block. -/
def blocks (key data : List UInt8) : List UInt8 × List UInt8 :=
  let block := data.take key.length
  if _h : key.length = 0 ∨ block.length < key.length then ([], data)
  else
    let (masked, rest) := blocks key (data.drop key.length)
    (xorBlock key block ++ masked, rest)
termination_by data.length
decreasing_by
  simp only [block, List.length_take] at _h
  simp only [List.length_drop]
  omega

/-- Masks lanes of sixteen bytes, then words of four, then the last bytes one at a time: the
bytes and the next key position. -/
def byBlocks (mask : UInt32) (start : Nat) (data : List UInt8) : List UInt8 × Nat :=
  let key := turnedKey mask start
  let (lanes, rest) := blocks (key ++ key ++ key ++ key) data
  let (words, tail) := blocks key rest
  (lanes ++ words ++ apply mask (start % 4) tail, nextIndex start tail.length)

/-- Masks `data` in consecutive pieces of the given lengths, byte by byte when `bytewise` and by
blocks otherwise, each piece starting at the key position the one before it reached. A piece
is cut at the end of the data, and the bytes after the last piece stay as they are. Answers the
bytes and the key position after each piece. -/
def applyPieces (bytewise : Bool) (mask : UInt32) (start : Nat) (data : List UInt8) :
    List Nat → List UInt8 × List Nat
  | [] => (data, [])
  | len :: lens =>
    let (piece, next) :=
      if bytewise then byBytes mask start (data.take len) else byBlocks mask start (data.take len)
    let (rest, positions) := applyPieces bytewise mask next (data.drop len) lens
    (piece ++ rest, next :: positions)

end HubLink.Mask

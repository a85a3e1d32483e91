import HubLink.Frame.Mask
import HubLink.Proofs.BigEndian
/-!
The block procedure masks like the byte procedure. A key list that agrees with the mask from
some key position on masks a whole block exactly as `apply` does; lanes and words are whole
turns of the key, so they leave the key position where it was, and only the tail bytes move
it.

Both combine byte `i` with byte `(start + i) mod 4` of the key's big-endian bytes and answer
the position `(start + length) mod 4` (`byBlocks_refines_byBytes`). Hence masking in two
pieces, the second from the position the first answered, is masking at once, and masking twice
gives the bytes back (`byBlocks_split_involutive`).
-/
namespace HubLink.Mask

theorem keyByte_congr (mask : UInt32) {i j : Nat} (h : i % 4 = j % 4) :
    keyByte mask i = keyByte mask j := by
  rw [← keyByte_mod, h, keyByte_mod]

/-- Only the key position modulo four matters. -/
theorem apply_congr (mask : UInt32) {a b : Nat} (h : a % 4 = b % 4) (data : List UInt8) :
    apply mask a data = apply mask b data := by
  simp only [apply]
  congr 1
  funext i x
  rw [keyByte_congr mask (show (a + i) % 4 = (b + i) % 4 by omega)]

theorem apply_mod (mask : UInt32) (start : Nat) (data : List UInt8) :
    apply mask (start % 4) data = apply mask start data :=
  apply_congr mask (Nat.mod_mod _ _) data

theorem apply_take (mask : UInt32) (start n : Nat) (data : List UInt8) :
    (apply mask start data).take n = apply mask start (data.take n) :=
  List.ext_getElem (by simp [apply]) fun i _ _ => by simp [apply]

theorem apply_drop (mask : UInt32) (start n : Nat) (data : List UInt8) :
    (apply mask start data).drop n = apply mask (start + n) (data.drop n) :=
  List.ext_getElem (by simp [apply]) fun i _ _ => by simp [apply, Nat.add_assoc]

theorem apply_split (mask : UInt32) (start : Nat) {k : Nat} (data : List UInt8)
    (hk : k ≤ data.length) (hturn : k % 4 = 0) :
    apply mask start data = apply mask start (data.take k) ++ apply mask start (data.drop k) := by
  conv => lhs; rw [← List.take_append_drop k data]
  rw [apply_append, List.length_take, Nat.min_eq_left hk,
    apply_congr mask (show (start + k) % 4 = start % 4 by omega)]

/-- A key list that agrees with the mask from key position `start` on. -/
def KeyFrom (mask : UInt32) (start : Nat) (key : List UInt8) : Prop :=
  ∀ i (h : i < key.length), key[i] = keyByte mask (start + i)

theorem turnedKey_keyFrom (mask : UInt32) (start : Nat) :
    KeyFrom mask start (turnedKey mask start) := by
  intro i h
  simp only [turnedKey, List.length_cons, List.length_nil] at h
  match i, h with
  | 0, _ => rfl
  | 1, _ => rfl
  | 2, _ => rfl
  | 3, _ => rfl

theorem keyFrom_append {mask : UInt32} {start : Nat} {a b : List UInt8}
    (ha : KeyFrom mask start a) (hb : KeyFrom mask start b) (hlen : a.length % 4 = 0) :
    KeyFrom mask start (a ++ b) := by
  intro i h
  rw [List.getElem_append]
  split
  · exact ha i _
  · next hi =>
    rw [hb _ _]
    exact keyByte_congr mask (by omega)

theorem xorBlock_eq_apply {mask : UInt32} {start : Nat} {key block : List UInt8}
    (hkey : KeyFrom mask start key) (hlen : block.length ≤ key.length) :
    xorBlock key block = apply mask start block := by
  apply List.ext_getElem
  · simp [xorBlock, apply]
    omega
  · intro i h₁ h₂
    simp only [xorBlock, apply, List.getElem_zipWith, List.getElem_mapIdx]
    rw [hkey]

/-- The whole blocks at the front are masked as `apply` masks them; the rest, shorter than a
block, is left as it is. -/
theorem blocks_eq {mask : UInt32} {start : Nat} {key : List UInt8} (hkey : KeyFrom mask start key)
    (hpos : 0 < key.length) (hturn : key.length % 4 = 0) (data : List UInt8) :
    blocks key data =
      (apply mask start (data.take (data.length / key.length * key.length)),
        data.drop (data.length / key.length * key.length)) := by
  fun_induction blocks key data with
  | case1 data block hshort =>
    have hlt : data.length < key.length := by
      rcases hshort with h | h
      · omega
      · simp only [block, List.length_take] at h; omega
    simp [Nat.div_eq_of_lt hlt]
  | case2 data block hlong masked rest hrec ih =>
    have hle : key.length ≤ data.length := by simp only [block, List.length_take] at hlong; omega
    have hcount : data.length / key.length * key.length =
        key.length + (data.length - key.length) / key.length * key.length := by
      rw [Nat.div_eq_sub_div hpos hle, Nat.add_mul, Nat.one_mul, Nat.add_comm]
    rw [hrec] at ih
    simp only [Prod.mk.injEq] at ih
    obtain ⟨rfl, rfl⟩ := ih
    simp only [List.length_drop, List.drop_drop, hcount, Prod.mk.injEq, and_true]
    rw [List.take_add, apply_append,
      xorBlock_eq_apply hkey (by simp only [block, List.length_take]; omega), List.length_take,
      Nat.min_eq_left hle, apply_congr mask (show (start + key.length) % 4 = start % 4 by omega)]

/-- The lanes-words-bytes procedure computes the byte-at-a-time masking and key position. -/
theorem byBlocks_eq_byBytes (mask : UInt32) (start : Nat) (data : List UInt8) :
    byBlocks mask start data = byBytes mask start data := by
  have hturn := turnedKey_keyFrom mask start
  have hlen : (turnedKey mask start).length = 4 := rfl
  have hlane : KeyFrom mask start (turnedKey mask start ++ turnedKey mask start ++
      turnedKey mask start ++ turnedKey mask start) :=
    keyFrom_append (keyFrom_append (keyFrom_append hturn hturn (by simp [hlen])) hturn
      (by simp [hlen])) hturn (by simp [hlen])
  simp only [byBlocks, byBytes, blocks_eq hlane (by simp [hlen]) (by simp [hlen]),
    blocks_eq hturn (by simp [hlen]) (by simp [hlen]), List.length_append, hlen,
    List.length_drop, Prod.mk.injEq]
  generalize hk₁ : data.length / (4 + 4 + 4 + 4) * (4 + 4 + 4 + 4) = k₁
  generalize hk₂ : (data.length - k₁) / 4 * 4 = k₂
  constructor
  · rw [apply_mod, List.append_assoc,
      ← apply_split mask start (data.drop k₁) (by simp; omega) (by omega),
      ← apply_split mask start data (by omega) (by omega)]
  · simp only [nextIndex]
    omega

@[simp]
theorem byBlocks_fst (mask : UInt32) (start : Nat) (data : List UInt8) :
    (byBlocks mask start data).1 = apply mask start data := by
  rw [byBlocks_eq_byBytes]
  rfl

@[simp]
theorem byBlocks_snd (mask : UInt32) (start : Nat) (data : List UInt8) :
    (byBlocks mask start data).2 = (start + data.length) % 4 := by
  rw [byBlocks_eq_byBytes]
  rfl

theorem keyByte_eq_getD (mask : UInt32) (i : Nat) :
    keyByte mask i = (MsgPack.toBigEndian 4 mask.toNat).getD (i % 4) 0 := by
  have hi : i % 4 < 4 := Nat.mod_lt i (by decide)
  simp only [keyByte, MsgPack.toBigEndian, List.getD_eq_getElem?_getD, List.getElem?_map,
    List.getElem?_reverse (show i % 4 < (List.range 4).length by simpa using hi),
    List.length_range, List.getElem?_range (show 4 - 1 - i % 4 < 4 by omega), Option.map_some,
    Option.getD_some]

/-- The lanes-words-bytes procedure masks as the byte-at-a-time one, for every length, mask
and start position: byte `i` is combined with byte `(start + i) mod 4` of the key's
big-endian bytes, and the position answered is `(start + length) mod 4`. -/
theorem byBlocks_refines_byBytes (mask : UInt32) (start : Nat) (data : List UInt8) :
    byBlocks mask start data = byBytes mask start data ∧
      byBytes mask start data =
        (data.mapIdx fun i b => b ^^^ (MsgPack.toBigEndian 4 mask.toNat).getD ((start + i) % 4) 0,
          (start + data.length) % 4) := by
  refine ⟨byBlocks_eq_byBytes mask start data, ?_⟩
  simp only [byBytes, apply, nextIndex, keyByte_eq_getD]

/-- The key's most significant byte comes first, and the fifth byte starts the key again. -/
example : byBlocks 0x01020304 0 [0, 0, 0, 0, 0] = ([1, 2, 3, 4, 1], 1) := by
  rw [byBlocks_eq_byBytes]
  decide

/-- Masking `a ++ b` is masking `a`, then `b` from the position that answered, with the same
final position; and masking twice from one position restores the bytes. -/
theorem byBlocks_split_involutive (mask : UInt32) (start : Nat) (a b buf : List UInt8) :
    ((byBlocks mask start a).1 ++ (byBlocks mask (byBlocks mask start a).2 b).1,
        (byBlocks mask (byBlocks mask start a).2 b).2) = byBlocks mask start (a ++ b) ∧
      (byBlocks mask start (byBlocks mask start buf).1).1 = buf := by
  refine ⟨Prod.ext ?_ ?_, by simp⟩
  · simp only [byBlocks_fst, byBlocks_snd, apply_mod, apply_append]
  · simp only [byBlocks_snd, List.length_append]
    omega

end HubLink.Mask

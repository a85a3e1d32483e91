import Mathlib.Tactic.Ring
import HubLink.MsgPack.Marker
/-!
Fixed-width big-endian numbers. Writing `n` in `w` bytes keeps it modulo `256^w`, and reading
those bytes back, whatever follows them, gives that number and leaves what follows. A read
finds nothing exactly when fewer than `w` bytes are there.
-/
namespace HubLink.MsgPack

@[simp]
theorem takeBytes_append_of_length {n : Nat} {xs : List UInt8} (ys : List UInt8)
    (h : xs.length = n) : takeBytes n (xs ++ ys) = some (xs, ys) := by
  simp [takeBytes, List.take_left' h, List.drop_left' h, h]

theorem takeBytes_eq_none_iff {n : Nat} {input : List UInt8} :
    takeBytes n input = none ↔ input.length < n := by
  simp only [takeBytes, List.length_take]
  split <;> simp_all

theorem foldl_digits (bytes : List UInt8) (acc : Nat) :
    bytes.foldl (fun acc b => acc * 256 + b.toNat) acc =
      acc * 256 ^ bytes.length + ofBigEndian bytes := by
  induction bytes generalizing acc with
  | nil => simp [ofBigEndian]
  | cons b bs ih =>
    simp only [ofBigEndian, List.foldl_cons, List.length_cons]
    rw [ih (acc * 256 + b.toNat), ih (0 * 256 + b.toNat)]
    simp only [ofBigEndian, Nat.pow_succ]
    ring

@[simp]
theorem ofBigEndian_cons (b : UInt8) (bytes : List UInt8) :
    ofBigEndian (b :: bytes) = b.toNat * 256 ^ bytes.length + ofBigEndian bytes := by
  simp only [ofBigEndian, List.foldl_cons]
  rw [foldl_digits]
  simp [ofBigEndian]

theorem ofBigEndian_lt (bytes : List UInt8) : ofBigEndian bytes < 256 ^ bytes.length := by
  induction bytes with
  | nil => simp [ofBigEndian]
  | cons b bs ih =>
    have hb : b.toNat < 256 := b.toNat_lt
    rw [ofBigEndian_cons, List.length_cons, Nat.pow_succ]
    have : b.toNat * 256 ^ bs.length ≤ 255 * 256 ^ bs.length := Nat.mul_le_mul_right _ (by omega)
    omega

@[simp]
theorem toBigEndian_zero (n : Nat) : toBigEndian 0 n = [] := rfl

theorem toBigEndian_succ (w n : Nat) :
    toBigEndian (w + 1) n = (n / 256 ^ w % 256).toUInt8 :: toBigEndian w n := by
  simp [toBigEndian, List.range_succ]

@[simp]
theorem toBigEndian_length (w n : Nat) : (toBigEndian w n).length = w := by
  simp [toBigEndian]

theorem ofBigEndian_toBigEndian (w n : Nat) : ofBigEndian (toBigEndian w n) = n % 256 ^ w := by
  induction w with
  | zero => simp [ofBigEndian, Nat.mod_one]
  | succ w ih =>
    rw [toBigEndian_succ, ofBigEndian_cons, ih, toBigEndian_length, Nat.pow_succ, Nat.mod_mul]
    have hdigit : ((n / 256 ^ w % 256).toUInt8).toNat = n / 256 ^ w % 256 := by
      simp only [Nat.toUInt8_eq, UInt8.toNat_ofNat', Nat.mod_mod]
    rw [hdigit, Nat.mul_comm (256 ^ w)]
    omega

@[simp]
theorem readBigEndian_toBigEndian (w n : Nat) (rest : List UInt8) :
    readBigEndian w (toBigEndian w n ++ rest) = some (n % 256 ^ w, rest) := by
  simp [readBigEndian, ofBigEndian_toBigEndian]

theorem readBigEndian_eq_none_iff {w : Nat} {input : List UInt8} :
    readBigEndian w input = none ↔ input.length < w := by
  simp [readBigEndian, takeBytes_eq_none_iff]

theorem readBigEndian_append {w : Nat} {input rest : List UInt8} {n : Nat}
    {left : List UInt8} (h : readBigEndian w input = some (n, left)) :
    readBigEndian w (input ++ rest) = some (n, left ++ rest) := by
  simp only [readBigEndian, takeBytes, Option.map_eq_some_iff] at h ⊢
  split at h
  · next hlen =>
    obtain ⟨_, hs, he⟩ := h
    cases hs
    simp only [Prod.mk.injEq] at he
    obtain ⟨rfl, rfl⟩ := he
    have hw : w ≤ input.length := by simp at hlen; omega
    simp [List.take_append_of_le_length hw, List.drop_append_of_le_length hw, hlen]
  · simp at h

/-- A read that succeeded took exactly its width from the front of the input. -/
theorem readBigEndian_some {w : Nat} {input left : List UInt8} {n : Nat}
    (h : readBigEndian w input = some (n, left)) : w ≤ input.length ∧ left = input.drop w := by
  simp only [readBigEndian, takeBytes, Option.map_eq_some_iff] at h
  obtain ⟨⟨bytes, rest⟩, hb, he⟩ := h
  split at hb
  · next hlen =>
    simp only [Option.some.injEq, Prod.mk.injEq] at hb he
    refine ⟨by simp at hlen; omega, ?_⟩
    rw [← he.2, ← hb.2]
  · cases hb

/-- Bytes of one length are told apart by the number they spell. -/
theorem ofBigEndian_injective {xs ys : List UInt8} (hl : xs.length = ys.length)
    (h : ofBigEndian xs = ofBigEndian ys) : xs = ys := by
  induction xs generalizing ys with
  | nil => exact (List.eq_nil_of_length_eq_zero hl.symm).symm
  | cons x xs ih =>
    obtain ⟨y, ys, rfl⟩ := List.exists_cons_of_length_eq_add_one hl.symm
    simp only [List.length_cons, Nat.add_right_cancel_iff] at hl
    rw [ofBigEndian_cons, ofBigEndian_cons, hl] at h
    have hx : ofBigEndian xs < 256 ^ ys.length := hl ▸ ofBigEndian_lt xs
    have hy := ofBigEndian_lt ys
    have hB : 0 < 256 ^ ys.length := Nat.pow_pos (by decide)
    have hdiv : ∀ (b : UInt8) (r : Nat), r < 256 ^ ys.length →
        (b.toNat * 256 ^ ys.length + r) / 256 ^ ys.length = b.toNat := fun b r hr => by
      rw [Nat.add_comm, Nat.add_mul_div_right _ _ hB, Nat.div_eq_of_lt hr, Nat.zero_add]
    have hmod : ∀ (b : UInt8) (r : Nat), r < 256 ^ ys.length →
        (b.toNat * 256 ^ ys.length + r) % 256 ^ ys.length = r := fun b r hr => by
      rw [Nat.add_comm, Nat.add_mul_mod_self_right, Nat.mod_eq_of_lt hr]
    have hq : x.toNat = y.toNat := by
      rw [← hdiv x _ hx, ← hdiv y _ hy, h]
    have hr : ofBigEndian xs = ofBigEndian ys := by
      rw [← hmod x _ hx, ← hmod y _ hy, h]
    rw [UInt8.toNat_inj.mp hq, ih hl hr]

theorem toBigEndian_ofBigEndian (bytes : List UInt8) :
    toBigEndian bytes.length (ofBigEndian bytes) = bytes :=
  ofBigEndian_injective (by simp)
    (by rw [ofBigEndian_toBigEndian, Nat.mod_eq_of_lt (ofBigEndian_lt bytes)])

theorem readBigEndian_eq_some {w : Nat} {input left : List UInt8} {n : Nat}
    (h : readBigEndian w input = some (n, left)) : input = toBigEndian w n ++ left := by
  simp only [readBigEndian, takeBytes, Option.map_eq_some_iff] at h
  obtain ⟨⟨bytes, rest⟩, hb, he⟩ := h
  split at hb
  · next hlen =>
    simp only [Option.some.injEq, Prod.mk.injEq] at hb he
    obtain ⟨rfl, rfl⟩ := hb
    obtain ⟨rfl, rfl⟩ := he
    have hbytes := toBigEndian_ofBigEndian (input.take w)
    rw [hlen] at hbytes
    rw [hbytes, List.take_append_drop]
  · cases hb

theorem readBigEndian_lt {w : Nat} {input left : List UInt8} {n : Nat}
    (h : readBigEndian w input = some (n, left)) : n < 256 ^ w := by
  simp only [readBigEndian, takeBytes, Option.map_eq_some_iff] at h
  obtain ⟨⟨bytes, rest⟩, hb, he⟩ := h
  split at hb
  · next hlen =>
    simp only [Option.some.injEq, Prod.mk.injEq] at hb he
    rw [← he.1, ← hb.1]
    simpa [hlen] using ofBigEndian_lt (input.take w)
  · cases hb

end HubLink.MsgPack

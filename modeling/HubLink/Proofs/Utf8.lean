import HubLink.Text.Utf8
/-!
Reading back written text. Each character is written in one of four sizes, and the bytes of
each size fall in the lead and continuation ranges of RFC 3629 that announce exactly that size,
so the reader takes the character back whole and goes on after it. Over a whole text this gives
`decode (encode s) = .ok s`.
-/
namespace HubLink.Utf8

/-! The byte classes, checked over their whole ranges. -/

theorem lead_ascii : ∀ k < 128, lead k.toUInt8 = .single := by decide

theorem lead_two : ∀ k < 30, lead (0xC2 + k).toUInt8 = .multi 1 0x80 0xBF := by decide

theorem lead_three : ∀ k < 16, lead (0xE0 + k).toUInt8 =
    .multi 2 (if k = 0 then 0xA0 else 0x80) (if k = 13 then 0x9F else 0xBF) := by decide

theorem lead_four : ∀ k < 5, lead (0xF0 + k).toUInt8 =
    .multi 3 (if k = 0 then 0x90 else 0x80) (if k = 4 then 0x8F else 0xBF) := by decide

theorem isTail_of_lt {n : Nat} (h : n < 64) : isTail (0x80 + n).toUInt8 = true := by
  have tails : ∀ k < 64, isTail (0x80 + k).toUInt8 = true := by decide
  exact tails n h

theorem toNat_toUInt8 {n : Nat} (h : n < 256) : n.toUInt8.toNat = n :=
  UInt8.toNat_ofNat_of_lt' h

theorem le_toUInt8 {a : UInt8} {n : Nat} (h : a.toNat ≤ n) (hn : n < 256) : a ≤ n.toUInt8 := by
  rw [UInt8.le_iff_toNat_le, toNat_toUInt8 hn]
  exact h

theorem toUInt8_le {a : UInt8} {n : Nat} (h : n ≤ a.toNat) (hn : n < 256) : n.toUInt8 ≤ a := by
  rw [UInt8.le_iff_toNat_le, toNat_toUInt8 hn]
  exact h

/-! One lemma per branch of the reader that reads a whole character. -/

theorem decodeFrom_two {b c₁ lo hi : UInt8} (hb : lead b = .multi 1 lo hi) (hlo : lo ≤ c₁)
    (hhi : c₁ ≤ hi) (pos : Nat) (acc : List Char) (rest : List UInt8) :
    decodeFrom pos acc (b :: c₁ :: rest) =
      decodeFrom (pos + 2) (Char.ofNat (codePoint b [c₁]) :: acc) rest := by
  simp [decodeFrom, hb, hlo, hhi]

theorem decodeFrom_three {b c₁ c₂ lo hi : UInt8} (hb : lead b = .multi 2 lo hi) (hlo : lo ≤ c₁)
    (hhi : c₁ ≤ hi) (h₂ : isTail c₂ = true) (pos : Nat) (acc : List Char) (rest : List UInt8) :
    decodeFrom pos acc (b :: c₁ :: c₂ :: rest) =
      decodeFrom (pos + 3) (Char.ofNat (codePoint b [c₁, c₂]) :: acc) rest := by
  simp [decodeFrom, hb, hlo, hhi, h₂]

theorem decodeFrom_four {b c₁ c₂ c₃ lo hi : UInt8} (hb : lead b = .multi 3 lo hi)
    (hlo : lo ≤ c₁) (hhi : c₁ ≤ hi) (h₂ : isTail c₂ = true) (h₃ : isTail c₃ = true)
    (pos : Nat) (acc : List Char) (rest : List UInt8) :
    decodeFrom pos acc (b :: c₁ :: c₂ :: c₃ :: rest) =
      decodeFrom (pos + 4) (Char.ofNat (codePoint b [c₁, c₂, c₃]) :: acc) rest := by
  simp [decodeFrom, hb, hlo, hhi, h₂, h₃]

/-! One lemma per size of the written form. -/

section Sizes

variable (pos : Nat) (acc : List Char) (rest : List UInt8) {n : Nat}

theorem decodeFrom_oneByte (h : n < 0x80) :
    decodeFrom pos acc (n.toUInt8 :: rest) = decodeFrom (pos + 1) (Char.ofNat n :: acc) rest := by
  simp [decodeFrom, lead_ascii n h, toNat_toUInt8 (show n < 256 by omega)]

theorem decodeFrom_twoBytes (hlo : 0x80 ≤ n) (hhi : n < 0x800) :
    decodeFrom pos acc ((0xC0 + n / 64).toUInt8 :: (0x80 + n % 64).toUInt8 :: rest) =
      decodeFrom (pos + 2) (Char.ofNat n :: acc) rest := by
  have hl : lead (0xC0 + n / 64).toUInt8 = .multi 1 0x80 0xBF := by
    have := lead_two (n / 64 - 2) (by omega)
    rwa [show 0xC2 + (n / 64 - 2) = 0xC0 + n / 64 by omega] at this
  have hb₀ := toNat_toUInt8 (show 0xC0 + n / 64 < 256 by omega)
  have hb₁ := toNat_toUInt8 (show 0x80 + n % 64 < 256 by omega)
  have hcp : codePoint (0xC0 + n / 64).toUInt8 [(0x80 + n % 64).toUInt8] = n := by
    simp only [codePoint, List.length_cons, List.length_nil, List.foldl_cons, List.foldl_nil,
      hb₀, hb₁]
    omega
  rw [decodeFrom_two hl (le_toUInt8 (by simp only [UInt8.reduceToNat]; omega) (by omega))
    (toUInt8_le (by simp only [UInt8.reduceToNat]; omega) (by omega)), hcp]

/-- After `E0` the second byte starts at `A0` (no over-long form), after `ED` it stops at `9F`
(no surrogate). -/
theorem decodeFrom_threeBytes (hlo : 0x800 ≤ n) (hhi : n < 0x10000)
    (hsurrogate : n < 0xD800 ∨ 0xDFFF < n) :
    decodeFrom pos acc ((0xE0 + n / 4096).toUInt8 :: (0x80 + n / 64 % 64).toUInt8 ::
        (0x80 + n % 64).toUInt8 :: rest) =
      decodeFrom (pos + 3) (Char.ofNat n :: acc) rest := by
  have hl := lead_three (n / 4096) (by omega)
  have hb₀ := toNat_toUInt8 (show 0xE0 + n / 4096 < 256 by omega)
  have hb₁ := toNat_toUInt8 (show 0x80 + n / 64 % 64 < 256 by omega)
  have hb₂ := toNat_toUInt8 (show 0x80 + n % 64 < 256 by omega)
  have hc₁ : (if n / 4096 = 0 then 0xA0 else 0x80 : UInt8) ≤ (0x80 + n / 64 % 64).toUInt8 := by
    split <;> exact le_toUInt8 (by simp only [UInt8.reduceToNat]; omega) (by omega)
  have hc₁' : (0x80 + n / 64 % 64).toUInt8 ≤ (if n / 4096 = 13 then 0x9F else 0xBF : UInt8) := by
    split <;> exact toUInt8_le (by simp only [UInt8.reduceToNat]; omega) (by omega)
  have hcp : codePoint (0xE0 + n / 4096).toUInt8
      [(0x80 + n / 64 % 64).toUInt8, (0x80 + n % 64).toUInt8] = n := by
    simp only [codePoint, List.length_cons, List.length_nil, List.foldl_cons, List.foldl_nil,
      hb₀, hb₁, hb₂]
    omega
  rw [decodeFrom_three hl hc₁ hc₁' (isTail_of_lt (by omega)), hcp]

/-- After `F0` the second byte starts at `90` (no over-long form), after `F4` it stops at `8F`
(nothing above `10FFFF`). -/
theorem decodeFrom_fourBytes (hlo : 0x10000 ≤ n) (hhi : n < 0x110000) :
    decodeFrom pos acc ((0xF0 + n / 262144).toUInt8 :: (0x80 + n / 4096 % 64).toUInt8 ::
        (0x80 + n / 64 % 64).toUInt8 :: (0x80 + n % 64).toUInt8 :: rest) =
      decodeFrom (pos + 4) (Char.ofNat n :: acc) rest := by
  have hl := lead_four (n / 262144) (by omega)
  have hb₀ := toNat_toUInt8 (show 0xF0 + n / 262144 < 256 by omega)
  have hb₁ := toNat_toUInt8 (show 0x80 + n / 4096 % 64 < 256 by omega)
  have hb₂ := toNat_toUInt8 (show 0x80 + n / 64 % 64 < 256 by omega)
  have hb₃ := toNat_toUInt8 (show 0x80 + n % 64 < 256 by omega)
  have hc₁ : (if n / 262144 = 0 then 0x90 else 0x80 : UInt8) ≤ (0x80 + n / 4096 % 64).toUInt8 := by
    split <;> exact le_toUInt8 (by simp only [UInt8.reduceToNat]; omega) (by omega)
  have hc₁' : (0x80 + n / 4096 % 64).toUInt8 ≤ (if n / 262144 = 4 then 0x8F else 0xBF : UInt8) := by
    split <;> exact toUInt8_le (by simp only [UInt8.reduceToNat]; omega) (by omega)
  have hcp : codePoint (0xF0 + n / 262144).toUInt8
      [(0x80 + n / 4096 % 64).toUInt8, (0x80 + n / 64 % 64).toUInt8, (0x80 + n % 64).toUInt8] =
        n := by
    simp only [codePoint, List.length_cons, List.length_nil, List.foldl_cons, List.foldl_nil,
      hb₀, hb₁, hb₂, hb₃]
    omega
  rw [decodeFrom_four hl hc₁ hc₁' (isTail_of_lt (by omega)) (isTail_of_lt (by omega)), hcp]

end Sizes

theorem decodeFrom_encodeChar (pos : Nat) (acc : List Char) (c : Char) (rest : List UInt8) :
    decodeFrom pos acc (encodeChar c ++ rest) =
      decodeFrom (pos + (encodeChar c).length) (c :: acc) rest := by
  have hv : c.toNat < 0xD800 ∨ (0xDFFF < c.toNat ∧ c.toNat < 0x110000) := c.valid
  have hc : Char.ofNat c.toNat = c := Char.ofNat_toNat c
  simp only [encodeChar]
  generalize c.toNat = n at hv hc
  rw [← hc]
  by_cases h₁ : n < 0x80
  · simp only [h₁, if_true, List.cons_append, List.nil_append, List.length_singleton]
    exact decodeFrom_oneByte pos acc rest h₁
  by_cases h₂ : n < 0x800
  · simp only [h₁, h₂, if_false, if_true, List.cons_append, List.nil_append, List.length_cons,
      List.length_nil]
    exact decodeFrom_twoBytes pos acc rest (by omega) h₂
  by_cases h₃ : n < 0x10000
  · simp only [h₁, h₂, h₃, if_false, if_true, List.cons_append, List.nil_append, List.length_cons,
      List.length_nil]
    exact decodeFrom_threeBytes pos acc rest (by omega) h₃ (by omega)
  · simp only [h₁, h₂, h₃, if_false, List.cons_append, List.nil_append, List.length_cons,
      List.length_nil]
    exact decodeFrom_fourBytes pos acc rest (by omega) (by omega)

theorem decodeFrom_flatMap (pos : Nat) (acc cs : List Char) :
    decodeFrom pos acc (cs.flatMap encodeChar) = .ok (String.ofList (acc.reverse ++ cs)) := by
  induction cs generalizing pos acc with
  | nil => simp [decodeFrom]
  | cons c cs ih =>
    rw [List.flatMap_cons, decodeFrom_encodeChar, ih]
    simp

theorem decode_encode (s : String) : decode (encode s) = .ok s := by
  rw [decode, encode, decodeFrom_flatMap]
  simp

end HubLink.Utf8

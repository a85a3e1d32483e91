import Mathlib.Tactic.Ring
import HubLink.Hub.Envelope
/-!
Envelopes written by the library split back off. The varint of a length takes one byte per
started group of seven bits, so a length up to `maxSize` takes at most five bytes and a
five-byte prefix ends in a byte of at most three bits; the reader collects exactly those bytes,
reads the length back from their groups, and takes the body after them.

The splitter decides by the front of its input alone. A complete envelope splits off the same
way, and a refused prefix is refused, whatever follows; a complete prefix has the same length
(`peekLength`) whatever follows, and that length is the value of the prefix bytes.
-/
namespace HubLink.Envelope

theorem prefixLength_pos (n : Nat) : 0 < prefixLength n := by
  rw [prefixLength]
  split <;> omega

theorem prefixLength_of_ge {n : Nat} (h : ¬ n < 0x80) :
    prefixLength n = prefixLength (n / 128) + 1 := by
  rw [prefixLength, if_neg h]

theorem prefixLength_le {n k : Nat} (h : n < 128 ^ (k + 1)) : prefixLength n ≤ k + 1 := by
  induction k generalizing n with
  | zero =>
    simp at h
    simp [prefixLength, h]
  | succ k ih =>
    by_cases hn : n < 0x80
    · simp [prefixLength, hn]
    · have := ih (n := n / 128) (by rw [Nat.pow_succ] at h; omega)
      rw [prefixLength_of_ge hn]
      omega

theorem prefixLength_le_max {n : Nat} (h : n ≤ maxSize) : prefixLength n ≤ maxPrefixSize :=
  prefixLength_le (k := 4) (by simp [maxSize] at h; omega)

theorem varint_length (n : Nat) : (varint n).length = prefixLength n := by
  fun_induction varint n with
  | case1 n h => simp [prefixLength, h]
  | case2 n h ih => rw [prefixLength_of_ge h, List.length_cons, ih]

/-- A length below `0x80` is written as one byte. -/
theorem writePrefix_of_lt {n : Nat} (h : n < 0x80) : writePrefix n = .ok [n.toUInt8] := by
  have hmax : ¬ n > maxSize := by simp [maxSize]; omega
  rw [writePrefix, if_neg hmax, varint, if_pos h]

theorem groupsValue_varint (n : Nat) : groupsValue (varint n) = n := by
  fun_induction varint n with
  | case1 n h =>
    have hbyte : n % 256 = n := Nat.mod_eq_of_lt (by omega)
    simp [groupsValue, hbyte, Nat.mod_eq_of_lt h]
  | case2 n h ih =>
    have hbyte : (n % 128 + 128) % 256 = n % 128 + 128 := Nat.mod_eq_of_lt (by omega)
    simp [groupsValue, ih, hbyte]
    omega

theorem prefixBytes_go_varint (n count : Nat) (tail : List UInt8)
    (h : count + prefixLength n ≤ maxPrefixSize) :
    prefixBytes.go (varint n ++ tail) count = some (varint n) := by
  fun_induction varint n generalizing count with
  | case1 n hn =>
    have hlast : n.toUInt8 < 0x80 := by
      rw [UInt8.lt_iff_toNat_lt]
      simp
      omega
    simp [prefixBytes.go, hlast]
  | case2 n hn ih =>
    rw [prefixLength_of_ge hn] at h
    have hmore : ¬ (n % 128 + 128).toUInt8 < 0x80 := by
      rw [UInt8.lt_iff_toNat_lt]
      simp
      omega
    have hpos := prefixLength_pos (n / 128)
    simp only [List.cons_append, prefixBytes.go, hmore, decide_false, Bool.false_or,
      show count + 1 ≠ maxPrefixSize by simp [maxPrefixSize] at h ⊢; omega,
      Bool.false_eq_true, if_false, ih (count + 1) (by omega), Option.map_some]

theorem getLast_varint (n : Nat) :
    (varint n).getLast? = some (n / 128 ^ (prefixLength n - 1)).toUInt8 := by
  fun_induction varint n with
  | case1 n h => simp [prefixLength, h]
  | case2 n h ih =>
    have hpos := prefixLength_pos (n / 128)
    rw [List.getLast?_cons, ih, Option.getD_some, prefixLength_of_ge h, Nat.div_div_eq_div_mul,
      ← Nat.pow_succ', Nat.succ_eq_add_one,
      show prefixLength (n / 128) - 1 + 1 = prefixLength (n / 128) + 1 - 1 by omega]

/-- A body behind the prefix of its length splits off whole, whatever follows it. -/
theorem split_varint {body : List UInt8} (h : body.length ≤ maxSize) (rest : List UInt8) :
    split (varint body.length ++ (body ++ rest)) = .ok (some (body, rest)) := by
  have hlen := prefixLength_le_max h
  have hpre : prefixBytes (varint body.length ++ (body ++ rest)) = some (varint body.length) :=
    prefixBytes_go_varint _ 0 _ (by omega)
  have hlast : ¬ ((varint body.length).length = maxPrefixSize ∧
      (varint body.length).getLast?.getD 0 > 7) := by
    rintro ⟨h5, h7⟩
    rw [varint_length] at h5
    rw [getLast_varint, h5, Option.getD_some, GT.gt, UInt8.lt_iff_toNat_lt] at h7
    simp [maxPrefixSize, maxSize] at h7 h
    omega
  simp only [split, hpre, hlast, if_false, groupsValue_varint, List.drop_left, List.take_left,
    if_true]

/-! Stability under extension. -/

theorem prefixBytes_go_append {t : List UInt8} {count : Nat} {pre : List UInt8}
    (h : prefixBytes.go t count = some pre) (x : List UInt8) :
    prefixBytes.go (t ++ x) count = some pre := by
  induction t generalizing count pre with
  | nil => simp [prefixBytes.go] at h
  | cons b t ih =>
    simp only [prefixBytes.go, List.cons_append] at h ⊢
    split at h
    · next hstop => rw [if_pos hstop]; exact h
    · next hgo =>
      rw [if_neg hgo]
      obtain ⟨pre', hpre', rfl⟩ := Option.map_eq_some_iff.mp h
      rw [ih hpre']
      rfl

theorem prefixBytes_go_eq {t : List UInt8} {count : Nat} {pre : List UInt8}
    (h : prefixBytes.go t count = some pre) : t = pre ++ t.drop pre.length ∧ pre ≠ [] := by
  induction t generalizing count pre with
  | nil => simp [prefixBytes.go] at h
  | cons b t ih =>
    simp only [prefixBytes.go] at h
    split at h
    · cases h
      simp
    · obtain ⟨pre', hpre', rfl⟩ := Option.map_eq_some_iff.mp h
      obtain ⟨ht, -⟩ := ih hpre'
      simp only [List.cons_append, List.length_cons, List.drop_succ_cons, List.cons.injEq,
        true_and, ne_eq, reduceCtorEq, not_false_eq_true, and_true]
      exact ht

theorem groupsValue_lt (l : List UInt8) : groupsValue l < 128 ^ l.length := by
  induction l with
  | nil => simp [groupsValue]
  | cons b l ih =>
    simp only [groupsValue, List.length_cons, Nat.pow_succ]
    have := Nat.mod_lt b.toNat (show 128 > 0 by omega)
    omega

theorem prefixLength_groupsValue_le {l : List UInt8} (h : l ≠ []) :
    prefixLength (groupsValue l) ≤ l.length := by
  obtain ⟨k, hk⟩ : ∃ k, l.length = k + 1 := ⟨l.length - 1, by
    have := List.length_pos_iff.mpr h
    omega⟩
  have hlt := groupsValue_lt l
  rw [hk] at hlt ⊢
  exact prefixLength_le hlt

/-- The length in a complete prefix is the value of the prefix bytes, when the last of them
ends the prefix. -/
theorem peekLength_go_take (t : List UInt8) {count : Nat} (hc : count < maxPrefixSize) :
    peekLength.go (t.take (maxPrefixSize - count)) count =
      (prefixBytes.go t count).bind fun pre =>
        if pre.getLast?.getD 0 < 0x80 then some (groupsValue pre * 128 ^ count) else none := by
  induction t generalizing count with
  | nil => simp [peekLength.go, prefixBytes.go]
  | cons b t ih =>
    obtain ⟨k, hk⟩ : ∃ k, maxPrefixSize - count = k + 1 := ⟨maxPrefixSize - count - 1, by omega⟩
    rw [hk, List.take_succ_cons]
    have hlt : b.toNat < 256 := b.toNat_lt
    by_cases hb : b < 0x80
    · have hb' : b.toNat < 128 := by simpa [UInt8.lt_iff_toNat_lt] using hb
      simp [peekLength.go, prefixBytes.go, hb, groupsValue, Nat.mod_eq_of_lt hb']
    · have hb' : 128 ≤ b.toNat := by simpa [UInt8.lt_iff_toNat_lt] using hb
      by_cases hlast : count + 1 = maxPrefixSize
      · have hk0 : k = 0 := by omega
        subst hk0
        simp [peekLength.go, prefixBytes.go, hb, hlast]
      · have ih' := @ih (count + 1) (by omega)
        rw [show maxPrefixSize - (count + 1) = k by omega] at ih'
        simp only [peekLength.go, prefixBytes.go, hb, hlast, ih', decide_false, Bool.false_or,
          if_false, Bool.false_eq_true]
        cases hgo : prefixBytes.go t (count + 1) with
        | none => simp
        | some pre =>
          obtain ⟨-, hne⟩ := prefixBytes_go_eq hgo
          have hcons : (b :: pre).getLast? = pre.getLast? := by
            cases pre with
            | nil => exact absurd rfl hne
            | cons c cs => simp
          simp only [Option.bind_some, Option.map_some, hcons]
          split
          · simp only [Option.map_some, Option.some.injEq, groupsValue, Nat.pow_eq, Nat.pow_succ]
            have hmod : b.toNat % 128 = b.toNat - 128 := by omega
            rw [hmod]
            ring
          · rfl

theorem peekLength_eq (t : List UInt8) :
    peekLength t = (prefixBytes t).bind fun pre =>
      if pre.getLast?.getD 0 < 0x80 then some (groupsValue pre) else none := by
  simpa [peekLength, prefixBytes] using @peekLength_go_take t 0 (by decide)

theorem prefixBytes_append {t pre : List UInt8} (h : prefixBytes t = some pre) (x : List UInt8) :
    prefixBytes (t ++ x) = some pre :=
  prefixBytes_go_append h x

theorem peekLength_append {t : List UInt8} {n : Nat} (h : peekLength t = some n)
    (x : List UInt8) : peekLength (t ++ x) = some n := by
  rw [peekLength_eq] at h ⊢
  obtain ⟨pre, hpre, hn⟩ := Option.bind_eq_some_iff.mp h
  rw [prefixBytes_append hpre, Option.bind_some, hn]

theorem split_of_prefixBytes {t pre : List UInt8} (h : prefixBytes t = some pre)
    (hok : ¬ (pre.length = maxPrefixSize ∧ pre.getLast?.getD 0 > 7)) :
    split t = if pre.length + groupsValue pre ≤ t.length then
      .ok (some ((t.drop pre.length).take (groupsValue pre),
        t.drop (pre.length + groupsValue pre)))
    else .ok none := by
  have hle : pre.length ≤ t.length := by
    have ht := congrArg List.length (prefixBytes_go_eq h).1
    simp at ht
    omega
  simp only [split, h, hok, if_false, List.length_take, List.length_drop, List.drop_drop]
  by_cases hfit : pre.length + groupsValue pre ≤ t.length
  · rw [if_pos (by omega), if_pos hfit]
  · rw [if_neg (by omega), if_neg hfit]

theorem split_eq_some {t body rest : List UInt8} (h : split t = .ok (some (body, rest))) :
    ∃ pre, prefixBytes t = some pre ∧ ¬ (pre.length = maxPrefixSize ∧ pre.getLast?.getD 0 > 7) ∧
      pre ≠ [] ∧ body.length = groupsValue pre ∧ t = pre ++ body ++ rest := by
  cases hpre : prefixBytes t with
  | none => simp [split, hpre] at h
  | some pre =>
    by_cases hok : pre.length = maxPrefixSize ∧ pre.getLast?.getD 0 > 7
    · simp [split, hpre, hok] at h
    · rw [split_of_prefixBytes hpre hok] at h
      obtain ⟨ht, hne⟩ := prefixBytes_go_eq hpre
      split at h
      · next hfit =>
        simp only [Except.ok.injEq, Option.some.injEq, Prod.mk.injEq] at h
        obtain ⟨rfl, rfl⟩ := h
        refine ⟨pre, rfl, hok, hne, by simp; omega, ?_⟩
        rw [List.append_assoc, ← List.drop_drop, List.take_append_drop]
        exact ht
      · cases h

theorem split_append_of_some {t body rest : List UInt8} (h : split t = .ok (some (body, rest)))
    (x : List UInt8) : split (t ++ x) = .ok (some (body, rest ++ x)) := by
  obtain ⟨pre, hpre, hok, -, hbody, rfl⟩ := split_eq_some h
  rw [split_of_prefixBytes (prefixBytes_append hpre x) hok, if_pos (by simp; omega)]
  simp [List.append_assoc, hbody]

theorem split_append_of_error {t : List UInt8} {e : Error} (h : split t = .error e)
    (x : List UInt8) : split (t ++ x) = .error e := by
  cases hpre : prefixBytes t with
  | none => simp [split, hpre] at h
  | some pre =>
    by_cases hok : pre.length = maxPrefixSize ∧ pre.getLast?.getD 0 > 7
    · simp only [split, hpre, hok, and_self, if_true] at h
      simp only [split, prefixBytes_append hpre x, hok, and_self, if_true]
      exact h
    · rw [split_of_prefixBytes hpre hok] at h
      split at h <;> cases h

theorem prefixBytes_go_self {t : List UInt8} {count : Nat} {pre : List UInt8}
    (h : prefixBytes.go t count = some pre) : prefixBytes.go pre count = some pre := by
  induction t generalizing count pre with
  | nil => simp [prefixBytes.go] at h
  | cons b t ih =>
    simp only [prefixBytes.go] at h
    split at h
    · next hstop =>
      cases h
      simp [prefixBytes.go, hstop]
    · next hgo =>
      obtain ⟨pre', hpre', rfl⟩ := Option.map_eq_some_iff.mp h
      simp [prefixBytes.go, hgo, ih hpre']

/-- An envelope complete in the input is complete in every front of it that holds it: an input
cut before the end of its first envelope is one the splitter waits on. -/
theorem lt_of_split_take {t body rest : List UInt8} (h : split t = .ok (some (body, rest)))
    {k : Nat} (hk : split (t.take k) = .ok none) : k < t.length - rest.length := by
  obtain ⟨pre, hpre, hok, -, hbody, rfl⟩ := split_eq_some h
  by_contra hle
  have hself : prefixBytes (pre ++ body) = some pre :=
    prefixBytes_append (prefixBytes_go_self hpre) body
  have hsplit : split (pre ++ body) = .ok (some (body, [])) := by
    rw [split_of_prefixBytes hself hok, if_pos (by simp; omega)]
    simp [← hbody]
  have htake :
      (pre ++ body ++ rest).take k = pre ++ body ++ rest.take (k - (pre ++ body).length) := by
    rw [List.take_append, List.take_of_length_le (by simp at hle ⊢; omega)]
  rw [htake, split_append_of_some hsplit] at hk
  cases hk

theorem envelopeLength_of_split_some {t body rest : List UInt8}
    (h : split t = .ok (some (body, rest))) : envelopeLength t = some (t.length - rest.length) := by
  obtain ⟨pre, hpre, -, -, hbody, rfl⟩ := split_eq_some h
  simp only [envelopeLength, hpre, Option.map_some, List.length_append]
  congr 1
  omega

/-- An input the splitter waits on: no complete prefix, or a prefix it accepts and a body that
is not all there. -/
theorem split_eq_none {t : List UInt8} (h : split t = .ok none) :
    prefixBytes t = none ∨ ∃ pre, prefixBytes t = some pre ∧
      ¬ (pre.length = maxPrefixSize ∧ pre.getLast?.getD 0 > 7) ∧
      t.length < pre.length + groupsValue pre := by
  cases hpre : prefixBytes t with
  | none => exact Or.inl rfl
  | some pre =>
    by_cases hok : pre.length = maxPrefixSize ∧ pre.getLast?.getD 0 > 7
    · simp [split, hpre, hok] at h
    · rw [split_of_prefixBytes hpre hok] at h
      split at h
      · cases h
      · next hfit => exact Or.inr ⟨pre, rfl, hok, by omega⟩

end HubLink.Envelope

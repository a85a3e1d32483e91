import Mathlib.Algebra.BigOperators.Ring.Finset
import HubLink.Proofs.FirstEnvelope
/-!
# The grammar of length prefixes

An envelope's length prefix as the splitter reads it: bytes with the continuation bit `0x80`,
then one without it, five bytes at most; a fifth byte may carry only three bits, which keeps the
length below `2^31`. The length is the sum of the low seven bits of byte `i` times `128^i`
(`prefixValue`). Every input starts in one of three ways (`prefix_cases`): bytes that all
continue, fewer than five (the prefix is unfinished), four continued bytes and a fifth above 7
(refused), or a complete prefix, canonical or not. The splitter answers by that shape alone
(`split_grammar`).

The writer produces the canonical prefix of a length, which no byte string spelling that
length undercuts, and what it frames splits back off (`writePrefix_split_agree`). The length a
buffer waits for (`messageLength`) counts the canonical prefix of the announced length rather
than the prefix that was read, so it is the framed size exactly when that prefix is canonical
(`messageLength_agrees_iff_canonical`).
-/
namespace HubLink.Envelope

/-- The number a length prefix spells: the low seven bits of byte `i` weigh `128^i`. -/
def prefixValue (pre : List UInt8) : Nat :=
  ∑ i ∈ Finset.range pre.length, (pre.getD i 0).toNat % 128 * 128 ^ i

/-- `cont ++ [last]` is a complete length prefix: the bytes before the last carry the
continuation bit and the last does not; there are five bytes at most, and a fifth carries at
most three bits. -/
structure CompletePrefix (cont : List UInt8) (last : UInt8) : Prop where
  continued : ∀ b ∈ cont, 0x80 ≤ b
  ended : last < 0x80
  length_le : cont.length ≤ 4
  fifth_le : cont.length = 4 → last ≤ 7

/-- An input whose prefix is refused: four bytes with the continuation bit, then a fifth above
7, which would announce 2 GB or more. -/
def Refused (s : List UInt8) : Prop :=
  ∃ cont b tail, s = cont ++ b :: tail ∧ cont.length = 4 ∧ (∀ c ∈ cont, 0x80 ≤ c) ∧ 7 < b

theorem groupsValue_eq_prefixValue (pre : List UInt8) : groupsValue pre = prefixValue pre := by
  induction pre with
  | nil => simp [groupsValue, prefixValue]
  | cons b pre ih =>
    rw [groupsValue, ih, prefixValue, prefixValue, List.length_cons, Finset.sum_range_succ',
      Finset.mul_sum]
    simp only [List.getD_cons_succ, List.getD_cons_zero, pow_zero, mul_one]
    rw [Nat.add_comm]
    congr 1
    exact Finset.sum_congr rfl fun i _ => by ring

theorem groupsValue_concat (l : List UInt8) (b : UInt8) :
    groupsValue (l ++ [b]) = groupsValue l + 128 ^ l.length * (b.toNat % 128) := by
  induction l with
  | nil => simp [groupsValue]
  | cons c l ih =>
    simp only [List.cons_append, groupsValue, ih, List.length_cons, Nat.pow_succ]
    ring

theorem le_prefixLength {n k : Nat} (h : 128 ^ k ≤ n) : k + 1 ≤ prefixLength n := by
  induction k generalizing n with
  | zero => exact prefixLength_pos n
  | succ k ih =>
    have hn : ¬ n < 0x80 := by
      have : 128 ≤ 128 ^ (k + 1) := Nat.le_self_pow (by omega) 128
      omega
    have := ih (n := n / 128) (by rw [Nat.pow_succ] at h; omega)
    rw [prefixLength_of_ge hn]
    omega

/-! The reader of prefix bytes. -/

theorem prefixBytes_go_stop {cont : List UInt8} {last : UInt8} {count : Nat} (tail : List UInt8)
    (hc : ∀ b ∈ cont, 0x80 ≤ b) (hlen : count + cont.length ≤ 4)
    (hstop : last < 0x80 ∨ count + cont.length = 4) :
    prefixBytes.go (cont ++ last :: tail) count = some (cont ++ [last]) := by
  induction cont generalizing count with
  | nil =>
    have h : (decide (last < 0x80) || decide (count + 1 = maxPrefixSize)) = true := by
      rcases hstop with h | h
      · simp [h]
      · simp only [List.length_nil, Nat.add_zero] at h
        simp [h, maxPrefixSize]
    simp [prefixBytes.go, h]
  | cons b cont ih =>
    have hb : ¬ b < 0x80 := UInt8.not_lt.mpr (hc b (by simp))
    have hcount : count + 1 ≠ maxPrefixSize := by
      simp only [List.length_cons] at hlen
      simp only [maxPrefixSize]
      omega
    have hrest := @ih (count + 1) (fun x hx => hc x (by simp [hx]))
      (by simp only [List.length_cons] at hlen; omega)
      (hstop.imp_right fun h => by simp only [List.length_cons] at h; omega)
    simp [prefixBytes.go, hb, hcount, hrest]

/-- What the reader collects: bytes with the continuation bit, then the byte it stops at, which
lacks the bit or is the fifth. -/
theorem prefixBytes_go_shape {s pre : List UInt8} {count : Nat} (hcount : count ≤ 4)
    (h : prefixBytes.go s count = some pre) :
    ∃ cont last, pre = cont ++ [last] ∧ (∀ b ∈ cont, 0x80 ≤ b) ∧ count + cont.length ≤ 4 ∧
      (last < 0x80 ∨ count + cont.length = 4) := by
  induction s generalizing count pre with
  | nil => simp [prefixBytes.go] at h
  | cons b s ih =>
    simp only [prefixBytes.go] at h
    split at h
    · next hstop =>
      cases h
      have hstop' : b < 0x80 ∨ count = 4 := by simpa [maxPrefixSize] using hstop
      exact ⟨[], b, rfl, by simp, by simpa using hcount, by simpa using hstop'⟩
    · next hgo =>
      obtain ⟨pre', hpre', rfl⟩ := Option.map_eq_some_iff.mp h
      have hgo' : ¬ b < 0x80 ∧ count + 1 ≠ 5 := by simpa [maxPrefixSize] using hgo
      obtain ⟨cont, last, rfl, hc, hlen, hstop⟩ := ih (by omega) hpre'
      refine ⟨b :: cont, last, rfl, ?_, by simp only [List.length_cons]; omega, ?_⟩
      · intro x hx
        rcases List.mem_cons.mp hx with rfl | hx
        · exact UInt8.not_lt.mp hgo'.1
        · exact hc x hx
      · exact hstop.imp_right fun h => by simp only [List.length_cons]; omega

/-- The reader finds no prefix exactly when every byte continues and the bytes stop before the
fifth. -/
theorem prefixBytes_go_eq_none_iff {s : List UInt8} {count : Nat} (hcount : count ≤ 4) :
    prefixBytes.go s count = none ↔ (∀ b ∈ s, 0x80 ≤ b) ∧ count + s.length ≤ 4 := by
  induction s generalizing count with
  | nil => simp [prefixBytes.go, hcount]
  | cons b s ih =>
    simp only [prefixBytes.go]
    split
    · next hstop =>
      have hstop' : b < 0x80 ∨ count = 4 := by simpa [maxPrefixSize] using hstop
      simp only [reduceCtorEq, false_iff, not_and, List.mem_cons, List.length_cons]
      intro hall
      rcases hstop' with h | h
      · exact absurd h (UInt8.not_lt.mpr (hall b (.inl rfl)))
      · omega
    · next hgo =>
      have hgo' : ¬ b < 0x80 ∧ count + 1 ≠ 5 := by simpa [maxPrefixSize] using hgo
      have hb : 0x80 ≤ b := UInt8.not_lt.mp hgo'.1
      rw [Option.map_eq_none_iff, ih (by omega)]
      simp only [List.mem_cons, forall_eq_or_imp, hb, true_and, List.length_cons]
      constructor
      · rintro ⟨hall, hlen⟩
        exact ⟨hall, by omega⟩
      · rintro ⟨hall, hlen⟩
        exact ⟨hall, by omega⟩

theorem prefixBytes_eq_some_iff {s pre : List UInt8} :
    prefixBytes s = some pre ↔ ∃ cont last tail, s = cont ++ last :: tail ∧
      pre = cont ++ [last] ∧ (∀ b ∈ cont, 0x80 ≤ b) ∧ cont.length ≤ 4 ∧
      (last < 0x80 ∨ cont.length = 4) := by
  constructor
  · intro h
    obtain ⟨cont, last, rfl, hc, hlen, hstop⟩ := prefixBytes_go_shape (Nat.zero_le 4) h
    obtain ⟨hs, -⟩ := prefixBytes_go_eq h
    exact ⟨cont, last, s.drop (cont ++ [last]).length, by simpa using hs, rfl, hc,
      by omega, by simpa using hstop⟩
  · rintro ⟨cont, last, tail, rfl, rfl, hc, hlen, hstop⟩
    exact prefixBytes_go_stop tail hc (by omega) (by simpa using hstop)

theorem prefixBytes_eq_none_iff {s : List UInt8} :
    prefixBytes s = none ↔ (∀ b ∈ s, 0x80 ≤ b) ∧ s.length < 5 := by
  rw [prefixBytes, prefixBytes_go_eq_none_iff (Nat.zero_le 4), Nat.zero_add]
  exact and_congr_right fun _ => by omega

/-- Every input starts with an unfinished prefix, a refused one or a complete one. -/
theorem prefix_cases (s : List UInt8) :
    ((∀ b ∈ s, 0x80 ≤ b) ∧ s.length < 5) ∨ Refused s ∨
      ∃ cont last tail, s = cont ++ last :: tail ∧ CompletePrefix cont last := by
  cases hp : prefixBytes s with
  | none => exact .inl (prefixBytes_eq_none_iff.mp hp)
  | some pre =>
    obtain ⟨cont, last, tail, rfl, -, hc, hlen, hstop⟩ := prefixBytes_eq_some_iff.mp hp
    by_cases hbig : cont.length = 4 ∧ 7 < last
    · exact .inr (.inl ⟨cont, last, tail, rfl, hbig.1, hc, hbig.2⟩)
    have hfifth : cont.length = 4 → last ≤ 7 := fun h4 => UInt8.not_lt.mp fun h => hbig ⟨h4, h⟩
    refine .inr (.inr ⟨cont, last, tail, rfl, hc, ?_, hlen, hfifth⟩)
    rcases hstop with h | h4
    · exact h
    · exact UInt8.lt_of_le_of_lt (hfifth h4) (by decide)

theorem prefixBytes_complete {cont : List UInt8} {last : UInt8} (hc : CompletePrefix cont last)
    (tail : List UInt8) : prefixBytes (cont ++ last :: tail) = some (cont ++ [last]) :=
  prefixBytes_go_stop tail hc.continued (by have := hc.length_le; omega) (.inl hc.ended)

/-! The splitter, by the shape of its input. -/

theorem split_unfinished {s : List UInt8} (hs : (∀ b ∈ s, 0x80 ≤ b) ∧ s.length < 5) :
    split s = .ok none := by
  simp [split, prefixBytes_eq_none_iff.mpr hs]

theorem split_refused {s : List UInt8} (hs : Refused s) : split s = .error .envelopeTooLarge := by
  obtain ⟨cont, b, tail, rfl, h4, hc, hb⟩ := hs
  have hpre : prefixBytes (cont ++ b :: tail) = some (cont ++ [b]) :=
    prefixBytes_go_stop tail hc (by omega) (.inr (by omega))
  simp [split, hpre, h4, maxPrefixSize, hb]

/-- Behind a complete prefix the splitter takes the body the prefix announces, once all of it
is there. -/
theorem split_complete {cont : List UInt8} {last : UInt8} (hc : CompletePrefix cont last)
    (tail : List UInt8) :
    split (cont ++ last :: tail) =
      if prefixValue (cont ++ [last]) ≤ tail.length then
        .ok (some (tail.take (prefixValue (cont ++ [last])),
          tail.drop (prefixValue (cont ++ [last]))))
      else .ok none := by
  have hok : ¬ ((cont ++ [last]).length = maxPrefixSize ∧
      (cont ++ [last]).getLast?.getD 0 > 7) := by
    rintro ⟨h5, h7⟩
    simp only [List.length_append, List.length_singleton, maxPrefixSize] at h5
    simp only [List.getLast?_concat, Option.getD_some, GT.gt] at h7
    exact UInt8.not_lt.mpr (hc.fifth_le (by omega)) h7
  have hs : cont ++ last :: tail = (cont ++ [last]) ++ tail := by simp
  rw [split_of_prefixBytes (prefixBytes_complete hc tail) hok, groupsValue_eq_prefixValue, hs,
    List.drop_left, ← List.drop_drop, List.drop_left]
  simp only [List.length_append, Nat.add_le_add_iff_left]

theorem split_eq_error_iff (s : List UInt8) (e : Error) :
    split s = .error e ↔ e = .envelopeTooLarge ∧ Refused s := by
  constructor
  · intro h
    rcases prefix_cases s with hs | hs | ⟨cont, last, tail, rfl, hc⟩
    · rw [split_unfinished hs] at h
      cases h
    · rw [split_refused hs] at h
      cases h
      exact ⟨rfl, hs⟩
    · rw [split_complete hc] at h
      split_ifs at h
  · rintro ⟨rfl, hs⟩
    exact split_refused hs

theorem split_eq_none_iff (s : List UInt8) :
    split s = .ok none ↔ ((∀ b ∈ s, 0x80 ≤ b) ∧ s.length < 5) ∨
      ∃ cont last tail, s = cont ++ last :: tail ∧ CompletePrefix cont last ∧
        tail.length < prefixValue (cont ++ [last]) := by
  constructor
  · intro h
    rcases prefix_cases s with hs | hs | ⟨cont, last, tail, rfl, hc⟩
    · exact .inl hs
    · rw [split_refused hs] at h
      cases h
    · rw [split_complete hc] at h
      split_ifs at h with hfit
      · cases h
      · exact .inr ⟨cont, last, tail, rfl, hc, by omega⟩
  · rintro (hs | ⟨cont, last, tail, rfl, hc, hshort⟩)
    · exact split_unfinished hs
    · rw [split_complete hc, if_neg (by omega)]

theorem split_eq_some_iff (s body rest : List UInt8) :
    split s = .ok (some (body, rest)) ↔ ∃ cont last tail, s = cont ++ last :: tail ∧
      CompletePrefix cont last ∧ prefixValue (cont ++ [last]) ≤ tail.length ∧
      body = tail.take (prefixValue (cont ++ [last])) ∧
      rest = tail.drop (prefixValue (cont ++ [last])) := by
  constructor
  · intro h
    rcases prefix_cases s with hs | hs | ⟨cont, last, tail, rfl, hc⟩
    · rw [split_unfinished hs] at h
      cases h
    · rw [split_refused hs] at h
      cases h
    · rw [split_complete hc] at h
      split_ifs at h with hfit
      · simp only [Except.ok.injEq, Option.some.injEq, Prod.mk.injEq] at h
        exact ⟨cont, last, tail, rfl, hc, hfit, h.1.symm, h.2.symm⟩
      · cases h
  · rintro ⟨cont, last, tail, rfl, hc, hfit, rfl, rfl⟩
    rw [split_complete hc, if_pos hfit]

theorem peekLength_complete {cont : List UInt8} {last : UInt8} (hc : CompletePrefix cont last)
    (tail : List UInt8) :
    peekLength (cont ++ last :: tail) = some (prefixValue (cont ++ [last])) := by
  simp [peekLength_eq, prefixBytes_complete hc tail, hc.ended, groupsValue_eq_prefixValue]

theorem peekLength_unfinished {s : List UInt8} (hs : (∀ b ∈ s, 0x80 ≤ b) ∧ s.length < 5) :
    peekLength s = none := by
  simp [peekLength_eq, prefixBytes_eq_none_iff.mpr hs]

/-- The splitter accepts exactly the grammar of envelopes. It refuses an input exactly when its
first four bytes continue and the fifth is above 7. It waits exactly while every byte continues
and there are fewer than five (the empty input among them), or while the body behind a complete
prefix is short. Otherwise it splits off the body the prefix announces and leaves the bytes
after it, canonical prefix or not. The announced length can be read as soon as a valid prefix
is complete, and not while it is unfinished. -/
theorem split_grammar (s : List UInt8) :
    (∀ e, split s = .error e ↔ e = .envelopeTooLarge ∧ Refused s) ∧
    (split s = .ok none ↔ ((∀ b ∈ s, 0x80 ≤ b) ∧ s.length < 5) ∨
      ∃ cont last tail, s = cont ++ last :: tail ∧ CompletePrefix cont last ∧
        tail.length < prefixValue (cont ++ [last])) ∧
    (∀ body rest, split s = .ok (some (body, rest)) ↔
      ∃ cont last tail, s = cont ++ last :: tail ∧ CompletePrefix cont last ∧
        prefixValue (cont ++ [last]) ≤ tail.length ∧
        body = tail.take (prefixValue (cont ++ [last])) ∧
        rest = tail.drop (prefixValue (cont ++ [last]))) ∧
    (∀ cont last tail, s = cont ++ last :: tail → CompletePrefix cont last →
      peekLength s = some (prefixValue (cont ++ [last]))) ∧
    ((∀ b ∈ s, 0x80 ≤ b) ∧ s.length < 5 → peekLength s = none) :=
  ⟨split_eq_error_iff s, split_eq_none_iff s, split_eq_some_iff s,
    fun _ _ tail hs hc => hs ▸ peekLength_complete hc tail, peekLength_unfinished⟩

/-! The writer against the reader. -/

theorem varint_ne_nil (n : Nat) : varint n ≠ [] := by
  rw [varint]
  split <;> simp

/-- The varint of a length is in canonical form: continued bytes, then a last byte without the
continuation bit, which is zero only when it stands alone. -/
theorem varint_canonical (n : Nat) :
    ∃ cont last, varint n = cont ++ [last] ∧ (∀ b ∈ cont, 0x80 ≤ b) ∧ last < 0x80 ∧
      (cont ≠ [] → last ≠ 0) := by
  fun_induction varint n with
  | case1 n h =>
    refine ⟨[], n.toUInt8, rfl, by simp, ?_, by simp⟩
    rw [UInt8.lt_iff_toNat_lt]
    simp
    omega
  | case2 n h ih =>
    obtain ⟨cont, last, hv, hc, hl, hz⟩ := ih
    refine ⟨(n % 128 + 128).toUInt8 :: cont, last, by rw [hv]; rfl, ?_, hl, fun _ => ?_⟩
    · intro b hb
      rcases List.mem_cons.mp hb with rfl | hb
      · rw [UInt8.le_iff_toNat_le]
        simp
        omega
      · exact hc b hb
    · by_cases hcont : cont = []
      · subst hcont
        rw [varint] at hv
        split at hv
        · next hsmall =>
          simp only [List.nil_append, List.cons.injEq, and_true] at hv
          rw [← hv]
          intro h0
          have := congrArg UInt8.toNat h0
          simp at this
          omega
        · simp only [List.nil_append, List.cons.injEq] at hv
          exact absurd hv.2 (varint_ne_nil _)
      · exact hz hcont

/-- Up to `maxSize`, the canonical form of a varint is a complete prefix. -/
theorem varint_complete {n : Nat} (hn : n ≤ maxSize) :
    ∃ cont last, varint n = cont ++ [last] ∧ CompletePrefix cont last ∧
      (cont ≠ [] → last ≠ 0) := by
  obtain ⟨cont, last, hv, hc, hl, hz⟩ := varint_canonical n
  have hlen : cont.length + 1 = prefixLength n := by
    rw [← varint_length, hv]
    simp
  have h5 := prefixLength_le_max hn
  refine ⟨cont, last, hv, ⟨hc, hl, by simp [maxPrefixSize] at h5; omega, fun h4 => ?_⟩, hz⟩
  have hlast := getLast_varint n
  rw [hv, List.getLast?_concat, show prefixLength n - 1 = 4 by omega] at hlast
  cases hlast
  rw [UInt8.le_iff_toNat_le]
  simp [maxSize] at hn ⊢
  omega

theorem prefixLength_prefixValue_le {l : List UInt8} (hl : l ≠ []) :
    prefixLength (prefixValue l) ≤ l.length := by
  rw [← groupsValue_eq_prefixValue]
  exact prefixLength_groupsValue_le hl

theorem varint_shortest {n : Nat} {l : List UInt8} (hl : l ≠ []) (hv : prefixValue l = n) :
    (varint n).length ≤ l.length := by
  rw [varint_length, ← hv]
  exact prefixLength_prefixValue_le hl

/-- A whole envelope is whole only with all its bytes: every proper front of it is one the
splitter waits on. -/
theorem split_take_of_split_some {t body rest : List UInt8}
    (h : split t = .ok (some (body, rest))) {k : Nat} (hk : k < t.length - rest.length) :
    split (t.take k) = .ok none := by
  obtain ⟨pre, hpre, hok, -, hbody, rfl⟩ := split_eq_some h
  obtain ⟨cont, last, tail, -, rfl, hc, hlen, -⟩ := prefixBytes_eq_some_iff.mp hpre
  by_cases hshort : k ≤ cont.length
  · apply split_unfinished
    have htake : (cont ++ [last] ++ body ++ rest).take k = cont.take k := by
      rw [List.append_assoc, List.append_assoc, List.take_append_of_le_length hshort]
    rw [htake]
    exact ⟨fun b hb => hc b (List.mem_of_mem_take hb), by simp; omega⟩
  · have hself : prefixBytes (cont ++ [last]) = some (cont ++ [last]) :=
      prefixBytes_go_self hpre
    have htake : (cont ++ [last] ++ body ++ rest).take k =
        cont ++ [last] ++ (body ++ rest).take (k - (cont ++ [last]).length) := by
      rw [List.append_assoc, List.take_append, List.take_of_length_le (by simp; omega)]
    rw [htake, split_of_prefixBytes (prefixBytes_append hself _) hok, if_neg]
    simp only [List.length_append, List.length_singleton, List.length_take] at hk ⊢
    omega

/-- The prefix writer and the splitter agree. A length up to `maxSize` is written as its
canonical varint: a complete prefix that spells the length, no longer than any byte string
spelling it, of `prefixLength` bytes, five at most. Its length reads back, and behind it a body
of that length splits off whatever follows, while every proper front of prefix and body is one
the splitter waits on. A longer length is refused and nothing is written. -/
theorem writePrefix_split_agree (n : Nat) :
    (n ≤ maxSize →
      writePrefix n = .ok (varint n) ∧
      (∃ cont last, varint n = cont ++ [last] ∧ CompletePrefix cont last ∧
        (cont ≠ [] → last ≠ 0)) ∧
      prefixValue (varint n) = n ∧
      (∀ l, l ≠ [] → prefixValue l = n → (varint n).length ≤ l.length) ∧
      (varint n).length = prefixLength n ∧ prefixLength n ≤ maxPrefixSize ∧
      peekLength (varint n) = some n ∧
      ∀ body rest, body.length = n →
        split (varint n ++ body ++ rest) = .ok (some (body, rest)) ∧
        ∀ k < (varint n ++ body).length, split ((varint n ++ body).take k) = .ok none) ∧
    (maxSize < n → writePrefix n = .error (.messageTooLarge n maxSize)) := by
  refine ⟨fun hn => ?_, fun hn => by simp [writePrefix, hn]⟩
  have hvalue : prefixValue (varint n) = n := by
    rw [← groupsValue_eq_prefixValue, groupsValue_varint]
  obtain ⟨cont, last, hv, hc, hz⟩ := varint_complete hn
  refine ⟨by simp [writePrefix, show ¬ maxSize < n by omega], ⟨cont, last, hv, hc, hz⟩, hvalue,
    fun l hl hlv => varint_shortest hl hlv, varint_length n, prefixLength_le_max hn, ?_,
    fun body rest hbody => ?_⟩
  · have := peekLength_complete hc []
    rwa [← hv, hvalue] at this
  · have hsplit : split (varint n ++ body ++ rest) = .ok (some (body, rest)) := by
      rw [List.append_assoc, ← hbody]
      exact split_varint (hbody ▸ hn) rest
    have hwhole : split (varint n ++ body) = .ok (some (body, [])) := by
      have := split_varint (hbody ▸ hn) []
      rwa [hbody, List.append_nil] at this
    exact ⟨hsplit, fun k hk => split_take_of_split_some hwhole (by simpa using hk)⟩

/-- The prefix of 128 takes two bytes, `80 01`; one past `maxSize` is refused. -/
theorem writePrefix_split_agree_128 :
    (128 ≤ maxSize ∧
      writePrefix 128 = .ok (varint 128) ∧
      (∃ cont last, varint 128 = cont ++ [last] ∧ CompletePrefix cont last ∧
        (cont ≠ [] → last ≠ 0)) ∧
      prefixValue (varint 128) = 128 ∧
      (∀ l, l ≠ [] → prefixValue l = 128 → (varint 128).length ≤ l.length) ∧
      (varint 128).length = prefixLength 128 ∧ prefixLength 128 ≤ maxPrefixSize ∧
      peekLength (varint 128) = some 128 ∧
      ∀ body rest, body.length = 128 →
        split (varint 128 ++ body ++ rest) = .ok (some (body, rest)) ∧
        ∀ k < (varint 128 ++ body).length, split ((varint 128 ++ body).take k) = .ok none) ∧
    (maxSize < maxSize + 1 ∧
      writePrefix (maxSize + 1) = .error (.messageTooLarge (maxSize + 1) maxSize)) :=
  ⟨⟨by decide, (writePrefix_split_agree 128).1 (by decide)⟩,
    ⟨by omega, (writePrefix_split_agree (maxSize + 1)).2 (by omega)⟩⟩

end HubLink.Envelope

namespace HubLink.Protocol

open Envelope

/-- A complete prefix has as many bytes as the varint of its value exactly when it is canonical:
a prefix of more than one byte that ends in a zero group is longer than needed. -/
theorem prefixLength_prefixValue_eq_iff {cont : List UInt8} {last : UInt8}
    (hc : CompletePrefix cont last) :
    prefixLength (prefixValue (cont ++ [last])) = cont.length + 1 ↔ (cont ≠ [] → last ≠ 0) := by
  have hle := prefixLength_prefixValue_le (l := cont ++ [last]) (by simp)
  rw [← groupsValue_eq_prefixValue, groupsValue_concat] at hle ⊢
  rw [List.length_append, List.length_singleton] at hle
  have hlow := groupsValue_lt cont
  have hlast : last.toNat < 128 := by simpa [UInt8.lt_iff_toNat_lt] using hc.ended
  constructor
  · intro heq hcont h0
    subst h0
    obtain ⟨k, hk⟩ : ∃ k, cont.length = k + 1 := ⟨cont.length - 1, by
      have := List.length_pos_iff.mpr hcont
      omega⟩
    have := prefixLength_le (n := groupsValue cont) (k := k) (by rw [← hk]; exact hlow)
    simp only [UInt8.toNat_zero, Nat.zero_mod, Nat.mul_zero, Nat.add_zero] at heq
    omega
  · intro hz
    by_cases hcont : cont = []
    · subst hcont
      simp only [List.length_nil, Nat.zero_add] at hle ⊢
      have := prefixLength_pos (groupsValue [] + 128 ^ 0 * (last.toNat % 128))
      omega
    · have hpos : last.toNat ≠ 0 := fun h => hz hcont (UInt8.toNat_inj.mp (by simpa using h))
      have hge : 128 ^ cont.length ≤
          groupsValue cont + 128 ^ cont.length * (last.toNat % 128) := by
        have : 128 ^ cont.length * 1 ≤ 128 ^ cont.length * (last.toNat % 128) :=
          Nat.mul_le_mul_left _ (by omega)
        omega
      have := le_prefixLength hge
      omega

theorem messageLength_complete {cont : List UInt8} {last : UInt8} (hc : CompletePrefix cont last)
    (tail : List UInt8) :
    messageLength (cont ++ last :: tail) =
      some (prefixLength (prefixValue (cont ++ [last])) + prefixValue (cont ++ [last])) := by
  simp [messageLength, peekLength_complete hc tail]

/-- The length a buffer waits for is the framed size of the first envelope exactly when the
envelope's prefix is canonical, and never more. The framed size is what a read that finds a
message or an unknown type consumes, and the input length from which on the envelope is
complete; the length a buffer waits for counts the canonical prefix of the announced length
instead of the prefix that was read. -/
theorem messageLength_agrees_iff_canonical (p : Protocol) (binder : InvocationBinder)
    {cont tail : List UInt8} {last : UInt8} (hc : CompletePrefix cont last) :
    (∀ o rest, p.tryParse binder (cont ++ last :: tail) = .ok (o, rest) → o ≠ .incomplete →
      (cont ++ last :: tail).length - rest.length =
        cont.length + 1 + prefixValue (cont ++ [last])) ∧
    (∀ x, (∃ body rest, split (cont ++ last :: tail ++ x) = .ok (some (body, rest))) ↔
      cont.length + 1 + prefixValue (cont ++ [last]) ≤ (cont ++ last :: tail ++ x).length) ∧
    ∃ m, messageLength (cont ++ last :: tail) = some m ∧
      m ≤ cont.length + 1 + prefixValue (cont ++ [last]) ∧
      (m = cont.length + 1 + prefixValue (cont ++ [last]) ↔ (cont ≠ [] → last ≠ 0)) := by
  refine ⟨fun o rest h ho => ?_, fun x => ?_, ?_⟩
  · obtain ⟨body, hsplit, -, -⟩ := p.tryParse_eq_ok h ho
    rw [split_complete hc] at hsplit
    split_ifs at hsplit with hfit
    · simp only [Except.ok.injEq, Option.some.injEq, Prod.mk.injEq] at hsplit
      rw [← hsplit.2]
      simp only [List.length_append, List.length_cons, List.length_drop]
      omega
    · cases hsplit
  · rw [List.append_assoc, List.cons_append, split_complete hc]
    simp only [List.length_append, List.length_cons]
    constructor
    · rintro ⟨body, rest, h⟩
      split_ifs at h with hfit
      · omega
      · cases h
    · intro hfit
      exact ⟨_, _, if_pos (by omega)⟩
  · have hle := prefixLength_prefixValue_le (l := cont ++ [last]) (by simp)
    rw [List.length_append, List.length_singleton] at hle
    refine ⟨_, messageLength_complete hc tail, by omega, ?_⟩
    rw [← prefixLength_prefixValue_eq_iff hc]
    omega

/-- A ping behind `82 00`, a two-byte prefix of the length 2: the read consumes all four bytes,
and the length a buffer waits for is three. -/
theorem messageLength_short_of_long_prefix :
    standard.tryParse MethodTable.empty.toBinder [0x82, 0x00, 0x91, 0x06] =
        .ok (.message .ping, []) ∧
      messageLength [0x82, 0x00, 0x91, 0x06] = some 3 := by
  refine ⟨rfl, ?_⟩
  have hc : CompletePrefix [0x82] 0 :=
    ⟨by simp [UInt8.le_iff_toNat_le], by decide, by decide, by decide⟩
  rw [show ([0x82, 0x00, 0x91, 0x06] : List UInt8) = [0x82] ++ 0 :: [0x91, 0x06] from rfl,
    messageLength_complete hc]
  simp [prefixValue, Finset.sum_range_succ, prefixLength]

/-- The prefix `82 00` of a ping is complete but not canonical. -/
theorem messageLength_agrees_at_long_prefix :
    CompletePrefix [0x82] 0 ∧
      ((∀ o rest, standard.tryParse MethodTable.empty.toBinder ([0x82] ++ 0 :: [0x91, 0x06]) =
          .ok (o, rest) → o ≠ .incomplete →
        ([0x82] ++ 0 :: [0x91, 0x06] : List UInt8).length - rest.length =
          [0x82].length + 1 + prefixValue ([0x82] ++ [0])) ∧
      (∀ x, (∃ body rest, split ([0x82] ++ 0 :: [0x91, 0x06] ++ x) = .ok (some (body, rest))) ↔
        [0x82].length + 1 + prefixValue ([0x82] ++ [0]) ≤
          ([0x82] ++ 0 :: [0x91, 0x06] ++ x : List UInt8).length) ∧
      ∃ m, messageLength ([0x82] ++ 0 :: [0x91, 0x06]) = some m ∧
        m ≤ [0x82].length + 1 + prefixValue ([0x82] ++ [0]) ∧
        (m = [0x82].length + 1 + prefixValue ([0x82] ++ [0]) ↔
          ([0x82] ≠ ([] : List UInt8) → (0 : UInt8) ≠ 0))) := by
  have hc : CompletePrefix [0x82] 0 :=
    ⟨by simp [UInt8.le_iff_toNat_le], by decide, by decide, by decide⟩
  exact ⟨hc, messageLength_agrees_iff_canonical standard MethodTable.empty.toBinder hc⟩

end HubLink.Protocol

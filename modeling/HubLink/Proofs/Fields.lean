import HubLink.Hub.Fields
import HubLink.Hub.Encode
import HubLink.Proofs.MsgPack
import HubLink.Proofs.Utf8
/-!
Reading back the written fields of a hub message body: counts, tags, strings, nullable strings,
headers and stream ids. Each field is read back as it was written, except that the readers
turn an empty header map and an empty stream id list into none; whatever follows a field is
left as it was. Lengths and counts must stay below `2^32`, which every body of an envelope
does.

A header map holds its keys in increasing order, so it is written in that order and reads back
as it was: each entry read is above every key before it, so it is new and goes at the end.
-/
namespace HubLink

theorem length_le_length_flatMap {α β : Type} {f : α → List β} (hf : ∀ a, f a ≠ [])
    (l : List α) : l.length ≤ (l.flatMap f).length := by
  induction l with
  | nil => simp
  | cons a l ih =>
    have ha : 0 < (f a).length := List.length_pos_iff.mpr (hf a)
    simp only [List.length_cons, List.flatMap_cons, List.length_append]
    omega

namespace Headers

theorem lookup_eq_none {key : String} {acc : List (String × String)} (h : ∀ e ∈ acc, e.1 < key) :
    acc.lookup key = none := by
  induction acc with
  | nil => rfl
  | cons e es ih =>
    have hne : (key == e.1) = false :=
      beq_eq_false_iff_ne.mpr (String.ne_of_lt (h e (by simp))).symm
    rw [List.lookup_cons, hne]
    exact ih fun e' he' => h e' (by simp [he'])

theorem insertEntry_of_lt {key value : String} {acc : List (String × String)}
    (h : ∀ e ∈ acc, e.1 < key) : insertEntry key value acc = acc ++ [(key, value)] := by
  induction acc with
  | nil => rfl
  | cons e es ih =>
    obtain ⟨k, v⟩ := e
    have hk : k < key := h (k, v) (by simp)
    simp only [insertEntry, String.ne_of_lt hk |>.symm, String.lt_asymm hk, if_false,
      List.cons_append]
    rw [ih fun e' he' => h e' (by simp [he'])]

@[simp]
theorem entries_eq_nil_iff {h : Headers} : h.entries = [] ↔ h = empty := by
  constructor
  · intro he
    exact Headers.ext he
  · rintro rfl
    rfl

end Headers

namespace Fields

open MsgPack HubMessage

variable (name : String) (rest : List UInt8)

theorem arrayLen_writeArrayLen {n : Nat} (h : n < 2 ^ 32) :
    arrayLen name (writeArrayLen n ++ rest) = .ok (n, rest) := by
  simp [arrayLen, lift, readArrayLen_writeArrayLen h]

theorem mapLen_writeMapLen {n : Nat} (h : n < 2 ^ 32) :
    mapLen name (writeMapLen n ++ rest) = .ok (n, rest) := by
  simp [mapLen, lift, readMapLen_writeMapLen h]

theorem int_writeUInt {n : Nat} (h : n < 2 ^ 63) :
    int name (writeUInt n ++ rest) = .ok (n, rest) := by
  simp [int, lift, readInt_writeUInt h]

theorem string_writeStr {s : String} (h : (writeStr s).length < 2 ^ 32) :
    string name (writeStr s ++ rest) = .ok (s, rest) := by
  have hlen : (Utf8.encode s).length < 2 ^ 32 := Nat.lt_trans (writeStr_length s) h
  simp only [writeStr, List.append_assoc]
  simp [string, lift, readStrLen_writeStrLen hlen, bind, Except.bind, Utf8.decode_encode]

theorem nullableString_writeNullableStr {o : Option String}
    (h : (writeNullableStr o).length < 2 ^ 32) :
    nullableString name (writeNullableStr o ++ rest) = .ok (o, rest) := by
  cases o with
  | none => rfl
  | some s =>
    obtain ⟨b, t, hw, hb⟩ := writeStr_head s
    have hstr := string_writeStr name rest h
    simp only [writeNullableStr, hw, List.cons_append] at hstr ⊢
    simp [nullableString, hb, hstr, bind, Except.bind]

theorem nullableString_writeStr {s : String} (h : (writeStr s).length < 2 ^ 32) :
    nullableString name (writeStr s ++ rest) = .ok (some s, rest) :=
  nullableString_writeNullableStr name rest (o := some s) h

/-! Headers. -/

theorem writeHeaders_eq (h : Option Headers) :
    writeHeaders h = writeMapLen (h.getD .empty).entries.length ++
      (h.getD .empty).entries.flatMap fun e => writeStr e.1 ++ writeStr e.2 := rfl

theorem headerEntries_write (acc : Headers) (entries : List (String × String))
    (hs : (acc.entries ++ entries).Pairwise (·.1 < ·.1))
    (hfit : ((entries.flatMap fun e => writeStr e.1 ++ writeStr e.2)).length < 2 ^ 32) :
    headerEntries acc entries.length
        ((entries.flatMap fun e => writeStr e.1 ++ writeStr e.2) ++ rest) =
      .ok (⟨acc.entries ++ entries, hs⟩, rest) := by
  induction entries generalizing acc with
  | nil => simp [headerEntries]
  | cons e es ih =>
    obtain ⟨k, v⟩ := e
    have hlt : ∀ e ∈ acc.entries, e.1 < k := fun e he =>
      (List.pairwise_append.mp hs).2.2 e he (k, v) (by simp)
    have hk : (writeStr k).length < 2 ^ 32 := by simp at hfit; omega
    have hv : (writeStr v).length < 2 ^ 32 := by simp at hfit; omega
    have hes : (es.flatMap fun e => writeStr e.1 ++ writeStr e.2).length < 2 ^ 32 := by
      simp at hfit ⊢; omega
    have hins : (acc.insert k v).entries = acc.entries ++ [(k, v)] := Headers.insertEntry_of_lt hlt
    have hs' : ((acc.insert k v).entries ++ es).Pairwise (·.1 < ·.1) := by
      rw [hins]
      simpa using hs
    simp only [List.length_cons, List.flatMap_cons, List.append_assoc]
    simp only [headerEntries, string_writeStr _ _ hk, string_writeStr _ _ hv, bind, Except.bind,
      Headers.lookup_eq_none hlt, Option.isSome_none, Bool.false_eq_true, if_false,
      ih (acc.insert k v) hs' hes, Except.ok.injEq, Prod.mk.injEq, and_true]
    exact Headers.ext (by simp [hins])

/-- Written headers read back, an empty map as none. -/
theorem headers_writeHeaders {h : Option Headers} (hfit : (writeHeaders h).length < 2 ^ 32) :
    headers (writeHeaders h ++ rest) = .ok (h.filter (· ≠ .empty), rest) := by
  have hflat : ((h.getD .empty).entries.flatMap fun e => writeStr e.1 ++ writeStr e.2).length <
      2 ^ 32 := by
    rw [writeHeaders_eq, List.length_append] at hfit
    omega
  have hcount : (h.getD .empty).entries.length < 2 ^ 32 :=
    Nat.lt_of_le_of_lt (length_le_length_flatMap (fun e => by simp [writeStr_ne_nil]) _) hflat
  have hentries := headerEntries_write rest .empty (h.getD .empty).entries
    (h.getD .empty).sorted hflat
  rw [writeHeaders_eq, List.append_assoc]
  simp only [headers, mapLen_writeMapLen _ _ hcount, bind, Except.bind]
  cases h with
  | none => simp [Headers.empty]
  | some l =>
    obtain ⟨entries, hsorted⟩ := l
    cases entries with
    | nil => simp [Option.filter, Headers.empty]
    | cons e es =>
      simp only [Option.getD_some, List.length_cons, List.flatMap_cons, List.append_assoc]
        at hentries ⊢
      rw [hentries]
      simp [Option.filter, Headers.ext_iff, Headers.empty]

/-! Stream ids. -/

theorem streamIdItems_write (ids : List String) (hfit : (ids.flatMap writeStr).length < 2 ^ 32) :
    streamIdItems ids.length (ids.flatMap writeStr ++ rest) = .ok (ids, rest) := by
  induction ids with
  | nil => simp [streamIdItems]
  | cons s ss ih =>
    have hs : (writeStr s).length < 2 ^ 32 := by simp at hfit; omega
    have hss : (ss.flatMap writeStr).length < 2 ^ 32 := by simp at hfit ⊢; omega
    simp only [List.length_cons, List.flatMap_cons, List.append_assoc]
    simp [streamIdItems, string_writeStr _ _ hs, ih hss, bind, Except.bind]

/-- Written stream ids read back, an empty list as none. -/
theorem streamIds_write (ids : Option (List String))
    (hfit : ((ids.getD []).flatMap writeStr).length < 2 ^ 32) :
    streamIds (writeArrayLen (ids.getD []).length ++ ((ids.getD []).flatMap writeStr ++ rest)) =
      .ok (ids.filter (· ≠ []), rest) := by
  have hcount : (ids.getD []).length < 2 ^ 32 :=
    Nat.lt_of_le_of_lt (length_le_length_flatMap writeStr_ne_nil _) hfit
  simp only [streamIds, arrayLen_writeArrayLen _ _ hcount, bind, Except.bind]
  cases ids with
  | none => simp
  | some l =>
    cases l with
    | nil => simp [Option.filter]
    | cons s ss =>
      have hitems := streamIdItems_write rest (s :: ss) hfit
      simp only [Option.getD_some, List.length_cons, List.flatMap_cons, List.append_assoc]
        at hitems ⊢
      simp [hitems, Option.filter]

end Fields

end HubLink

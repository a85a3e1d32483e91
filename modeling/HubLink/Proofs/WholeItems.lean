import HubLink.Value.Decode
import HubLink.Value.Encode
import HubLink.Proofs.MsgPack
/-!
# Whole items

The bytes of one MessagePack item are its marker, the length or value bytes the marker
announces, and its body: the bytes of a string or binary, the items of an array, the keys and
values of a map (`MsgPack.Item`; extension items are left out, as no value is written as one).
A length may be written in any of the forms that hold it, not only in the shortest.

The value decoder reads such an item whole, whatever type it reads it as and whatever nesting
budget it has left: what it finds does not depend on the bytes after the item, and when it
succeeds it stops right after the item (`Decode.Item.value_readsWhole`). Skipping an item and
reading it as a record's field key take it whole too. Every value is written as an item once
its lengths fit in 32 bits (`Value.encode_item`).
-/
namespace HubLink

/-! Computing with `Except`: a bind on an outcome, and a map pushed through a bind. -/

@[simp]
theorem except_ok_bind {ε α β : Type} (a : α) (f : α → Except ε β) :
    (Except.ok a >>= f) = f a := rfl

@[simp]
theorem except_error_bind {ε α β : Type} (e : ε) (f : α → Except ε β) :
    (Except.error e >>= f) = .error e := rfl

@[simp]
theorem except_map_ok {ε α β : Type} (f : α → β) (a : α) :
    (Except.ok a : Except ε α).map f = .ok (f a) := rfl

@[simp]
theorem except_map_error {ε α β : Type} (f : α → β) (e : ε) :
    (Except.error e : Except ε α).map f = .error e := rfl

@[simp]
theorem except_map_bind {ε α β γ : Type} (x : Except ε α) (g : α → β) (f : β → Except ε γ) :
    (x.map g >>= f) = x >>= fun a => f (g a) := by
  cases x <;> rfl

@[simp]
theorem except_bind_map {ε α β γ : Type} (x : Except ε α) (f : α → Except ε β) (g : β → γ) :
    (x >>= f).map g = x >>= fun a => (f a).map g := by
  cases x <;> rfl

/-- `read` takes the bytes `i` whole: reading `i` and then any bytes `y` finds what reading `i`
alone finds, and leaves exactly `y`. -/
def ReadsWhole {ε α : Type} (read : List UInt8 → Except ε (α × List UInt8)) (i : List UInt8) :
    Prop :=
  ∀ y, read (i ++ y) = (read i).map fun p => (p.1, y)

/-- `skip` passes over the bytes `i` whole: skipping `i` and then any bytes `y` fails as
skipping `i` alone fails, and otherwise leaves exactly `y`. -/
def SkipsWhole {ε : Type} (skip : List UInt8 → Except ε (List UInt8)) (i : List UInt8) : Prop :=
  ∀ y, skip (i ++ y) = (skip i).map fun _ => y

namespace MsgPack

/-- A string header for `n` bytes: a fixstr marker, or str8, str16 or str32 followed by `n` in
one, two or four big-endian bytes. -/
inductive StrHeader : Nat → List UInt8 → Prop
  | fix {n : Nat} : n < 32 → StrHeader n [(0xA0 + n).toUInt8]
  | str8 {n : Nat} : n < 0x100 → StrHeader n (0xD9 :: toBigEndian 1 n)
  | str16 {n : Nat} : n < 0x10000 → StrHeader n (0xDA :: toBigEndian 2 n)
  | str32 {n : Nat} : n < 0x100000000 → StrHeader n (0xDB :: toBigEndian 4 n)

/-- A binary header for `n` bytes: bin8, bin16 or bin32 followed by `n` in one, two or four
big-endian bytes. -/
inductive BinHeader : Nat → List UInt8 → Prop
  | bin8 {n : Nat} : n < 0x100 → BinHeader n (0xC4 :: toBigEndian 1 n)
  | bin16 {n : Nat} : n < 0x10000 → BinHeader n (0xC5 :: toBigEndian 2 n)
  | bin32 {n : Nat} : n < 0x100000000 → BinHeader n (0xC6 :: toBigEndian 4 n)

/-- An array header for `n` items: a fixarray marker, or array16 or array32 followed by `n` in
two or four big-endian bytes. -/
inductive ArrayHeader : Nat → List UInt8 → Prop
  | fix {n : Nat} : n < 16 → ArrayHeader n [(0x90 + n).toUInt8]
  | array16 {n : Nat} : n < 0x10000 → ArrayHeader n (0xDC :: toBigEndian 2 n)
  | array32 {n : Nat} : n < 0x100000000 → ArrayHeader n (0xDD :: toBigEndian 4 n)

/-- A map header for `n` entries: a fixmap marker, or map16 or map32 followed by `n` in two or
four big-endian bytes. -/
inductive MapHeader : Nat → List UInt8 → Prop
  | fix {n : Nat} : n < 16 → MapHeader n [(0x80 + n).toUInt8]
  | map16 {n : Nat} : n < 0x10000 → MapHeader n (0xDE :: toBigEndian 2 n)
  | map32 {n : Nat} : n < 0x100000000 → MapHeader n (0xDF :: toBigEndian 4 n)

/-- The number of value bytes after the marker of nil, a boolean, an integer or a float;
`none` for the markers of other items. -/
def Marker.scalarWidth : Marker → Option Nat
  | .nil | .bool _ | .fixPos _ | .fixNeg _ => some 0
  | .uint8 | .int8 => some 1
  | .uint16 | .int16 => some 2
  | .uint32 | .int32 | .float32 => some 4
  | .uint64 | .int64 | .float64 => some 8
  | _ => none

/-- The bytes of one whole MessagePack item, extension items apart. -/
inductive Item : List UInt8 → Prop
  | scalar {b : UInt8} {data : List UInt8} :
      (Marker.ofByte b).scalarWidth = some data.length → Item (b :: data)
  | str {hdr body : List UInt8} : StrHeader body.length hdr → Item (hdr ++ body)
  | bin {hdr body : List UInt8} : BinHeader body.length hdr → Item (hdr ++ body)
  | array {hdr : List UInt8} {items : List (List UInt8)} :
      ArrayHeader items.length hdr → (∀ i ∈ items, Item i) → Item (hdr ++ items.flatten)
  | map {hdr : List UInt8} {entries : List (List UInt8 × List UInt8)} :
      MapHeader entries.length hdr → (∀ e ∈ entries, Item e.1) → (∀ e ∈ entries, Item e.2) →
      Item (hdr ++ entries.flatMap fun e => e.1 ++ e.2)

end MsgPack

namespace Decode

open MsgPack

variable {d : Nat} {m : Marker}

theorem readNumber_toBigEndian (w n : Nat) (z : List UInt8) :
    readNumber w (toBigEndian w n ++ z) = .ok (n % 256 ^ w, z) := by
  simp [readNumber, readBigEndian_toBigEndian]

theorem readBody_append {n : Nat} {body : List UInt8} (h : body.length = n) (z : List UInt8) :
    readBody n (body ++ z) = .ok (body, z) := by
  simp [readBody, takeBytes_append_of_length z h]

theorem readBody_self {n : Nat} {body : List UInt8} (h : body.length = n) :
    readBody n body = .ok (body, []) := by
  simpa using readBody_append h []

/-- A decoder handed the marker it would have read reads as if it had read it. -/
theorem value_none_cons (d : Nat) (t : ValueType) (b : UInt8) (z : List UInt8) :
    value d t none (b :: z) = value d t (some (Marker.ofByte b)) z := by
  cases t <;> simp only [value, takeMarker]

theorem value_readsWhole_cons {t : ValueType} {b : UInt8} {tl : List UInt8}
    (h : ReadsWhole (value d t (some (Marker.ofByte b))) tl) :
    ReadsWhole (value d t none) (b :: tl) := by
  intro y
  rw [List.cons_append, value_none_cons, value_none_cons, h y]

theorem readNumber_append {w : Nat} {data : List UInt8} (h : data.length = w) (z : List UInt8) :
    readNumber w (data ++ z) = .ok (ofBigEndian data, z) := by
  simp [readNumber, readBigEndian, takeBytes_append_of_length z h]

theorem readScalar_of_width {data : List UInt8} (h : m.scalarWidth = some data.length) :
    ∃ s, ∀ z, readScalar m (data ++ z) = some (.ok (s, z)) := by
  cases m <;> simp only [Marker.scalarWidth, reduceCtorEq, Option.some.injEq] at h
  case nil | bool | fixPos | fixNeg =>
    obtain rfl := List.eq_nil_of_length_eq_zero h.symm
    exact ⟨_, fun z => rfl⟩
  all_goals exact ⟨_, fun z => by
    simp only [readScalar, readNumber_append h.symm, bind, Except.bind]; rfl⟩

theorem readScalar_of_width_none (h : m.scalarWidth = none) (z : List UInt8) :
    readScalar m z = none := by
  cases m <;> simp_all [Marker.scalarWidth, readScalar]

end Decode

namespace MsgPack

open Decode

/-! What each header tells the decoder: the family its marker belongs to, and the length it
announces in the bytes after the marker. -/

theorem StrHeader.dispatch {n : Nat} {hdr : List UInt8} (h : StrHeader n hdr) :
    ∃ b len, hdr = b :: len ∧ (Marker.ofByte b).scalarWidth = none ∧
      ∀ z, strLength? (Marker.ofByte b) (len ++ z) = some (.ok (n, z)) := by
  cases h with
  | fix hn => exact ⟨_, [], rfl, by rw [ofByte_fixStr n hn]; rfl,
      fun z => by rw [ofByte_fixStr n hn]; rfl⟩
  | str8 hn => exact ⟨0xD9, _, rfl, rfl,
      fun z => by simp [show Marker.ofByte 0xD9 = .str8 from rfl, strLength?,
        readNumber_toBigEndian, Nat.mod_eq_of_lt hn]⟩
  | str16 hn => exact ⟨0xDA, _, rfl, rfl,
      fun z => by simp [show Marker.ofByte 0xDA = .str16 from rfl, strLength?,
        readNumber_toBigEndian, Nat.mod_eq_of_lt hn]⟩
  | str32 hn => exact ⟨0xDB, _, rfl, rfl,
      fun z => by simp [show Marker.ofByte 0xDB = .str32 from rfl, strLength?,
        readNumber_toBigEndian, Nat.mod_eq_of_lt hn]⟩

theorem BinHeader.dispatch {n : Nat} {hdr : List UInt8} (h : BinHeader n hdr) :
    ∃ b len, hdr = b :: len ∧ (Marker.ofByte b).scalarWidth = none ∧
      (∀ z, strLength? (Marker.ofByte b) z = none) ∧
      ∀ z, binLength? (Marker.ofByte b) (len ++ z) = some (.ok (n, z)) := by
  cases h with
  | bin8 hn => exact ⟨0xC4, _, rfl, rfl, fun _ => rfl,
      fun z => by simp [show Marker.ofByte 0xC4 = .bin8 from rfl, binLength?,
        readNumber_toBigEndian, Nat.mod_eq_of_lt hn]⟩
  | bin16 hn => exact ⟨0xC5, _, rfl, rfl, fun _ => rfl,
      fun z => by simp [show Marker.ofByte 0xC5 = .bin16 from rfl, binLength?,
        readNumber_toBigEndian, Nat.mod_eq_of_lt hn]⟩
  | bin32 hn => exact ⟨0xC6, _, rfl, rfl, fun _ => rfl,
      fun z => by simp [show Marker.ofByte 0xC6 = .bin32 from rfl, binLength?,
        readNumber_toBigEndian, Nat.mod_eq_of_lt hn]⟩

theorem ArrayHeader.dispatch {n : Nat} {hdr : List UInt8} (h : ArrayHeader n hdr) :
    ∃ b len, hdr = b :: len ∧ (Marker.ofByte b).scalarWidth = none ∧
      (∀ z, strLength? (Marker.ofByte b) z = none) ∧ (∀ z, binLength? (Marker.ofByte b) z = none) ∧
      ∀ z, arrayLength? (Marker.ofByte b) (len ++ z) = some (.ok (n, z)) := by
  cases h with
  | fix hn => exact ⟨_, [], rfl, by rw [ofByte_fixArray n hn]; rfl,
      fun _ => by rw [ofByte_fixArray n hn]; rfl, fun _ => by rw [ofByte_fixArray n hn]; rfl,
      fun z => by rw [ofByte_fixArray n hn]; rfl⟩
  | array16 hn => exact ⟨0xDC, _, rfl, rfl, fun _ => rfl, fun _ => rfl,
      fun z => by simp [show Marker.ofByte 0xDC = .array16 from rfl, arrayLength?,
        readNumber_toBigEndian, Nat.mod_eq_of_lt hn]⟩
  | array32 hn => exact ⟨0xDD, _, rfl, rfl, fun _ => rfl, fun _ => rfl,
      fun z => by simp [show Marker.ofByte 0xDD = .array32 from rfl, arrayLength?,
        readNumber_toBigEndian, Nat.mod_eq_of_lt hn]⟩

theorem MapHeader.dispatch {n : Nat} {hdr : List UInt8} (h : MapHeader n hdr) :
    ∃ b len, hdr = b :: len ∧ (Marker.ofByte b).scalarWidth = none ∧
      (∀ z, strLength? (Marker.ofByte b) z = none) ∧ (∀ z, binLength? (Marker.ofByte b) z = none) ∧
      (∀ z, arrayLength? (Marker.ofByte b) z = none) ∧
      ∀ z, mapLength? (Marker.ofByte b) (len ++ z) = some (.ok (n, z)) := by
  cases h with
  | fix hn => exact ⟨_, [], rfl, by rw [ofByte_fixMap n hn]; rfl,
      fun _ => by rw [ofByte_fixMap n hn]; rfl, fun _ => by rw [ofByte_fixMap n hn]; rfl,
      fun _ => by rw [ofByte_fixMap n hn]; rfl, fun z => by rw [ofByte_fixMap n hn]; rfl⟩
  | map16 hn => exact ⟨0xDE, _, rfl, rfl, fun _ => rfl, fun _ => rfl, fun _ => rfl,
      fun z => by simp [show Marker.ofByte 0xDE = .map16 from rfl, mapLength?,
        readNumber_toBigEndian, Nat.mod_eq_of_lt hn]⟩
  | map32 hn => exact ⟨0xDF, _, rfl, rfl, fun _ => rfl, fun _ => rfl, fun _ => rfl,
      fun z => by simp [show Marker.ofByte 0xDF = .map32 from rfl, mapLength?,
        readNumber_toBigEndian, Nat.mod_eq_of_lt hn]⟩

end MsgPack

namespace Decode

open MsgPack

variable {d : Nat} {m : Marker}

/-! Reading an item as each type. The nil marker aside, an item read as an optional value is
read as the inner type, so each family of items is handled for the other types. -/

theorem value_option_readsWhole {u : ValueType} {tl : List UInt8} (hnil : m ≠ .nil)
    (h : ReadsWhole (value d u (some m)) tl) : ReadsWhole (value d (.option u) (some m)) tl := by
  intro y
  simp only [value, takeMarker, hnil, if_false, h y, except_ok_bind, except_bind_map,
    except_map_bind, except_map_ok]

theorem value_readsWhole_of_base {tl : List UInt8} (hnil : m ≠ .nil)
    (base : ∀ t, (∀ u, t ≠ .option u) → ReadsWhole (value d t (some m)) tl) (t : ValueType) :
    ReadsWhole (value d t (some m)) tl := by
  induction t with
  | option u ih => exact value_option_readsWhole hnil ih
  | _ => exact base _ (by simp)

/-- A scalar item read as any type but an optional one: the scalar, judged by the type. -/
theorem value_scalar_readsWhole {data : List UInt8} {s : Scalar}
    (hs : ∀ z, readScalar m (data ++ z) = some (.ok (s, z))) {t : ValueType}
    (ht : ∀ u, t ≠ .option u) : ReadsWhole (value d t (some m)) data := by
  have h0 := hs []
  rw [List.append_nil] at h0
  intro y
  cases t
  case option u => exact absurd rfl (ht u)
  all_goals simp only [value, takeMarker, hs y, h0, except_ok_bind, except_bind_map,
    except_map_ok]

/-- A string item: refused by the scalar types, otherwise its bytes judged as text. -/
theorem value_str_readsWhole {len body : List UInt8} (hsc : m.scalarWidth = none)
    (hs : ∀ z, strLength? m (len ++ z) = some (.ok (body.length, z))) {t : ValueType}
    (ht : ∀ u, t ≠ .option u) : ReadsWhole (value d t (some m)) (len ++ body) := by
  intro y
  cases t
  case option u => exact absurd rfl (ht u)
  all_goals simp only [value, takeMarker, readScalar_of_width_none hsc, List.append_assoc, hs,
    readBody_append rfl, readBody_self rfl, except_ok_bind, except_map_error]
  all_goals
    rcases Utf8.decode body with e | s <;> simp only [except_bind_map, except_map_ok]
  all_goals
    split <;> simp only [except_map_ok, except_map_error]

theorem value_bin_readsWhole {len body : List UInt8} (hsc : m.scalarWidth = none)
    (hstr : ∀ z, strLength? m z = none)
    (hb : ∀ z, binLength? m (len ++ z) = some (.ok (body.length, z))) {t : ValueType}
    (ht : ∀ u, t ≠ .option u) : ReadsWhole (value d t (some m)) (len ++ body) := by
  intro y
  cases t
  case option u => exact absurd rfl (ht u)
  all_goals simp only [value, takeMarker, readScalar_of_width_none hsc, hstr, List.append_assoc,
    hb, readBody_append rfl, readBody_self rfl, except_ok_bind, except_bind_map, except_map_ok,
    except_map_error]

/-! Runs of items. -/

theorem items_readsWhole {t : ValueType} {l : List (List UInt8)}
    (hl : ∀ i ∈ l, ReadsWhole (value d t none) i) : ReadsWhole (items d t l.length) l.flatten := by
  induction l with
  | nil => intro y; simp only [List.length_nil, List.flatten_nil, List.nil_append, items,
      except_map_ok]
  | cons i l ih =>
    intro y
    have hi := hl i (by simp)
    have hrest := ih fun j hj => hl j (by simp [hj])
    simp only [List.length_cons, List.flatten_cons, List.append_assoc, items, hi _, hrest _,
      except_map_bind, except_bind_map, except_map_ok]

theorem skipMany_skipsWhole {l : List (List UInt8)} (hl : ∀ i ∈ l, SkipsWhole (skip d) i) :
    SkipsWhole (skipMany d l.length) l.flatten := by
  induction l with
  | nil => intro y; simp only [List.length_nil, List.flatten_nil, List.nil_append, skipMany,
      except_map_ok]
  | cons i l ih =>
    intro y
    have hi := hl i (by simp)
    have hrest := ih fun j hj => hl j (by simp [hj])
    simp only [List.length_cons, List.flatten_cons, List.append_assoc, skipMany, hi _, hrest _,
      except_map_bind, except_bind_map]

theorem entries_readsWhole {t : ValueType} {es : List (List UInt8 × List UInt8)}
    (hk : ∀ e ∈ es, ReadsWhole (value d .string none) e.1)
    (hv : ∀ e ∈ es, ReadsWhole (value d t none) e.2) (acc : List (String × Value)) :
    ReadsWhole (entries d t es.length acc) (es.flatMap fun e => e.1 ++ e.2) := by
  induction es generalizing acc with
  | nil => intro y; simp only [List.length_nil, List.flatMap_nil, List.nil_append, entries,
      except_map_ok]
  | cons e es ih =>
    intro y
    have hke := hk e (by simp)
    have hve := hv e (by simp)
    have hrest := fun acc =>
      ih (fun e' he' => hk e' (by simp [he'])) (fun e' he' => hv e' (by simp [he'])) acc y
    simp only [List.length_cons, List.flatMap_cons, List.append_assoc, entries, hke _, hve _,
      hrest, except_map_bind, except_bind_map]

/-- The fields of a record read in order from an array of items: the first items, one per
field, are read whole, and the items after them are left. -/
theorem fieldsInOrder_reads {r : Record} {l : List (List UInt8)}
    (hl : ∀ i ∈ l, ∀ t, ReadsWhole (value d t none) i) (fs : List (String × ValueType))
    (k : Nat) (y : List UInt8) :
    fieldsInOrder d r fs k (k + l.length) (l.flatten ++ y) =
      (fieldsInOrder d r fs k (k + l.length) l.flatten).map
        fun p => (p.1, (l.drop fs.length).flatten ++ y) := by
  induction fs generalizing k l with
  | nil => simp only [fieldsInOrder, except_map_ok, List.length_nil, List.drop_zero]
  | cons f fs ih =>
    obtain ⟨name, ft⟩ := f
    cases l with
    | nil => simp [fieldsInOrder]
    | cons i l =>
      have hi := hl i (by simp)
      have hrest := @ih l (fun j hj => hl j (by simp [hj])) (k + 1)
      have hk : k < k + 1 + l.length := by omega
      have hn : k + (l.length + 1) = k + 1 + l.length := by omega
      simp only [fieldsInOrder, List.length_cons, hk, if_true, List.flatten_cons,
        List.append_assoc, hi _ _, hn, hrest, except_map_bind, except_bind_map, except_map_ok,
        List.drop_succ_cons]

theorem fieldKey_index {r : Record} {p : Option Marker} {input rest : List UInt8} {i : Nat}
    (h : fieldKey d r p input = .ok (some i, rest)) : i < r.fields.length := by
  have hbytes : ∀ b, (r.fields.map Prod.fst).findIdx? (fun n => Utf8.encode n == b) = some i →
      i < r.fields.length := fun b hb => by
    simpa using (List.findIdx?_eq_some_iff_findIdx_eq.mp hb).1
  simp only [fieldKey, bind, Except.bind] at h
  repeat' split at h
  all_goals simp only [reduceCtorEq, Except.ok.injEq, Prod.mk.injEq, Option.some.injEq,
    false_and] at h
  case h_1.isTrue hlt =>
    obtain ⟨rfl, -⟩ := h
    simpa using hlt
  all_goals exact hbytes _ h.1

/-- Map entries read into a record's fields: each key is read whole as a field key, and its
value whole as the field's type, or skipped whole when the key names no field. -/
theorem fieldsByKey_readsWhole {r : Record} {es : List (List UInt8 × List UInt8)}
    (hk : ∀ e ∈ es, ReadsWhole (fieldKey d r none) e.1)
    (hv : ∀ e ∈ es, (∀ t, ReadsWhole (value d t none) e.2) ∧ SkipsWhole (skip d) e.2)
    (slots : List (Option Value)) :
    ReadsWhole (fieldsByKey d r es.length slots) (es.flatMap fun e => e.1 ++ e.2) := by
  induction es generalizing slots with
  | nil => intro y; simp only [List.length_nil, List.flatMap_nil, List.nil_append, fieldsByKey,
      except_map_ok]
  | cons e es ih =>
    intro y
    have hke := hk e (by simp)
    obtain ⟨hve, hse⟩ := hv e (by simp)
    have hrest := fun slots =>
      ih (fun e' he' => hk e' (by simp [he'])) (fun e' he' => hv e' (by simp [he'])) slots y
    simp only [List.length_cons, List.flatMap_cons, List.append_assoc, fieldsByKey, hke _,
      except_map_bind, except_bind_map]
    rcases hkey : fieldKey d r none e.1 with err | ⟨key, rest⟩
    · rfl
    cases key with
    | none => simp only [except_ok_bind, hse _, except_map_bind, except_bind_map, hrest]
    | some i =>
      obtain ⟨⟨name, ft⟩, hf⟩ : ∃ f, r.fields[i]? = some f :=
        ⟨_, List.getElem?_eq_getElem (fieldKey_index hkey)⟩
      simp only [except_ok_bind, hf]
      split
      · rfl
      · simp only [hve _ _, except_map_bind, except_bind_map, hrest]

/-- An array item: refused by the scalar types, text and maps; read item by item as a list or
a byte buffer, and in order as a record's fields, which must be exactly as many. -/
theorem value_array_readsWhole {len : List UInt8} {l : List (List UInt8)}
    (hsc : m.scalarWidth = none) (hstr : ∀ z, strLength? m z = none)
    (hbin : ∀ z, binLength? m z = none)
    (ha : ∀ z, arrayLength? m (len ++ z) = some (.ok (l.length, z)))
    (hl : ∀ i ∈ l, ∀ d t, ReadsWhole (value d t none) i) {t : ValueType}
    (ht : ∀ u, t ≠ .option u) : ReadsWhole (value d t (some m)) (len ++ l.flatten) := by
  intro y
  by_cases hd : d ≤ 1
  · cases t
    case option u => exact absurd rfl (ht u)
    all_goals simp only [value, takeMarker, readScalar_of_width_none hsc, hstr, hbin,
      List.append_assoc, ha, except_ok_bind, hd, if_true, except_map_error]
  cases t
  case option u => exact absurd rfl (ht u)
  case list u =>
    simp only [value, takeMarker, readScalar_of_width_none hsc, hstr, hbin, List.append_assoc, ha,
      except_ok_bind, hd, if_false, items_readsWhole (fun i hi => hl i hi (d - 1) u) y,
      except_map_bind, except_bind_map, except_map_ok]
  case bytes =>
    simp only [value, takeMarker, readScalar_of_width_none hsc, hstr, hbin, List.append_assoc, ha,
      except_ok_bind, hd, if_false, items_readsWhole (fun i hi => hl i hi (d - 1) .u8) y,
      except_map_bind, except_bind_map, except_map_ok]
  case record r =>
    have hfields := @fieldsInOrder_reads (d - 1) r l (fun i hi => hl i hi (d - 1)) r.fields 0 y
    rw [Nat.zero_add] at hfields
    simp only [value, takeMarker, readScalar_of_width_none hsc, hstr, hbin, List.append_assoc, ha,
      except_ok_bind, hd, if_false, hfields, except_map_bind, except_bind_map]
    by_cases hn : l.length > r.fields.length
    · simp only [hn, if_true, except_map_error]
    · have hdrop : l.drop r.fields.length = [] := List.drop_eq_nil_of_le (by omega)
      simp only [hn, if_false, hdrop, List.flatten_nil, List.nil_append, except_map_ok]
  all_goals simp only [value, takeMarker, readScalar_of_width_none hsc, hstr, hbin,
    List.append_assoc, ha, except_ok_bind, hd, if_false, except_map_error]

/-- A map item: refused by the scalar types, text, byte buffers and lists; read entry by entry
as a map, and by key into a record's fields. -/
theorem value_map_readsWhole {len : List UInt8} {es : List (List UInt8 × List UInt8)}
    (hsc : m.scalarWidth = none) (hstr : ∀ z, strLength? m z = none)
    (hbin : ∀ z, binLength? m z = none) (harr : ∀ z, arrayLength? m z = none)
    (hmap : ∀ z, mapLength? m (len ++ z) = some (.ok (es.length, z)))
    (hk : ∀ e ∈ es, (∀ d t, ReadsWhole (value d t none) e.1) ∧
      ∀ d r, ReadsWhole (fieldKey d r none) e.1)
    (hv : ∀ e ∈ es, (∀ d t, ReadsWhole (value d t none) e.2) ∧ ∀ d, SkipsWhole (skip d) e.2)
    {t : ValueType} (ht : ∀ u, t ≠ .option u) :
    ReadsWhole (value d t (some m)) (len ++ es.flatMap fun e => e.1 ++ e.2) := by
  intro y
  by_cases hd : d ≤ 1
  · cases t
    case option u => exact absurd rfl (ht u)
    all_goals simp only [value, takeMarker, readScalar_of_width_none hsc, hstr, hbin, harr,
      List.append_assoc, hmap, except_ok_bind, hd, if_true, except_map_error]
  cases t
  case option u => exact absurd rfl (ht u)
  case map u =>
    have hentries := entries_readsWhole (fun e he => (hk e he).1 (d - 1) .string)
      (fun e he => (hv e he).1 (d - 1) u) [] y
    simp only [value, takeMarker, readScalar_of_width_none hsc, hstr, hbin, harr,
      List.append_assoc, hmap, except_ok_bind, hd, if_false, hentries, except_map_bind,
      except_bind_map, except_map_ok]
  case record r =>
    have hfields := fieldsByKey_readsWhole (fun e he => (hk e he).2 (d - 1) r)
      (fun e he => ⟨(hv e he).1 (d - 1), (hv e he).2 (d - 1)⟩) (r.fields.map fun _ => none) y
    simp only [value, takeMarker, readScalar_of_width_none hsc, hstr, hbin, harr,
      List.append_assoc, hmap, except_ok_bind, hd, if_false, hfields, except_map_bind,
      except_bind_map, except_map_ok]
  all_goals simp only [value, takeMarker, readScalar_of_width_none hsc, hstr, hbin, harr,
    List.append_assoc, hmap, except_ok_bind, hd, if_false, except_map_error]

/-! Skipping an item and reading it as a field key, family by family. -/

theorem skip_scalar_skipsWhole {b : UInt8} {data : List UInt8} {s : Scalar}
    (hs : ∀ z, readScalar (Marker.ofByte b) (data ++ z) = some (.ok (s, z))) :
    SkipsWhole (skip d) (b :: data) := by
  have h0 := hs []
  rw [List.append_nil] at h0
  intro y
  simp only [List.cons_append, skip, takeMarker, hs, h0, except_ok_bind, except_map_ok]

theorem skip_str_skipsWhole {b : UInt8} {len body : List UInt8}
    (hsc : (Marker.ofByte b).scalarWidth = none)
    (hs : ∀ z, strLength? (Marker.ofByte b) (len ++ z) = some (.ok (body.length, z))) :
    SkipsWhole (skip d) (b :: len ++ body) := by
  intro y
  simp only [List.cons_append, List.append_assoc, skip, takeMarker, readScalar_of_width_none hsc,
    hs, readBody_append rfl, readBody_self rfl, except_ok_bind, except_map_ok]

theorem skip_bin_skipsWhole {b : UInt8} {len body : List UInt8}
    (hsc : (Marker.ofByte b).scalarWidth = none) (hstr : ∀ z, strLength? (Marker.ofByte b) z = none)
    (hb : ∀ z, binLength? (Marker.ofByte b) (len ++ z) = some (.ok (body.length, z))) :
    SkipsWhole (skip d) (b :: len ++ body) := by
  intro y
  simp only [List.cons_append, List.append_assoc, skip, takeMarker, readScalar_of_width_none hsc,
    hstr, hb, readBody_append rfl, readBody_self rfl, except_ok_bind, except_map_ok]

theorem skip_array_skipsWhole {b : UInt8} {len : List UInt8} {l : List (List UInt8)}
    (hsc : (Marker.ofByte b).scalarWidth = none) (hstr : ∀ z, strLength? (Marker.ofByte b) z = none)
    (hbin : ∀ z, binLength? (Marker.ofByte b) z = none)
    (ha : ∀ z, arrayLength? (Marker.ofByte b) (len ++ z) = some (.ok (l.length, z)))
    (hl : ∀ i ∈ l, ∀ d, SkipsWhole (skip d) i) : SkipsWhole (skip d) (b :: len ++ l.flatten) := by
  intro y
  by_cases hd : d ≤ 1
  · simp only [List.cons_append, List.append_assoc, skip, takeMarker,
      readScalar_of_width_none hsc, hstr, hbin, ha, except_ok_bind, hd, if_true,
      except_map_error]
  · simp only [List.cons_append, List.append_assoc, skip, takeMarker,
      readScalar_of_width_none hsc, hstr, hbin, ha, except_ok_bind, hd, if_false,
      skipMany_skipsWhole (fun i hi => hl i hi (d - 1)) y]

theorem flatten_entries (es : List (List UInt8 × List UInt8)) :
    (es.flatMap fun e => [e.1, e.2]).flatten = es.flatMap fun e => e.1 ++ e.2 := by
  induction es with
  | nil => rfl
  | cons e es ih => simp [ih]

theorem length_entries (es : List (List UInt8 × List UInt8)) :
    (es.flatMap fun e => [e.1, e.2]).length = 2 * es.length := by
  induction es with
  | nil => rfl
  | cons e es ih => simp [ih]; omega

theorem skip_map_skipsWhole {b : UInt8} {len : List UInt8} {es : List (List UInt8 × List UInt8)}
    (hsc : (Marker.ofByte b).scalarWidth = none) (hstr : ∀ z, strLength? (Marker.ofByte b) z = none)
    (hbin : ∀ z, binLength? (Marker.ofByte b) z = none)
    (harr : ∀ z, arrayLength? (Marker.ofByte b) z = none)
    (hmap : ∀ z, mapLength? (Marker.ofByte b) (len ++ z) = some (.ok (es.length, z)))
    (hk : ∀ e ∈ es, ∀ d, SkipsWhole (skip d) e.1) (hv : ∀ e ∈ es, ∀ d, SkipsWhole (skip d) e.2) :
    SkipsWhole (skip d) (b :: len ++ es.flatMap fun e => e.1 ++ e.2) := by
  have hitems : ∀ i ∈ es.flatMap (fun e => [e.1, e.2]), ∀ d, SkipsWhole (skip d) i := by
    intro i hi
    obtain ⟨e, he, hie⟩ := List.mem_flatMap.mp hi
    simp only [List.mem_cons, List.not_mem_nil, or_false] at hie
    rcases hie with rfl | rfl
    · exact hk e he
    · exact hv e he
  intro y
  by_cases hd : d ≤ 1
  · simp only [List.cons_append, List.append_assoc, skip, takeMarker,
      readScalar_of_width_none hsc, hstr, hbin, harr, hmap, except_ok_bind, hd, if_true,
      except_map_error]
  · have hskip := skipMany_skipsWhole (fun i hi => hitems i hi (d - 1)) y
    rw [length_entries, flatten_entries] at hskip
    simp only [List.cons_append, List.append_assoc, skip, takeMarker,
      readScalar_of_width_none hsc, hstr, hbin, harr, hmap, except_ok_bind, hd, if_false, hskip]

/-- A scalar item read as any type: nil read as an optional value is none, and every other
reading judges the scalar by the type, or by the inner type of an optional one. -/
theorem value_scalar_item {data : List UInt8} {s : Scalar}
    (hs : ∀ z, readScalar m (data ++ z) = some (.ok (s, z))) (t : ValueType) :
    ReadsWhole (value d t (some m)) data := by
  by_cases hnil : m = .nil
  · subst hnil
    have hdata : data = [] := by
      have h0 := hs []
      simp only [readScalar, List.append_nil, Option.some.injEq, Except.ok.injEq,
        Prod.mk.injEq] at h0
      exact h0.2
    subst hdata
    cases t
    case option u =>
      intro y
      simp only [value, takeMarker, if_true, except_ok_bind, except_map_ok, List.nil_append]
    all_goals exact value_scalar_readsWhole hs (by simp)
  · exact value_readsWhole_of_base hnil (fun t ht => value_scalar_readsWhole hs ht) t

end Decode

open Decode

namespace MsgPack

/-- Read as a record's field key, an item is taken whole: a scalar is a position, text or
bytes a name, and an array or a map is refused once its length is read. -/
theorem Item.fieldKey_readsWhole {i : List UInt8} (h : Item i) (d : Nat) (r : Record) :
    ReadsWhole (fieldKey d r none) i := by
  intro y
  cases h with
  | scalar hw =>
    obtain ⟨s, hs⟩ := readScalar_of_width hw
    have h0 := hs []
    rw [List.append_nil] at h0
    simp only [List.cons_append, fieldKey, takeMarker, hs, h0, except_ok_bind]
    cases s <;> rfl
  | str hh =>
    obtain ⟨b, len, rfl, hsc, hs⟩ := hh.dispatch
    simp only [List.cons_append, List.append_assoc, fieldKey, takeMarker,
      readScalar_of_width_none hsc, hs, readBody_append rfl, readBody_self rfl, except_ok_bind,
      except_map_ok]
  | bin hh =>
    obtain ⟨b, len, rfl, hsc, hstr, hb⟩ := hh.dispatch
    simp only [List.cons_append, List.append_assoc, fieldKey, takeMarker,
      readScalar_of_width_none hsc, hstr, hb, readBody_append rfl, readBody_self rfl,
      except_ok_bind, except_map_ok]
  | array hh _ =>
    obtain ⟨b, len, rfl, hsc, hstr, hbin, ha⟩ := hh.dispatch
    simp only [List.cons_append, List.append_assoc, fieldKey, takeMarker,
      readScalar_of_width_none hsc, hstr, hbin, ha, except_ok_bind, except_bind_map,
      except_map_error]
  | map hh _ _ =>
    obtain ⟨b, len, rfl, hsc, hstr, hbin, harr, hmap⟩ := hh.dispatch
    simp only [List.cons_append, List.append_assoc, fieldKey, takeMarker,
      readScalar_of_width_none hsc, hstr, hbin, harr, hmap, except_ok_bind, except_bind_map,
      except_map_error]

/-- The decoder reads an item whole, as every type and with every nesting budget, and skips
it whole. The induction follows the grammar: the items of an array and the keys and values of a
map are read whole by the induction hypothesis, and so their runs are. -/
theorem Item.readsWhole {i : List UInt8} (h : Item i) :
    (∀ d t, ReadsWhole (value d t none) i) ∧ ∀ d, SkipsWhole (skip d) i := by
  induction h with
  | scalar hw =>
    obtain ⟨s, hs⟩ := readScalar_of_width hw
    exact ⟨fun d t => value_readsWhole_cons (value_scalar_item hs t),
      fun d => skip_scalar_skipsWhole hs⟩
  | str hh =>
    obtain ⟨b, len, rfl, hsc, hs⟩ := hh.dispatch
    have hnil : Marker.ofByte b ≠ .nil := fun h => by simp [h, Marker.scalarWidth] at hsc
    exact ⟨fun d t => value_readsWhole_cons (value_readsWhole_of_base hnil
      (fun t ht => value_str_readsWhole hsc hs ht) t), fun d => skip_str_skipsWhole hsc hs⟩
  | bin hh =>
    obtain ⟨b, len, rfl, hsc, hstr, hb⟩ := hh.dispatch
    have hnil : Marker.ofByte b ≠ .nil := fun h => by simp [h, Marker.scalarWidth] at hsc
    exact ⟨fun d t => value_readsWhole_cons (value_readsWhole_of_base hnil
      (fun t ht => value_bin_readsWhole hsc hstr hb ht) t),
      fun d => skip_bin_skipsWhole hsc hstr hb⟩
  | array hh _ ih =>
    obtain ⟨b, len, rfl, hsc, hstr, hbin, ha⟩ := hh.dispatch
    have hnil : Marker.ofByte b ≠ .nil := fun h => by simp [h, Marker.scalarWidth] at hsc
    exact ⟨fun d t => value_readsWhole_cons (value_readsWhole_of_base hnil
      (fun t ht => value_array_readsWhole hsc hstr hbin ha (fun i hi => (ih i hi).1) ht) t),
      fun d => skip_array_skipsWhole hsc hstr hbin ha fun i hi => (ih i hi).2⟩
  | map hh hkeys _ ihk ihv =>
    obtain ⟨b, len, rfl, hsc, hstr, hbin, harr, hmap⟩ := hh.dispatch
    have hnil : Marker.ofByte b ≠ .nil := fun h => by simp [h, Marker.scalarWidth] at hsc
    exact ⟨fun d t => value_readsWhole_cons (value_readsWhole_of_base hnil
      (fun t ht => value_map_readsWhole hsc hstr hbin harr hmap
        (fun e he => ⟨(ihk e he).1, (hkeys e he).fieldKey_readsWhole⟩) ihv ht) t),
      fun d => skip_map_skipsWhole hsc hstr hbin harr hmap (fun e he => (ihk e he).2)
        fun e he => (ihv e he).2⟩

theorem Item.value_readsWhole {i : List UInt8} (h : Item i) (d : Nat) (t : ValueType) :
    ReadsWhole (value d t none) i :=
  h.readsWhole.1 d t

/-! Written values are whole items. -/

theorem ofByte_fixNeg :
    ∀ k : Nat, k < 32 → Marker.ofByte (224 + k).toUInt8 = .fixNeg ((k : Int) - 32) := by
  decide

theorem writeStrLen_header {n : Nat} (h : n < 2 ^ 32) : StrHeader n (writeStrLen n) := by
  unfold writeStrLen
  split_ifs with h₁ h₂ h₃
  · exact .fix h₁
  · exact .str8 h₂
  · exact .str16 h₃
  · exact .str32 h

theorem writeArrayLen_header {n : Nat} (h : n < 2 ^ 32) : ArrayHeader n (writeArrayLen n) := by
  unfold writeArrayLen
  split_ifs with h₁ h₂
  · exact .fix h₁
  · exact .array16 h₂
  · exact .array32 h

theorem writeMapLen_header {n : Nat} (h : n < 2 ^ 32) : MapHeader n (writeMapLen n) := by
  unfold writeMapLen
  split_ifs with h₁ h₂
  · exact .fix h₁
  · exact .map16 h₂
  · exact .map32 h

theorem writeStr_item {s : String} (h : (writeStr s).length < 2 ^ 32) : Item (writeStr s) :=
  .str (writeStrLen_header (Nat.lt_trans (writeStr_length s) h))

theorem writeBin_item {b : List UInt8} (h : b.length < 2 ^ 32) : Item (writeBin b) := by
  unfold writeBin
  dsimp only
  split_ifs with h₁ h₂
  · exact .bin (.bin8 h₁)
  · exact .bin (.bin16 h₂)
  · exact .bin (.bin32 h)

/-- An unsigned integer is one item in every form, whatever its size: the widest form keeps
its low 64 bits. -/
theorem writeUInt_item (n : Nat) : Item (writeUInt n) := by
  unfold writeUInt
  split_ifs with h₁ h₂ h₃ h₄
  · exact .scalar (by rw [ofByte_fixPos n h₁]; rfl)
  all_goals exact .scalar (by rw [toBigEndian_length]; rfl)

theorem writeInt_item (i : Int) : Item (writeInt i) := by
  unfold writeInt
  split_ifs with h₀ h₁
  · exact writeUInt_item _
  · have hk : (256 + i).toNat = 224 + (i + 32).toNat := by omega
    exact .scalar (by rw [hk, ofByte_fixNeg _ (by omega)]; rfl)
  all_goals exact .scalar (by rw [toBigEndian_length]; rfl)

theorem Item.ne_nil {i : List UInt8} (h : Item i) : i ≠ [] := by
  cases h with
  | scalar => simp
  | str hh => obtain ⟨b, len, rfl, -⟩ := hh.dispatch; simp
  | bin hh => obtain ⟨b, len, rfl, -⟩ := hh.dispatch; simp
  | array hh => obtain ⟨b, len, rfl, -⟩ := hh.dispatch; simp
  | map hh => obtain ⟨b, len, rfl, -⟩ := hh.dispatch; simp

/-- Items are never empty, so there are no more of them than bytes. -/
theorem length_le_length_flatten {l : List (List UInt8)} (h : ∀ i ∈ l, Item i) :
    l.length ≤ l.flatten.length := by
  induction l with
  | nil => simp
  | cons i l ih =>
    have hi : 0 < i.length := List.length_pos_iff.mpr (h i (by simp)).ne_nil
    have hl := ih fun j hj => h j (by simp [hj])
    simp only [List.length_cons, List.flatten_cons, List.length_append]
    omega

/-- Each map entry starts with its key item, so there are no more entries than bytes. -/
theorem length_le_length_entries {es : List (List UInt8 × List UInt8)}
    (h : ∀ e ∈ es, Item e.1) : es.length ≤ (es.flatMap fun e => e.1 ++ e.2).length := by
  induction es with
  | nil => simp
  | cons e es ih =>
    have he : 0 < e.1.length := List.length_pos_iff.mpr (h e (by simp)).ne_nil
    have hl := ih fun e' he' => h e' (by simp [he'])
    simp only [List.length_cons, List.flatMap_cons, List.length_append]
    omega

end MsgPack

/-- A value decoder reads whole items: reading a value of any type from the bytes of one item and
any bytes after them fails as reading the item alone fails, or reads the same value and leaves
exactly the bytes after the item. -/
def ReadsWholeItems (decode : ValueType → List UInt8 → Except DecodeError (Value × List UInt8)) :
    Prop :=
  ∀ t i, MsgPack.Item i → ReadsWhole (decode t) i

theorem Value.decode_readsWholeItems : ReadsWholeItems Value.decode :=
  fun t _ h => h.value_readsWhole Decode.maxDepth t

namespace Value

open MsgPack

theorem encodeAll_eq (vs : List Value) : encodeAll vs = (vs.map encode).flatten := by
  induction vs with
  | nil => rfl
  | cons v vs ih => simp [encodeAll, ih]

theorem encodeEntries_eq (es : List (String × Value)) :
    encodeEntries es =
      (es.map fun e => (writeStr e.1, e.2.encode)).flatMap fun e => e.1 ++ e.2 := by
  induction es with
  | nil => rfl
  | cons e es ih => simp [encodeEntries, ih]

theorem encodeFields_eq : (ks : List String) → (vs : List Value) →
    encodeFields ks vs =
      ((ks.zip vs).map fun e => (writeStr e.1, e.2.encode)).flatMap fun e => e.1 ++ e.2
  | k :: ks, v :: vs => by simp [encodeFields, encodeFields_eq ks vs]
  | [], _ => by simp [encodeFields]
  | _ :: _, [] => by simp [encodeFields]

mutual

/-- A value is written as one whole item, once its bytes are fewer than `2^32`. -/
theorem encode_item : (v : Value) → v.encode.length < 2 ^ 32 → Item v.encode
  | .bool b, _ => by cases b <;> exact .scalar rfl
  | .int n, _ => writeInt_item n
  | .f32 _, _ => .scalar (by rw [toBigEndian_length]; rfl)
  | .f64 _, _ => .scalar (by rw [toBigEndian_length]; rfl)
  | .string _, h => writeStr_item h
  | .bytes b, h =>
    writeBin_item (by simp only [encode, writeBin] at h; split_ifs at h <;> simp at h <;> omega)
  | .none, _ => .scalar rfl
  | .some v, h => encode_item v h
  | .list vs, h => by
    rw [encode, List.length_append] at h
    have hitems := encodeAll_items vs (by omega)
    rw [encodeAll_eq] at h
    have hcount : (vs.map encode).length < 2 ^ 32 :=
      Nat.lt_of_le_of_lt (length_le_length_flatten hitems) (by omega)
    rw [encode, encodeAll_eq]
    rw [List.length_map] at hcount
    exact .array (by rw [List.length_map]; exact writeArrayLen_header hcount) hitems
  | .map es, h => by
    rw [encode, List.length_append] at h
    have hentries := encodeEntries_items es (by omega)
    rw [encodeEntries_eq] at h
    have hle := length_le_length_entries fun e he => (hentries e he).1
    have hcount : es.length < 2 ^ 32 := by rw [List.length_map] at hle; omega
    rw [encode, encodeEntries_eq]
    exact .map (by rw [List.length_map]; exact writeMapLen_header hcount)
      (fun e he => (hentries e he).1) (fun e he => (hentries e he).2)
  | .record r vs, h => by
    simp only [encode, List.length_append] at h
    have hfields := encodeFields_items (r.fields.map Prod.fst) vs (by omega)
    rw [encodeFields_eq] at h
    have hle := length_le_length_entries fun e he => (hfields e he).1
    have hcount : min (r.fields.map Prod.fst).length vs.length < 2 ^ 32 := by
      rw [List.length_map, List.length_zip] at hle; omega
    simp only [encode]
    rw [encodeFields_eq]
    exact .map (by rw [List.length_map, List.length_zip]; exact writeMapLen_header hcount)
      (fun e he => (hfields e he).1) (fun e he => (hfields e he).2)

theorem encodeAll_items : (vs : List Value) → (encodeAll vs).length < 2 ^ 32 →
    ∀ i ∈ vs.map encode, Item i
  | [], _ => by simp
  | v :: vs, h => by
    rw [encodeAll, List.length_append] at h
    intro i hi
    rw [List.map_cons, List.mem_cons] at hi
    rcases hi with rfl | hi
    · exact encode_item v (by omega)
    · exact encodeAll_items vs (by omega) i hi

theorem encodeEntries_items : (es : List (String × Value)) → (encodeEntries es).length < 2 ^ 32 →
    ∀ e ∈ es.map (fun e => (writeStr e.1, e.2.encode)), Item e.1 ∧ Item e.2
  | [], _ => by simp
  | (k, v) :: es, h => by
    rw [encodeEntries, List.length_append, List.length_append] at h
    intro e he
    rw [List.map_cons, List.mem_cons] at he
    rcases he with rfl | he
    · exact ⟨writeStr_item (by dsimp only; omega), encode_item v (by omega)⟩
    · exact encodeEntries_items es (by omega) e he

theorem encodeFields_items : (ks : List String) → (vs : List Value) →
    (encodeFields ks vs).length < 2 ^ 32 →
    ∀ e ∈ (ks.zip vs).map (fun e => (writeStr e.1, e.2.encode)), Item e.1 ∧ Item e.2
  | k :: ks, v :: vs, h => by
    rw [encodeFields, List.length_append, List.length_append] at h
    intro e he
    rw [List.zip_cons_cons, List.map_cons, List.mem_cons] at he
    rcases he with rfl | he
    · exact ⟨writeStr_item (by dsimp only; omega), encode_item v (by omega)⟩
    · exact encodeFields_items ks vs (by omega) e he
  | [], _, _ => by simp
  | _ :: _, [], _ => by simp

end

end Value

end HubLink

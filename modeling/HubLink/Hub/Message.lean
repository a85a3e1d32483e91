import HubLink.Value.Basic
import HubLink.BindingError
import HubLink.Hub.MessageType
/-!
Hub messages. An invocation calls a method (`target`) with arguments, optionally under an
invocation id that asks for a completion and with the ids of streams it consumes; a stream
invocation is the same with results streamed back. Stream items and completions answer an
invocation id; a cancellation withdraws one. Ping keeps the connection alive, close ends it.

A message whose values could not be bound to the expected types is handed on as one of three
binding failures, which carry the binding error instead of the values; they are never written.

Headers are a map from text to text; a value of `Headers` carries its entries in strictly
increasing key order, so no key twice.
-/
namespace HubLink

namespace Headers

/-- Stores an entry among entries in increasing key order, replacing an earlier value of the
key. -/
def insertEntry (key value : String) : List (String × String) → List (String × String)
  | [] => [(key, value)]
  | (k, v) :: rest =>
    if key = k then (key, value) :: rest
    else if key < k then (key, value) :: (k, v) :: rest
    else (k, v) :: insertEntry key value rest

theorem mem_insertEntry {key value : String} {entries : List (String × String)}
    {e : String × String} (h : e ∈ insertEntry key value entries) :
    e ∈ entries ∨ e = (key, value) := by
  induction entries with
  | nil => simp [insertEntry] at h; exact .inr h
  | cons x xs ih =>
    obtain ⟨k, v⟩ := x
    simp only [insertEntry] at h
    by_cases heq : key = k
    · rw [if_pos heq] at h
      rcases List.mem_cons.mp h with h | h
      · exact .inr h
      · exact .inl (List.mem_cons_of_mem _ h)
    by_cases hlt : key < k
    · rw [if_neg heq, if_pos hlt] at h
      rcases List.mem_cons.mp h with h | h
      · exact .inr h
      · exact .inl h
    rw [if_neg heq, if_neg hlt] at h
    rcases List.mem_cons.mp h with h | h
    · exact .inl (h ▸ List.mem_cons_self)
    · rcases ih h with h | h
      · exact .inl (List.mem_cons_of_mem _ h)
      · exact .inr h

/-- Storing an entry keeps the keys strictly increasing. -/
theorem insertEntry_sorted {key value : String} {entries : List (String × String)}
    (hs : entries.Pairwise (·.1 < ·.1)) : (insertEntry key value entries).Pairwise (·.1 < ·.1) := by
  induction entries with
  | nil => simp [insertEntry]
  | cons x xs ih =>
    obtain ⟨k, v⟩ := x
    have hxs : ∀ e ∈ xs, k < e.1 := (List.pairwise_cons.mp hs).1
    have htail : xs.Pairwise (·.1 < ·.1) := (List.pairwise_cons.mp hs).2
    simp only [insertEntry]
    by_cases heq : key = k
    · rw [if_pos heq]
      subst heq
      exact List.pairwise_cons.mpr ⟨hxs, htail⟩
    by_cases hlt : key < k
    · rw [if_neg heq, if_pos hlt]
      refine List.pairwise_cons.mpr ⟨fun e he => ?_, hs⟩
      rcases List.mem_cons.mp he with rfl | he
      · exact hlt
      · exact String.lt_trans hlt (hxs e he)
    rw [if_neg heq, if_neg hlt]
    have hk : k < key := ((Std.lt_trichotomy key k).resolve_left hlt).resolve_left heq
    refine List.pairwise_cons.mpr ⟨fun e he => ?_, ih htail⟩
    rcases mem_insertEntry he with he | rfl
    · exact hxs e he
    · exact hk

end Headers

/-- Message headers: a map from text to text, its entries in strictly increasing key order, so
no key twice. -/
@[ext]
structure Headers where
  entries : List (String × String)
  sorted : entries.Pairwise (·.1 < ·.1)

namespace Headers

instance : DecidableEq Headers := fun a b =>
  decidable_of_iff (a.entries = b.entries) ⟨Headers.ext, congrArg entries⟩

instance : Repr Headers := ⟨fun h n => reprPrec h.entries n⟩

/-- No headers. -/
def empty : Headers := ⟨[], .nil⟩

/-- Stores a header, replacing an earlier value of the key. -/
def insert (key value : String) (h : Headers) : Headers :=
  ⟨insertEntry key value h.entries, insertEntry_sorted h.sorted⟩

/-- The headers of a list of entries, a later entry for a key replacing an earlier one. -/
def ofList (entries : List (String × String)) : Headers :=
  entries.foldl (fun acc (k, v) => acc.insert k v) empty

end Headers

/-- A call of a hub method. -/
structure Invocation where
  invocationId : Option String
  target : String
  arguments : List Argument
  streamIds : Option (List String)
  headers : Option Headers
  deriving Repr

/-- One item of a stream answering an invocation. -/
structure StreamItem where
  invocationId : String
  item : Argument
  headers : Option Headers
  deriving Repr

/-- The end of an invocation: an error, a result, or nothing. `hasResult` tells a present
result apart from none. -/
structure Completion where
  invocationId : String
  error : Option String
  result : Option Argument
  hasResult : Bool
  headers : Option Headers
  deriving Repr

/-- The withdrawal of an invocation. -/
structure CancelInvocation where
  invocationId : String
  headers : Option Headers
  deriving Repr

/-- A hub message. -/
inductive HubMessage where
  | invocation (m : Invocation)
  | streamInvocation (m : Invocation)
  | streamItem (m : StreamItem)
  | completion (m : Completion)
  | cancelInvocation (m : CancelInvocation)
  | ping
  | close (error : Option String)
  | invocationBindingFailure (invocationId : Option String) (target : String)
      (error : BindingError)
  | streamBindingFailure (invocationId : String) (error : BindingError)
  | completionBindingFailure (invocationId : String) (error : BindingError)
      (headers : Option Headers)
  deriving Repr

namespace Invocation

/-- A call of `target` with `arguments`, without id, streams or headers. -/
def new (target : String) (arguments : List Argument) : Invocation :=
  { invocationId := none, target, arguments, streamIds := none, headers := none }

/-- Sets the invocation id. -/
def withInvocationId (m : Invocation) (id : String) : Invocation := { m with invocationId := id }

/-- Sets the stream ids. -/
def withStreamIds (m : Invocation) (ids : List String) : Invocation := { m with streamIds := ids }

/-- Sets the headers. -/
def withHeaders (m : Invocation) (h : Headers) : Invocation := { m with headers := h }

/-- The invocation id, where an empty id counts as none. -/
def canonicalId (m : Invocation) : Option String :=
  m.invocationId.filter (· ≠ "")

end Invocation

namespace Completion

/-- A completion with an error. -/
def withError (id error : String) : Completion :=
  { invocationId := id, error := some error, result := none, hasResult := false, headers := none }

/-- A completion with a result. -/
def withResult (id : String) (result : Argument) : Completion :=
  { invocationId := id, error := none, result := some result, hasResult := true, headers := none }

/-- A completion with neither. -/
def empty (id : String) : Completion :=
  { invocationId := id, error := none, result := none, hasResult := false, headers := none }

/-- What the completion carries: an error wins over a result. -/
def resultKind (m : Completion) : ResultKind :=
  if m.error.isSome then .error else if m.hasResult then .nonVoid else .void

end Completion

namespace HubMessage

/-- The wire type; binding failures have none. -/
def messageType? : HubMessage → Option MessageType
  | .invocation _ => some .invocation
  | .streamInvocation _ => some .streamInvocation
  | .streamItem _ => some .streamItem
  | .completion _ => some .completion
  | .cancelInvocation _ => some .cancelInvocation
  | .ping => some .ping
  | .close _ => some .close
  | _ => none

/-- The message's name. -/
def name : HubMessage → String
  | .invocationBindingFailure .. => "InvocationBindingFailure"
  | .streamBindingFailure .. => "StreamBindingFailure"
  | .completionBindingFailure .. => "CompletionBindingFailure"
  | m => (m.messageType?.map MessageType.name).getD ""

/-- The invocation id the message refers to; an invocation's empty id counts as none. -/
def invocationId? : HubMessage → Option String
  | .invocation m | .streamInvocation m => m.canonicalId
  | .streamItem m => some m.invocationId
  | .completion m => some m.invocationId
  | .cancelInvocation m => some m.invocationId
  | .invocationBindingFailure id _ _ => id
  | .streamBindingFailure id _ => some id
  | .completionBindingFailure id _ _ => some id
  | .ping | .close _ => none

/-- The message's headers. -/
def headers? : HubMessage → Option Headers
  | .invocation m | .streamInvocation m => m.headers
  | .streamItem m => m.headers
  | .completion m => m.headers
  | .cancelInvocation m => m.headers
  | .completionBindingFailure _ _ h => h
  | _ => none

/-- Pointwise equality of argument lists. -/
def argumentsEqual : List Argument → List Argument → Bool
  | [], [] => true
  | a :: as, b :: bs => a.equals b && argumentsEqual as bs
  | _, _ => false

/-- Equality of optional arguments. -/
def optionalArgumentsEqual : Option Argument → Option Argument → Bool
  | none, none => true
  | some a, some b => a.equals b
  | _, _ => false

/-- Equality of invocations, arguments compared numerically. -/
def invocationsEqual (a b : Invocation) : Bool :=
  a.invocationId == b.invocationId && a.target == b.target &&
    argumentsEqual a.arguments b.arguments && a.streamIds == b.streamIds &&
    a.headers == b.headers

/-- Equality of messages, field by field, arguments compared numerically. -/
def equals : HubMessage → HubMessage → Bool
  | .invocation a, .invocation b => invocationsEqual a b
  | .streamInvocation a, .streamInvocation b => invocationsEqual a b
  | .streamItem a, .streamItem b =>
    a.invocationId == b.invocationId && a.item.equals b.item && a.headers == b.headers
  | .completion a, .completion b =>
    a.invocationId == b.invocationId && a.error == b.error &&
      optionalArgumentsEqual a.result b.result && a.hasResult == b.hasResult &&
      a.headers == b.headers
  | .cancelInvocation a, .cancelInvocation b =>
    a.invocationId == b.invocationId && a.headers == b.headers
  | .ping, .ping => true
  | .close a, .close b => a == b
  | .invocationBindingFailure i t e, .invocationBindingFailure i' t' e' =>
    i == i' && t == t' && e == e'
  | .streamBindingFailure i e, .streamBindingFailure i' e' => i == i' && e == e'
  | .completionBindingFailure i e h, .completionBindingFailure i' e' h' =>
    i == i' && e == e' && h == h'
  | _, _ => false

end HubMessage

end HubLink

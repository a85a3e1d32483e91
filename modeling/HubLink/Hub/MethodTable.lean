import HubLink.BindingError
/-!
Binders: the type lookups a read makes while decoding hub messages. A binder gives the parameter
types of a hub method, the result type of a pending invocation and the item type of a pending
stream; an application may answer them as it likes.

The method table is the ready-made binder: what an application expects to receive. It maps each
hub method to the types of its parameters, and each pending invocation id to the type of its
results (completion results and stream items alike). Registering again replaces; completing an
invocation removes it.
-/
namespace HubLink

/-- The type lookups used while decoding hub messages. -/
structure InvocationBinder where
  parameterTypes : String → Except BindingError (List ValueType)
  returnType : String → Except BindingError ValueType
  streamItemType : String → Except BindingError ValueType

/-- Methods with their parameter types, and pending invocations with their result type. -/
structure MethodTable where
  methods : List (String × List ValueType)
  invocations : List (String × ValueType)
  deriving Repr

namespace MethodTable

/-- The table with no methods and no invocations. -/
def empty : MethodTable := ⟨[], []⟩

/-- Sets the value of a key, replacing an earlier one in place. -/
def assign {α : Type} (key : String) (v : α) (entries : List (String × α)) : List (String × α) :=
  if entries.any (·.1 == key) then entries.map fun e => if e.1 == key then (key, v) else e
  else entries ++ [(key, v)]

/-- The value of a key. -/
def find? {α : Type} (key : String) (entries : List (String × α)) : Option α :=
  (entries.find? (·.1 == key)).map (·.2)

/-- Registers a method with its parameter types. -/
def registerMethod (t : MethodTable) (target : String) (params : List ValueType) : MethodTable :=
  { t with methods := assign target params t.methods }

/-- Registers a pending invocation with its result type. -/
def registerInvocation (t : MethodTable) (id : String) (result : ValueType) : MethodTable :=
  { t with invocations := assign id result t.invocations }

/-- Removes a pending invocation, giving its result type if it was pending. -/
def completeInvocation (t : MethodTable) (id : String) : Option ValueType × MethodTable :=
  (find? id t.invocations, { t with invocations := t.invocations.filter (·.1 != id) })

/-- Whether a method is registered. -/
def hasMethod (t : MethodTable) (target : String) : Bool := (find? target t.methods).isSome

/-- The number of pending invocations. -/
def pendingInvocations (t : MethodTable) : Nat := t.invocations.length

/-- The parameter types of a method. -/
def parameterTypes (t : MethodTable) (target : String) : Except BindingError (List ValueType) :=
  match find? target t.methods with
  | some ps => .ok ps
  | none => .error (.unknownTarget target)

/-- The result type of a pending invocation. -/
def returnType (t : MethodTable) (id : String) : Except BindingError ValueType :=
  match find? id t.invocations with
  | some r => .ok r
  | none => .error (.unknownInvocation id)

/-- The type of a stream's items: the invocation's result type. -/
def streamItemType (t : MethodTable) (id : String) : Except BindingError ValueType :=
  t.returnType id

/-- The table as a binder. -/
def toBinder (t : MethodTable) : InvocationBinder :=
  ⟨t.parameterTypes, t.returnType, t.streamItemType⟩

instance : Coe MethodTable InvocationBinder := ⟨toBinder⟩

end MethodTable

end HubLink

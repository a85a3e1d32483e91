import HubLink.Error
/-!
Why a message's values could not be bound to the types the application expects: an unknown
method or invocation id, an argument count that differs from the method's parameters, a value
that could not be read as its type, or a type with no reader. A binding error does not end the
connection; the message is handed on as a binding failure.
-/
namespace HubLink

/-- Why values could not be bound. -/
inductive BindingError where
  | unknownTarget (target : String)
  | unknownInvocation (id : String)
  | argumentCount (provided expected : Nat)
  /-- A value of the type named `typeName`, read for `field`, failed with `reason`. -/
  | deserialize (typeName field reason : String)
  | noFormatter (typeName : String)
  deriving DecidableEq, Repr

/-- The text of a binding error. -/
def BindingError.message : BindingError → String
  | .unknownTarget target => s!"Unknown hub method '{target}'"
  | .unknownInvocation id => s!"Unknown invocation ID '{id}'"
  | .argumentCount provided expected =>
    s!"Invocation provides {provided} argument(s) but target expects {expected}."
  | .deserialize typeName field reason =>
    "Deserializing object of the `" ++ typeName ++ "` type for '" ++ field ++ "' failed: " ++ reason
  | .noFormatter typeName => "No formatter registered for type `" ++ typeName ++ "`"

/-- The name of a binding error's cause. -/
def BindingError.kind : BindingError → String
  | .unknownTarget _ => "UnknownTarget"
  | .unknownInvocation _ => "UnknownInvocation"
  | .argumentCount .. => "ArgumentCount"
  | .deserialize .. => "Deserialize"
  | .noFormatter _ => "NoFormatter"

/-- The binding error for a value of type `t`, read for `field`, that failed to decode. -/
def BindingError.ofDecode (t : ValueType) (field : String) (e : DecodeError) : BindingError :=
  .deserialize t.typeName field (Error.msgPackDecode e).message

end HubLink

/-!
The wire tags of hub messages and of completion results. Every hub message body is an array
whose second item is the message type's tag; a body shorter than the type's minimum field count
is refused. A completion says by its result kind whether it carries an error, nothing, or a
result.
-/
namespace HubLink

/-- The kinds of hub message that travel on the wire. -/
inductive MessageType where
  | invocation
  | streamItem
  | completion
  | streamInvocation
  | cancelInvocation
  | ping
  | close
  deriving DecidableEq, Repr

namespace MessageType

/-- Every message type, in tag order. -/
def all : List MessageType :=
  [.invocation, .streamItem, .completion, .streamInvocation, .cancelInvocation, .ping, .close]

/-- The wire tag. -/
def tag : MessageType → Nat
  | .invocation => 1
  | .streamItem => 2
  | .completion => 3
  | .streamInvocation => 4
  | .cancelInvocation => 5
  | .ping => 6
  | .close => 7

/-- The message type of a wire tag. -/
def ofTag? (tag : Int) : Option MessageType :=
  all.find? fun t => (t.tag : Int) == tag

/-- The name of the message type. -/
def name : MessageType → String
  | .invocation => "Invocation"
  | .streamItem => "StreamItem"
  | .completion => "Completion"
  | .streamInvocation => "StreamInvocation"
  | .cancelInvocation => "CancelInvocation"
  | .ping => "Ping"
  | .close => "Close"

/-- The least number of array items a body of this type has: five for invocations (stream ids
came later, as a sixth), four for stream items and completions, three for cancellations, two
for close messages and one for pings. -/
def minFieldCount : MessageType → Nat
  | .invocation | .streamInvocation => 5
  | .streamItem | .completion => 4
  | .cancelInvocation => 3
  | .ping => 1
  | .close => 2

end MessageType

/-- What a completion carries. -/
inductive ResultKind where
  | error
  | void
  | nonVoid
  deriving DecidableEq, Repr

namespace ResultKind

/-- Every result kind, in tag order. -/
def all : List ResultKind := [.error, .void, .nonVoid]

/-- The wire tag. -/
def tag : ResultKind → Nat
  | .error => 1
  | .void => 2
  | .nonVoid => 3

/-- The result kind of a wire tag. -/
def ofTag? (tag : Int) : Option ResultKind :=
  all.find? fun k => (k.tag : Int) == tag

/-- The name of the result kind. -/
def name : ResultKind → String
  | .error => "Error"
  | .void => "Void"
  | .nonVoid => "NonVoid"

end ResultKind

/-- The protocol's name. -/
def protocolName : String := "messagepack"

/-- The protocol's version. -/
def protocolVersion : Int := 1

/-- Whether a peer's protocol version is the one spoken here. -/
def isVersionSupported (version : Int) : Bool := version == protocolVersion

end HubLink

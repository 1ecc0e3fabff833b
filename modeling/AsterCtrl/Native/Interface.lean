import Mathlib.Tactic.Common

/-!
# The module interface

The types that modules, registries and transports share (`status.hpp`, `type_support.hpp`,
`channel.hpp`, `rpc.hpp`): status codes and the descriptors of message types, channels and
services.  The conversions to and from the C interface are left out.
-/

namespace AsterCtrl

/-- `aster::Status`. -/
inductive Status where
  | ok
  | invalidArgument
  | notFound
  | capacityExceeded
  | unavailable
  | alreadyExists
  | timeout
  | cancelled
  | typeMismatch
  | versionMismatch
  | protocolError
  | invalidState
  | internal
deriving DecidableEq, Repr, Inhabited

/-! ## Types and channels -/

structure TypeDescriptor where
  name : String
  schemaHash : Vector UInt8 16
  maxSerializedSize : Nat
deriving DecidableEq, Repr

/-- `SameType`. -/
def sameType (left right : TypeDescriptor) : Bool :=
  left.name = right.name ∧ left.schemaHash = right.schemaHash ∧
    left.maxSerializedSize = right.maxSerializedSize

structure ChannelDescriptor where
  name : String
  messageType : TypeDescriptor
deriving DecidableEq, Repr

/-! ## Services -/

structure ServiceDescriptor where
  name : String
  schemaHash : Vector UInt8 16
  requestType : TypeDescriptor
  responseType : TypeDescriptor
  instanceName : String := ""
deriving DecidableEq, Repr

/-- `SameServiceIdentity`. -/
def sameServiceIdentity (left right : ServiceDescriptor) : Bool :=
  left.name = right.name ∧ left.instanceName = right.instanceName

/-- `SameService`. -/
def sameService (left right : ServiceDescriptor) : Bool :=
  sameServiceIdentity left right ∧ left.schemaHash = right.schemaHash ∧
    sameType left.requestType right.requestType ∧ sameType left.responseType right.responseType

structure RpcCallInfo where
  requestId : UInt32 := 0
  deadlineNs : UInt64 := 0
deriving DecidableEq, Repr

end AsterCtrl

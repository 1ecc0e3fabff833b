import AsterCtrl.Native.LocalChannel
import AsterCtrl.Native.LocalRpc

/-!
# Registrations at a node

The calls that fill the registries `LocalChannel` and `LocalRpc` of a node.  Topics and services
are found by their names, and a registration joins an entry only if its descriptor is the same;
`descriptor_eq_iff` says that the comparisons of the source compare all of it.
-/

namespace AsterCtrl

/-! ## Channels -/

namespace LocalChannel

variable {κ : Type} {maxTopics maxSubscribers maxSize : Nat}

/-- A call of `RegisterPublisher`, or of `RegisterSubscriber` with a callback. -/
inductive Registration (κ : Type) where
  | publisher (descriptor : ChannelDescriptor)
  | subscriber (descriptor : ChannelDescriptor) (callback : κ)

def Registration.descriptor : Registration κ → ChannelDescriptor
  | publisher descriptor | subscriber descriptor _ => descriptor

def register (channel : LocalChannel κ maxTopics maxSubscribers maxSize) :
    Registration κ → Status × LocalChannel κ maxTopics maxSubscribers maxSize
  | .publisher descriptor => channel.registerPublisher descriptor
  | .subscriber descriptor callback => channel.registerSubscriber descriptor (some callback)

/-- Registrations one after the other, whatever their answers are. -/
def statuses (channel : LocalChannel κ maxTopics maxSubscribers maxSize) :
    List (Registration κ) → List (Registration κ × Status)
  | [] => []
  | registration :: registrations =>
    (registration, (channel.register registration).1) ::
      statuses (channel.register registration).2 registrations

/-- Two descriptors with one name are equal if their types are the same. -/
theorem descriptor_eq_iff {left right : ChannelDescriptor} (hname : left.name = right.name) :
    left = right ↔ sameType left.messageType right.messageType = true := by
  obtain ⟨leftName, leftType⟩ := left
  obtain ⟨rightName, rightType⟩ := right
  obtain ⟨name, hash, size⟩ := leftType
  obtain ⟨name', hash', size'⟩ := rightType
  obtain rfl : leftName = rightName := hname
  simp [sameType]

end LocalChannel

/-! ## Services -/

namespace LocalRpc

variable {η : Type} {maxServices maxRequest maxResponse : Nat}

/-- A call of `RegisterClient`, or of `RegisterServer` with a handler. -/
inductive Registration (η : Type) where
  | client (descriptor : ServiceDescriptor)
  | server (descriptor : ServiceDescriptor) (handler : η)

def register (rpc : LocalRpc η maxServices maxRequest maxResponse) :
    Registration η → Status × LocalRpc η maxServices maxRequest maxResponse
  | .client descriptor => rpc.registerClient descriptor
  | .server descriptor handler => rpc.registerServer descriptor (some handler)

/-- Two descriptors with one name and instance are equal if the services are the same. -/
theorem descriptor_eq_iff {left right : ServiceDescriptor} :
    left = right ↔ sameService left right = true := by
  obtain ⟨name, hash, ⟨request, requestHash, requestSize⟩, ⟨response, responseHash, responseSize⟩,
    instanceName⟩ := left
  obtain ⟨name', hash', ⟨request', requestHash', requestSize'⟩,
    ⟨response', responseHash', responseSize'⟩, instanceName'⟩ := right
  grind [sameService, sameServiceIdentity, sameType]

end LocalRpc

end AsterCtrl

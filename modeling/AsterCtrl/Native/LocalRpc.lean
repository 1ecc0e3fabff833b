import AsterCtrl.Native.Interface

/-!
# Services inside a node

The registration of clients and servers with `LocalRpc` of `local_rpc.hpp`.  Handlers are values of
an arbitrary type `η`.

The calls, which begin when the services are sealed, are in `LocalCalls`.
-/

namespace AsterCtrl

/-- `LocalRpc::Service`. -/
structure LocalService (η : Type) where
  descriptor : ServiceDescriptor
  handler : Option η := none
  clientCount : UInt16 := 0

structure LocalRpc (η : Type) (maxServices maximumRequestSize maximumResponseSize : Nat) where
  /-- The first `service_count_` elements of `services_`. -/
  services : List (LocalService η) := []
  length_services : services.length ≤ maxServices := by exact Nat.zero_le _
  isSealed : Bool := false

namespace LocalRpc

variable {η : Type} {maxServices maximumRequestSize maximumResponseSize : Nat}
    (rpc : LocalRpc η maxServices maximumRequestSize maximumResponseSize)

/-- `LocalRpc::Find`. -/
def find (descriptor : ServiceDescriptor) : Option (Fin rpc.services.length) :=
  rpc.services.findFinIdx? fun service => sameServiceIdentity service.descriptor descriptor

/-- The services after a change of one of them. -/
def setService (index : Fin rpc.services.length) (service : LocalService η) :
    LocalRpc η maxServices maximumRequestSize maximumResponseSize :=
  { rpc with
    services := rpc.services.set index service
    length_services := by rw [List.length_set]; exact rpc.length_services }

/-- The checks of `LocalRpc::FindOrAdd` on the descriptor alone. -/
def validService (maximumRequestSize maximumResponseSize : Nat) (descriptor : ServiceDescriptor) :
    Bool :=
  !(descriptor.name = "" ∨ descriptor.requestType.name = "" ∨ descriptor.responseType.name = "" ∨
    descriptor.requestType.maxSerializedSize = 0 ∨ descriptor.responseType.maxSerializedSize = 0 ∨
    descriptor.requestType.maxSerializedSize > maximumRequestSize ∨
    descriptor.responseType.maxSerializedSize > maximumResponseSize)

/-- `LocalRpc::FindOrAdd`. -/
def findOrAdd (descriptor : ServiceDescriptor) :
    Except Status ((rpc : LocalRpc η maxServices maximumRequestSize maximumResponseSize) ×
      Fin rpc.services.length) :=
  if validService maximumRequestSize maximumResponseSize descriptor = false then
    .error .invalidArgument
  else
    match rpc.find descriptor with
    | some index =>
      if sameService (rpc.services.get index).descriptor descriptor then .ok ⟨rpc, index⟩
      else .error .typeMismatch
    | none =>
      if h : rpc.services.length = maxServices then .error .capacityExceeded
      else
        .ok ⟨{ rpc with
            services := rpc.services ++ [{ descriptor := descriptor }]
            length_services := by
              rw [List.length_append, List.length_singleton]
              exact Nat.lt_of_le_of_ne rpc.length_services h },
          ⟨rpc.services.length, by simp⟩⟩

/-- `LocalRpc::RegisterClient`. -/
def registerClient (descriptor : ServiceDescriptor) :
    Status × LocalRpc η maxServices maximumRequestSize maximumResponseSize :=
  if rpc.isSealed then (.invalidState, rpc)
  else
    match rpc.findOrAdd descriptor with
    | .error status => (status, rpc)
    | .ok ⟨rpc, index⟩ =>
      let service := rpc.services.get index
      if service.clientCount = 0xffff then (.capacityExceeded, rpc)
      else (.ok, rpc.setService index { service with clientCount := service.clientCount + 1 })

/-- `LocalRpc::RegisterServer`; `none` is a null handler. -/
def registerServer (descriptor : ServiceDescriptor) (handler : Option η) :
    Status × LocalRpc η maxServices maximumRequestSize maximumResponseSize :=
  if rpc.isSealed then (.invalidState, rpc)
  else if handler.isNone then (.invalidArgument, rpc)
  else
    match rpc.findOrAdd descriptor with
    | .error status => (status, rpc)
    | .ok ⟨rpc, index⟩ =>
      let service := rpc.services.get index
      if service.handler.isSome then (.alreadyExists, rpc)
      else (.ok, rpc.setService index { service with handler := handler })

end LocalRpc

end AsterCtrl

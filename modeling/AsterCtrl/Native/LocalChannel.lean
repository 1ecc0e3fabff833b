import AsterCtrl.Native.Interface

/-!
# Channels inside a node

`LocalChannel` of `local_channel.hpp`: topics with their subscribers, and `Publish`, which calls
the subscribers of a topic one after the other before it returns.

Subscribers are values of an arbitrary type `κ`, and what their callbacks do is an argument of
`publish`.  A callback acts on the channel itself, on which it may publish again, and on the state
`σ` of everything else.  A message is a `Span`: the channel passes on where the bytes are, not a
copy, so a callback reads what they are by then.

Left out: the execution contexts, which are only passed on, and the retries of
`compare_exchange_weak`, which change nothing.
-/

namespace AsterCtrl

structure MessageInfo where
  sequence : UInt32 := 0
  sourceTimestampNs : UInt64 := 0
deriving DecidableEq, Repr

/-- `std::span<const std::byte>`: the size is fixed, the bytes are those in memory. -/
structure Span (σ : Type) where
  size : Nat
  bytes : σ → List UInt8

structure LocalChannelStats where
  publications : UInt32 := 0
  deliveries : UInt32 := 0
  deliveryFailures : UInt32 := 0
deriving DecidableEq, Repr

structure Topic (κ : Type) (maxSubscribers : Nat) where
  descriptor : ChannelDescriptor
  /-- The first `subscriber_count` elements of `subscribers`. -/
  subscribers : List κ := []
  length_subscribers : subscribers.length ≤ maxSubscribers := by exact Nat.zero_le _
  sequence : UInt32 := 0
  publisherCount : UInt16 := 0

structure LocalChannel (κ : Type) (maxTopics maxSubscribers maximumMessageSize : Nat) where
  /-- The first `topic_count_` elements of `topics_`. -/
  topics : List (Topic κ maxSubscribers) := []
  length_topics : topics.length ≤ maxTopics := by exact Nat.zero_le _
  stats : LocalChannelStats := {}
  isSealed : Bool := false

namespace LocalChannel

variable {κ σ : Type} {maxTopics maxSubscribers maximumMessageSize : Nat}

/-- The sequence that `NextSequence` stores and returns. -/
def nextSequence (current : UInt32) : UInt32 := if current = 0xffffffff then 1 else current + 1

variable (channel : LocalChannel κ maxTopics maxSubscribers maximumMessageSize)

/-- `LocalChannel::Find`. -/
def find (name : String) : Option (Fin channel.topics.length) :=
  channel.topics.findFinIdx? fun topic => topic.descriptor.name = name

/-- The channel after a change of one of its topics. -/
def setTopic (index : Fin channel.topics.length) (topic : Topic κ maxSubscribers) :
    LocalChannel κ maxTopics maxSubscribers maximumMessageSize :=
  { channel with
    topics := channel.topics.set index topic
    length_topics := by rw [List.length_set]; exact channel.length_topics }

/-- `LocalChannel::FindOrAdd`. -/
def findOrAdd (descriptor : ChannelDescriptor) :
    Except Status ((channel : LocalChannel κ maxTopics maxSubscribers maximumMessageSize) ×
      Fin channel.topics.length) :=
  if descriptor.name = "" ∨ descriptor.messageType.name = "" ∨
      descriptor.messageType.maxSerializedSize = 0 ∨
      descriptor.messageType.maxSerializedSize > maximumMessageSize then
    .error .invalidArgument
  else
    match channel.find descriptor.name with
    | some index =>
      if sameType (channel.topics.get index).descriptor.messageType descriptor.messageType then
        .ok ⟨channel, index⟩
      else .error .typeMismatch
    | none =>
      if h : channel.topics.length = maxTopics then .error .capacityExceeded
      else
        .ok ⟨{ channel with
            topics := channel.topics ++ [{ descriptor := descriptor }]
            length_topics := by
              rw [List.length_append, List.length_singleton]
              exact Nat.lt_of_le_of_ne channel.length_topics h },
          ⟨channel.topics.length, by simp⟩⟩

/-- `LocalChannel::RegisterPublisher`. -/
def registerPublisher (descriptor : ChannelDescriptor) :
    Status × LocalChannel κ maxTopics maxSubscribers maximumMessageSize :=
  if channel.isSealed then (.invalidState, channel)
  else
    match channel.findOrAdd descriptor with
    | .error status => (status, channel)
    | .ok ⟨channel, index⟩ =>
      let topic := channel.topics.get index
      if topic.publisherCount = 0xffff then (.capacityExceeded, channel)
      else (.ok, channel.setTopic index { topic with publisherCount := topic.publisherCount + 1 })

/-- `LocalChannel::RegisterSubscriber`; `none` is a null callback. -/
def registerSubscriber (descriptor : ChannelDescriptor) (callback : Option κ) :
    Status × LocalChannel κ maxTopics maxSubscribers maximumMessageSize :=
  if channel.isSealed then (.invalidState, channel)
  else
    match callback with
    | none => (.invalidArgument, channel)
    | some subscriber =>
      match channel.findOrAdd descriptor with
      | .error status => (status, channel)
      | .ok ⟨channel, index⟩ =>
        let topic := channel.topics.get index
        if h : topic.subscribers.length = maxSubscribers then (.capacityExceeded, channel)
        else
          (.ok, channel.setTopic index { topic with
            subscribers := topic.subscribers ++ [subscriber]
            length_subscribers := by
              rw [List.length_append, List.length_singleton]
              exact Nat.lt_of_le_of_ne topic.length_subscribers h })

/-- `LocalChannel::Seal`. -/
def sealTopics : Status × LocalChannel κ maxTopics maxSubscribers maximumMessageSize :=
  if channel.isSealed then (.invalidState, channel)
  else if channel.topics.any fun topic => topic.subscribers ≠ [] ∧ topic.publisherCount = 0 then
    (.unavailable, channel)
  else (.ok, { channel with isSealed := true })

/-- What a subscriber's callback does with a message. -/
abbrev Callback (κ σ : Type) (maxTopics maxSubscribers maximumMessageSize : Nat) : Type :=
  κ → Span σ → MessageInfo → LocalChannel κ maxTopics maxSubscribers maximumMessageSize × σ →
    Status × LocalChannel κ maxTopics maxSubscribers maximumMessageSize × σ

/-- The loop of `Publish` over the subscribers of the topic.  The channel is sealed, so no
    callback can change who they are. -/
def deliver (callback : Callback κ σ maxTopics maxSubscribers maximumMessageSize)
    (message : Span σ) (info : MessageInfo) :
    List κ → (firstFailure : Status) →
      LocalChannel κ maxTopics maxSubscribers maximumMessageSize × σ →
      Status × LocalChannel κ maxTopics maxSubscribers maximumMessageSize × σ
  | [], firstFailure, state => (firstFailure, state)
  | subscriber :: subscribers, firstFailure, state =>
    let (status, channel, rest) := callback subscriber message info state
    if status = .ok then
      deliver callback message info subscribers firstFailure
        ({ channel with stats.deliveries := channel.stats.deliveries + 1 }, rest)
    else
      deliver callback message info subscribers
        (if firstFailure = .ok then status else firstFailure)
        ({ channel with stats.deliveryFailures := channel.stats.deliveryFailures + 1 }, rest)

/-- `LocalChannel::Publish`. -/
def publish (callback : Callback κ σ maxTopics maxSubscribers maximumMessageSize)
    (channel : LocalChannel κ maxTopics maxSubscribers maximumMessageSize)
    (descriptor : ChannelDescriptor) (message : Span σ) (sourceTimestampNs : UInt64) (rest : σ) :
    Status × LocalChannel κ maxTopics maxSubscribers maximumMessageSize × σ :=
  if channel.isSealed = false then (.invalidState, channel, rest)
  else
    match channel.find descriptor.name with
    | none => (.notFound, channel, rest)
    | some index =>
      let topic := channel.topics.get index
      if sameType topic.descriptor.messageType descriptor.messageType = false ∨
          message.size > descriptor.messageType.maxSerializedSize ∨
          message.size > maximumMessageSize then
        (.typeMismatch, channel, rest)
      else
        let sequence := nextSequence topic.sequence
        let channel := channel.setTopic index { topic with sequence := sequence }
        let channel := { channel with stats.publications := channel.stats.publications + 1 }
        deliver callback message ⟨sequence, sourceTimestampNs⟩ topic.subscribers .ok (channel, rest)

end LocalChannel

end AsterCtrl

import AsterCtrl.ForStd.List
import AsterCtrl.Spec.LocalRegistries

/-!
# Who gets a message

After registrations that have all succeeded, every topic has the type and the subscribers that were
registered under its name.  `Publish` then calls these subscribers and no others.

## Key results

- `LocalChannel.Holds.register`: what one registration adds
- `LocalChannel.holds_registerAll`: what a sequence of registrations leaves
- `LocalChannel.callees_of_holds`: whom `Publish` calls
-/

namespace AsterCtrl.LocalChannel

open List

variable {κ : Type} {maxTopics maxSubscribers maxSize : Nat}
  {channel : LocalChannel κ maxTopics maxSubscribers maxSize}

/-- The topic with a name. -/
def topic? (channel : LocalChannel κ maxTopics maxSubscribers maxSize) (name : String) :
    Option (Topic κ maxSubscribers) :=
  channel.topics.find? fun topic => topic.descriptor.name = name

/-- The subscribers of the topic with a name, if there is one. -/
def subscribersOf (channel : LocalChannel κ maxTopics maxSubscribers maxSize)
    (name : String) : List κ :=
  ((channel.topic? name).map Topic.subscribers).getD []

/-- Registrations one after the other. -/
def registerAll (channel : LocalChannel κ maxTopics maxSubscribers maxSize) :
    List (Registration κ) → LocalChannel κ maxTopics maxSubscribers maxSize
  | [] => channel
  | registration :: registrations => registerAll (channel.register registration).2 registrations

/-- The callback that a registration adds to the topic with a name. -/
def Registration.callbackFor (name : String) : Registration κ → Option κ
  | .publisher _ => none
  | .subscriber descriptor callback => if descriptor.name = name then some callback else none

variable {registration : Registration κ}

theorem Registration.callbackFor_of_ne {name : String} (h : name ≠ registration.descriptor.name) :
    registration.callbackFor name = none := by
  cases registration with
  | publisher => rfl
  | subscriber => exact if_neg (Ne.symm h)

/-! ## Registrations -/

variable {topic : Topic κ maxSubscribers}

theorem find_eq_some {name : String} (h : channel.topic? name = some topic) :
    ∃ index, channel.find name = some index ∧ channel.topics.get index = topic := by
  cases hfind : channel.find name with
  | none => exact nomatch (List.find?_of_findFinIdx?_eq_none hfind).symm.trans h
  | some index =>
    exact ⟨index, rfl, Option.some_inj.mp ((List.find?_of_findFinIdx? hfind).symm.trans h)⟩

/-- What a topic has that was found or added for a descriptor. -/
structure Found (channel : LocalChannel κ maxTopics maxSubscribers maxSize)
    (descriptor : ChannelDescriptor)
    (found : LocalChannel κ maxTopics maxSubscribers maxSize)
    (index : Fin found.topics.length) : Prop where
  find : found.find descriptor.name = some index
  descriptor_eq : (found.topics.get index).descriptor = descriptor
  subscribers : (found.topics.get index).subscribers = channel.subscribersOf descriptor.name
  others : ∀ name, name ≠ descriptor.name → found.topic? name = channel.topic? name
  old : ∀ topic ∈ channel.topic? descriptor.name, topic.descriptor = descriptor
  size_le : descriptor.messageType.maxSerializedSize ≤ maxSize

variable {descriptor : ChannelDescriptor} {found : LocalChannel κ maxTopics maxSubscribers maxSize}
    {index : Fin found.topics.length}

theorem found_of_findOrAdd (h : channel.findOrAdd descriptor = .ok ⟨found, index⟩) :
    Found channel descriptor found index := by
  by_cases hinvalid : descriptor.name = "" ∨ descriptor.messageType.name = "" ∨
      descriptor.messageType.maxSerializedSize = 0 ∨
      descriptor.messageType.maxSerializedSize > maxSize
  · rw [findOrAdd, if_pos hinvalid] at h
    cases h
  rw [findOrAdd, if_neg hinvalid] at h
  have hsize : descriptor.messageType.maxSerializedSize ≤ maxSize := by
    simp only [not_or, Nat.not_lt] at hinvalid
    exact hinvalid.2.2.2
  cases hfind : channel.find descriptor.name with
  | some old =>
    simp only [hfind] at h
    split_ifs at h with hsame
    cases h
    have hname : (channel.topics.get old).descriptor.name = descriptor.name :=
      of_decide_eq_true (List.findFinIdx?_eq_some_iff.mp hfind).1
    have hdescriptor := (descriptor_eq_iff hname).mpr hsame
    have htopic : channel.topic? descriptor.name = some (channel.topics.get old) :=
      List.find?_of_findFinIdx? hfind
    refine ⟨hfind, hdescriptor, ?_, fun _ _ => rfl, fun topic hmem => ?_, hsize⟩
    · rw [subscribersOf, htopic]
      rfl
    · rw [htopic, Option.mem_some_iff] at hmem
      rw [← hmem]
      exact hdescriptor
  | none =>
    simp only [hfind] at h
    split_ifs at h with hroom
    cases h
    have hnone : channel.topic? descriptor.name = none :=
      List.find?_of_findFinIdx?_eq_none hfind
    refine ⟨List.findFinIdx?_concat hfind (by simp), by simp, ?_, fun name hname => ?_, ?_, hsize⟩
    · rw [subscribersOf, hnone]
      simp
    · refine (List.find?_concat_of_find?_eq_none (f := fun topic : Topic κ maxSubscribers =>
        topic.descriptor.name) ?_ name).trans (if_neg hname)
      exact hnone
    · rw [hnone]
      exact nofun

/-- The topics after a change of the one that was found. -/
theorem Found.topic?_setTopic (h : Found channel descriptor found index)
    (htopic : topic.descriptor = descriptor) (name : String) :
    (found.setTopic index topic).topic? name =
      if name = descriptor.name then some topic else found.topic? name :=
  List.find?_set_of_findFinIdx? (f := fun topic : Topic κ maxSubscribers => topic.descriptor.name)
    h.find (congrArg ChannelDescriptor.name htopic) name

/-- What a successful registration changes. -/
structure Registered (channel : LocalChannel κ maxTopics maxSubscribers maxSize)
    (registration : Registration κ)
    (result : LocalChannel κ maxTopics maxSubscribers maxSize) : Prop where
  topic : ∃ topic, result.topic? registration.descriptor.name = some topic ∧
    topic.descriptor = registration.descriptor ∧
    topic.subscribers = channel.subscribersOf registration.descriptor.name ++
      (registration.callbackFor registration.descriptor.name).toList
  others : ∀ name, name ≠ registration.descriptor.name →
    result.topic? name = channel.topic? name
  old : ∀ topic ∈ channel.topic? registration.descriptor.name,
    topic.descriptor = registration.descriptor
  size_le : registration.descriptor.messageType.maxSerializedSize ≤ maxSize

theorem Found.registered (h : Found channel registration.descriptor found index)
    (hdescriptor : topic.descriptor = (found.topics.get index).descriptor)
    (hsubscribers : topic.subscribers = (found.topics.get index).subscribers ++
      (registration.callbackFor registration.descriptor.name).toList) :
    Registered channel registration (found.setTopic index topic) := by
  have htopic := hdescriptor.trans h.descriptor_eq
  refine ⟨⟨topic, ?_, htopic, ?_⟩, fun name hname => ?_, h.old, h.size_le⟩
  · rw [h.topic?_setTopic htopic, if_pos rfl]
  · rw [hsubscribers, h.subscribers]
  · rw [h.topic?_setTopic htopic, if_neg hname, h.others name hname]

/-- `findOrAdd` does not fail with `kOk`. -/
theorem findOrAdd_ne_ok {status : Status} (h : channel.findOrAdd descriptor = .error status) :
    status ≠ .ok := by
  unfold findOrAdd at h
  split at h
  · cases h
    exact nofun
  · split at h
    · split at h
      · cases h
      · cases h
        exact nofun
    · split at h
      · cases h
        exact nofun
      · cases h

theorem registered_of_register (h : (channel.register registration).1 = .ok) :
    Registered channel registration (channel.register registration).2 := by
  cases registration with
  | publisher descriptor =>
    unfold register registerPublisher at h ⊢
    by_cases hsealed : channel.isSealed = true
    · simp [hsealed] at h
    simp only [if_neg hsealed] at h ⊢
    cases hfound : channel.findOrAdd descriptor with
    | error status =>
      simp only [hfound] at h
      exact absurd h (findOrAdd_ne_ok hfound)
    | ok result =>
      obtain ⟨found, index⟩ := result
      simp only [hfound] at h ⊢
      split_ifs at h ⊢
      have hregistered :
          Found channel (.publisher descriptor : Registration κ).descriptor found index :=
        found_of_findOrAdd hfound
      exact hregistered.registered rfl (append_nil _).symm
  | subscriber descriptor callback =>
    unfold register registerSubscriber at h ⊢
    by_cases hsealed : channel.isSealed = true
    · simp [hsealed] at h
    simp only [if_neg hsealed] at h ⊢
    cases hfound : channel.findOrAdd descriptor with
    | error status =>
      simp only [hfound] at h
      exact absurd h (findOrAdd_ne_ok hfound)
    | ok result =>
      obtain ⟨found, index⟩ := result
      simp only [hfound] at h ⊢
      split_ifs at h ⊢
      have hregistered :
          Found channel (Registration.subscriber descriptor callback).descriptor found index :=
        found_of_findOrAdd hfound
      exact hregistered.registered rfl (by simp [Registration.callbackFor, Registration.descriptor])

/-- What the topics are after some registrations. -/
structure Holds (channel : LocalChannel κ maxTopics maxSubscribers maxSize)
    (registrations : List (Registration κ)) : Prop where
  descriptor_eq : ∀ registration ∈ registrations,
    ∃ topic, channel.topic? registration.descriptor.name = some topic ∧
      topic.descriptor = registration.descriptor
  subscribers_eq : ∀ name,
    channel.subscribersOf name = registrations.filterMap (Registration.callbackFor name)
  size_le : ∀ registration ∈ registrations,
    registration.descriptor.messageType.maxSerializedSize ≤ maxSize

theorem holds_nil : Holds ({} : LocalChannel κ maxTopics maxSubscribers maxSize) [] where
  descriptor_eq := nofun
  subscribers_eq _ := rfl
  size_le := nofun

variable {registrations : List (Registration κ)}

theorem Holds.register (h : Holds channel registrations)
    (hok : (channel.register registration).1 = .ok) :
    Holds (channel.register registration).2 (registrations ++ [registration]) := by
  have hregistered := registered_of_register hok
  obtain ⟨topic, htopic, hdescriptor, hsubscribers⟩ := hregistered.topic
  refine ⟨fun other hother => ?_, fun name => ?_, fun other hother => ?_⟩
  · rcases mem_append.mp hother with hold | hnew
    · by_cases hname : other.descriptor.name = registration.descriptor.name
      · obtain ⟨old, hold, hsame⟩ := h.descriptor_eq other hold
        rw [hname] at hold ⊢
        exact ⟨topic, htopic, hdescriptor.trans ((hregistered.old old hold).symm.trans hsame)⟩
      · rw [hregistered.others _ hname]
        exact h.descriptor_eq other hold
    · obtain rfl := mem_singleton.mp hnew
      exact ⟨topic, htopic, hdescriptor⟩
  · rw [filterMap_append, ← h.subscribers_eq]
    by_cases hname : name = registration.descriptor.name
    · subst hname
      rw [subscribersOf, htopic, Option.map_some, Option.getD_some, hsubscribers, filterMap_cons]
      cases registration.callbackFor registration.descriptor.name <;> rfl
    · rw [subscribersOf, hregistered.others name hname, filterMap_cons,
        Registration.callbackFor_of_ne hname]
      exact (append_nil _).symm
  · rcases mem_append.mp hother with hold | hnew
    · exact h.size_le other hold
    · obtain rfl := mem_singleton.mp hnew
      exact hregistered.size_le

/-- What a sequence of successful registrations leaves. -/
theorem Holds.registerAll (h : Holds channel registrations) {order : List (Registration κ)}
    (hok : ∀ entry ∈ channel.statuses order, entry.2 = .ok) :
    Holds (channel.registerAll order) (registrations ++ order) := by
  induction order generalizing channel registrations with
  | nil =>
    rw [append_nil]
    exact h
  | cons registration order ih =>
    rw [statuses, forall_mem_cons] at hok
    have hnext := ih (h.register hok.1) hok.2
    rwa [append_assoc] at hnext

theorem holds_registerAll {order : List (Registration κ)}
    (hok : ∀ entry ∈ ({} : LocalChannel κ maxTopics maxSubscribers maxSize).statuses
      order, entry.2 = .ok) :
    Holds (({} : LocalChannel κ maxTopics maxSubscribers maxSize).registerAll order)
      order :=
  holds_nil.registerAll hok

/-- Sealing changes no topic. -/
theorem Holds.of_seal (h : Holds channel registrations)
    {result : LocalChannel κ maxTopics maxSubscribers maxSize}
    (hseal : channel.sealTopics = (.ok, result)) :
    Holds result registrations ∧ result.isSealed = true := by
  unfold sealTopics at hseal
  split_ifs at hseal
  · cases hseal
  · cases hseal
  · obtain rfl := (Prod.mk.inj hseal).2
    exact ⟨⟨h.descriptor_eq, h.subscribers_eq, h.size_le⟩, rfl⟩

/-! ## Publications -/

/-- A callback that records who has been called. -/
def record : Callback κ (List κ) maxTopics maxSubscribers maxSize :=
  fun subscriber _ _ (channel, called) => (.ok, channel, called ++ [subscriber])

/-- The subscribers that `Publish` calls, in this order. -/
def callees (channel : LocalChannel κ maxTopics maxSubscribers maxSize)
    (descriptor : ChannelDescriptor) (message : List UInt8) : List κ :=
  (channel.publish record descriptor ⟨message.length, fun _ => message⟩ 0 []).2.2

theorem deliver_record (message : Span (List κ)) (info : MessageInfo) (subscribers : List κ)
    (firstFailure : Status) (called : List κ) :
    (deliver record message info subscribers firstFailure (channel, called)).2.2 =
      called ++ subscribers := by
  induction subscribers generalizing channel called with
  | nil => exact (append_nil _).symm
  | cons subscriber subscribers ih =>
    simp only [deliver, record, if_true]
    refine (ih (called ++ [subscriber])).trans ?_
    rw [append_assoc]
    rfl

theorem callees_eq (hsealed : channel.isSealed = true)
    (htopic : channel.topic? descriptor.name = some topic)
    (hdescriptor : topic.descriptor = descriptor)
    (hsize : descriptor.messageType.maxSerializedSize ≤ maxSize) {message : List UInt8}
    (hmessage : message.length ≤ descriptor.messageType.maxSerializedSize) :
    channel.callees descriptor message = topic.subscribers := by
  obtain ⟨index, hfind, htopic⟩ := find_eq_some htopic
  have hfits : ¬ (sameType topic.descriptor.messageType descriptor.messageType = false ∨
      message.length > descriptor.messageType.maxSerializedSize ∨
      message.length > maxSize) := by
    rw [hdescriptor]
    simp only [sameType, and_self, decide_true, Bool.true_eq_false, false_or, not_or, Nat.not_lt]
    exact ⟨hmessage, hmessage.trans hsize⟩
  rw [callees, publish, if_neg (by simp [hsealed])]
  simp only [hfind, htopic, if_neg hfits]
  exact deliver_record _ _ _ _ _

/-- `Publish` calls those who have been registered under the name. -/
theorem callees_of_holds (h : Holds channel registrations) (hsealed : channel.isSealed = true)
    (hmem : registration ∈ registrations) {message : List UInt8}
    (hmessage : message.length ≤ registration.descriptor.messageType.maxSerializedSize) :
    channel.callees registration.descriptor message =
      registrations.filterMap (Registration.callbackFor registration.descriptor.name) := by
  obtain ⟨topic, htopic, hdescriptor⟩ := h.descriptor_eq registration hmem
  rw [callees_eq hsealed htopic hdescriptor (h.size_le registration hmem) hmessage,
    ← h.subscribers_eq, subscribersOf, htopic]
  rfl

end AsterCtrl.LocalChannel

import AsterCtrl.ForStd.Acyclic
import AsterCtrl.Native.Cli.Protobuf
import Mathlib.Data.List.Flatten

/-!
# The order and the sizes of protobuf messages

`_resolve_message_sizes` goes over the messages again and again, and gives a size to those whose
fields refer to nothing but messages that have theirs.  What it has done so far is an order in
which every message comes after those it contains, with sizes that are computed from the entries
before (`Built`).  A pass that changes nothing leaves messages that wait for each other, so the
loop ends, and it succeeds exactly if every reference leads to a message and none leads in a
circle.

The sizes in such an order do not depend on the order: two orders of the same messages agree on
the first message on which they could differ (`Built.subset`).

## Key results

- `exists_messageMaxWireSize`: a message of the profile has a size once its references have one
- `resolvePass_spec`, `exists_resolveLoop`: what a pass does, and what the loop returns
- `Built.subset`: the sizes depend on the messages only
- `message_order`: all of it, for `_resolve_message_sizes`
-/

namespace AsterCtrl.Cli.Protobuf

open List Except

/-! ## Sizes of messages -/

section Sizes

variable {bounds : Bounds} {types : List String} {fullName dialect : String} {bound : Bound}
  {field : FieldDescriptor} {info : Message} {sizeOf sizeOf' : String → Except Failure Nat}

theorem mem_dependencies {name : String} :
    name ∈ info.dependencies ↔
      ∃ field ∈ info.descriptor.fields, field.type = .message ∧
        lstripDots field.typeName = name := by
  simp only [Message.dependencies, mem_map, mem_filter, decide_eq_true_eq, and_assoc]

/-- The size of a field that refers to a message. -/
theorem fieldSize_of_message (h : field.type = .message) :
    fieldSize dialect bound sizeOf field = (do
      let payload ← sizeOf (lstripDots field.typeName)
      pure (bound.maxCount.getD 1 *
        (varintSize (field.number * 8 + 2).toNat + varintSize payload + payload))) := by
  simp only [fieldSize, payloadSize, wireType, h]
  rfl

/-- No other field reads the size of a message. -/
theorem fieldSize_of_ne_message (h : field.type ≠ .message) :
    fieldSize dialect bound sizeOf field = fieldSize dialect bound sizeOf' field := by
  unfold fieldSize payloadSize
  cases htype : field.type <;> first | rfl | exact absurd htype h

theorem exists_scalarMaxSize {type : FieldType} (h : type.isPackable) :
    ∃ size, scalarMaxSize type = .ok size := by
  cases type <;> first | exact ⟨_, rfl⟩ | cases h

theorem exists_wireType {type : FieldType} (h : type ≠ .group) :
    ∃ wire, wireType type = .ok wire := by
  cases type <;> first | exact ⟨_, rfl⟩ | exact absurd rfl h

theorem exists_scalarFieldSize (htype : field.type.isPackable)
    (hcount : field.label = .repeated → bound.maxCount ≠ none) (tagSize : Nat) :
    ∃ size, scalarFieldSize dialect bound field tagSize = .ok size := by
  obtain ⟨item, hitem⟩ := exists_scalarMaxSize htype
  rw [scalarFieldSize, hitem, ok_bind]
  split
  · rename_i hrepeated
    obtain ⟨count, hcount⟩ := Option.ne_none_iff_exists'.mp (hcount hrepeated)
    rw [getKey_eq_ok.mpr hcount, ok_bind]
    split
    · exact ⟨_, rfl⟩
    · exact ⟨_, rfl⟩
  · exact ⟨_, rfl⟩

/-- A field that passed the checks has a size, if the message it refers to has one. -/
theorem exists_fieldSize (h : validateField bounds types fullName field = .ok ())
    (hsize : field.type = .message → ∃ size, sizeOf (lstripDots field.typeName) = .ok size) :
    ∃ size, fieldSize dialect (bounds.get (field.boundName fullName)) sizeOf field =
      .ok size := by
  rw [validateField] at h
  obtain ⟨-, h⟩ := seq_eq_ok.mp h
  obtain ⟨hgroup, h⟩ := seq_eq_ok.mp h
  obtain ⟨-, h⟩ := seq_eq_ok.mp h
  rw [require_eq_ok] at hgroup
  rw [fieldType] at h
  obtain ⟨hitem, h⟩ := seq_eq_ok.mp h
  obtain ⟨-, hlabel⟩ := seq_eq_ok.mp h
  generalize bounds.get (field.boundName fullName) = bound at hitem hlabel
  obtain ⟨wire, hwire⟩ := exists_wireType hgroup
  rw [fieldSize, hwire, ok_bind]
  by_cases hpackable : field.type.isPackable
  · rw [if_pos hpackable]
    refine exists_scalarFieldSize hpackable (fun hrepeated => ?_) _
    rwa [if_pos hrepeated, require_eq_ok] at hlabel
  · suffices ∃ payload, payloadSize bound sizeOf field = .ok payload by
      obtain ⟨payload, hpayload⟩ := this
      rw [if_neg hpackable, hpayload]
      exact ⟨_, rfl⟩
    by_cases hbytes : field.type = .string ∨ field.type = .bytes
    · have hmax : bound.maxSize ≠ none := by
        rcases hbytes with htype | htype <;> simpa [itemType, htype, FieldType.isScalar] using hitem
      obtain ⟨size, hsize⟩ := Option.ne_none_iff_exists'.mp hmax
      exact ⟨size, by rw [payloadSize, if_pos hbytes, getKey_eq_ok, hsize]⟩
    · have hmessage : field.type = .message := by
        cases htype : field.type <;> simp_all [FieldType.isPackable, FieldType.isVarint,
          FieldType.isFixed32, FieldType.isFixed64]
      rw [payloadSize, if_neg hbytes]
      exact hsize hmessage

theorem messageMaxWireSize_congr (h : ∀ name ∈ info.dependencies, sizeOf name = sizeOf' name) :
    messageMaxWireSize bounds sizeOf info = messageMaxWireSize bounds sizeOf' info := by
  rw [messageMaxWireSize, messageMaxWireSize, mapM_congr fun field hfield => ?_]
  by_cases hmessage : field.type = .message
  · rw [fieldSize_of_message hmessage, fieldSize_of_message hmessage,
      h _ (mem_dependencies.mpr ⟨field, hfield, hmessage, rfl⟩)]
  · exact fieldSize_of_ne_message hmessage

/-- A message whose fields passed the checks has a size, if those it refers to have one. -/
theorem exists_messageMaxWireSize
    (h : ∀ field ∈ info.descriptor.fields, validateField bounds types info.fullName field = .ok ())
    (hsize : ∀ name ∈ info.dependencies, ∃ size, sizeOf name = .ok size) :
    ∃ size, messageMaxWireSize bounds sizeOf info = .ok size := by
  have hfields : ∀ field ∈ info.descriptor.fields, ∃ size,
      fieldSize info.dialect (bounds.get (field.boundName info.fullName)) sizeOf field =
        .ok size := fun field hfield =>
    exists_fieldSize (h field hfield) fun hmessage =>
      hsize _ (mem_dependencies.mpr ⟨field, hfield, hmessage, rfl⟩)
  obtain ⟨sizes, hsizes⟩ := exists_mapM_eq_ok hfields
  rw [messageMaxWireSize, hsizes]
  exact ⟨_, rfl⟩

/-- The size of a message is computed from the sizes of all that it refers to. -/
theorem exists_sizeOf {size : Nat} (h : messageMaxWireSize bounds sizeOf info = .ok size)
    {name : String} (hname : name ∈ info.dependencies) : ∃ size, sizeOf name = .ok size := by
  obtain ⟨field, hfield, hmessage, rfl⟩ := mem_dependencies.mp hname
  rw [messageMaxWireSize] at h
  obtain ⟨sizes, hsizes, -⟩ := bind_eq_ok.mp h
  obtain ⟨size, -, hsize⟩ := exists_of_mem_of_mapM hsizes hfield
  rw [fieldSize_of_message hmessage] at hsize
  obtain ⟨payload, hpayload, -⟩ := bind_eq_ok.mp hsize
  exact ⟨payload, hpayload⟩

end Sizes

/-! ## Orders with sizes -/

section Orders

variable {bounds : Bounds} {messages messages' : List Message} {ordered ordered' : Ordered}
  {info : Message} {size : Nat} {name : String}

/-- Every message comes after those it refers to, and its size is computed from theirs. -/
inductive Built (bounds : Bounds) (messages : List Message) : Ordered → Prop
  | nil : Built bounds messages []
  | concat {ordered : Ordered} {info : Message} {size : Nat} (h : Built bounds messages ordered)
      (hbefore : ∀ name ∈ info.dependencies, name ∈ ordered.names)
      (hsize : messageMaxWireSize bounds (maxWireSize messages ordered) info = .ok size) :
      Built bounds messages (ordered ++ [(info, size)])

theorem names_append (ordered rest : Ordered) :
    Ordered.names (ordered ++ rest) = ordered.names ++ Ordered.names rest := map_append

/-- A size does not change any more. -/
theorem maxWireSize_append (h : name ∈ ordered.names) (rest : Ordered) :
    maxWireSize messages (ordered ++ rest) name = maxWireSize messages ordered name := by
  obtain ⟨entry, hentry, rfl⟩ := mem_map.mp h
  obtain ⟨found, hfound⟩ : ∃ found, ordered.find?
      (fun other => other.1.fullName = entry.1.fullName) = some found :=
    Option.isSome_iff_exists.mp (List.find?_isSome.mpr ⟨entry, hentry, by simp⟩)
  rw [maxWireSize, maxWireSize, List.find?_append, hfound, Option.some_or]

/-- The size of a message that has one. -/
theorem maxWireSize_of_mem (hnodup : ordered.names.Nodup) (hmem : (info, size) ∈ ordered)
    (hname : info.fullName ∈ messages.map Message.fullName) :
    maxWireSize messages ordered info.fullName = .ok size := by
  have hfind : ordered.find? (fun entry => entry.1.fullName = info.fullName) =
      some (info, size) := by
    obtain ⟨found, hfound⟩ := Option.isSome_iff_exists.mp
      (List.find?_isSome (p := fun entry : Message × Nat => entry.1.fullName = info.fullName).mpr
        ⟨_, hmem, by simp⟩)
    have heq := inj_on_of_nodup_map hnodup (mem_of_find?_eq_some hfound) hmem
      (by simpa using List.find?_some hfound)
    rw [hfound, heq]
  rw [maxWireSize, if_pos hname, hfind]
  rfl

namespace Built

/-- Each entry was made from the entries before it. -/
theorem of_append (h : Built bounds messages ordered) {before after : Ordered}
    (heq : ordered = before ++ (info, size) :: after) :
    (∀ name ∈ info.dependencies, name ∈ before.names) ∧
      messageMaxWireSize bounds (maxWireSize messages before) info = .ok size := by
  induction h generalizing after with
  | nil => exact absurd heq (by simp)
  | @concat ordered info' size' _ hbefore hsize ih =>
    rcases eq_nil_or_concat after with rfl | ⟨after, last, rfl⟩
    · obtain ⟨rfl, hlast⟩ := append_inj' heq rfl
      cases hlast
      exact ⟨hbefore, hsize⟩
    · rw [concat_eq_append, ← cons_append, ← append_assoc] at heq
      exact ih (append_inj' heq rfl).1

/-- The sizes before an entry are those at the end. -/
theorem messageMaxWireSize_eq (h : Built bounds messages ordered) (hmem : (info, size) ∈ ordered) :
    messageMaxWireSize bounds (maxWireSize messages ordered) info = .ok size := by
  obtain ⟨before, after, rfl⟩ := append_of_mem hmem
  obtain ⟨hbefore, hsize⟩ := h.of_append rfl
  rw [← hsize]
  exact messageMaxWireSize_congr fun name hname => maxWireSize_append (hbefore name hname) _

theorem idxOf_lt (h : Built bounds messages ordered) (hnodup : ordered.names.Nodup)
    (hmem : (info, size) ∈ ordered) (hname : name ∈ info.dependencies) :
    ordered.names.idxOf name < ordered.names.idxOf info.fullName := by
  obtain ⟨before, after, rfl⟩ := append_of_mem hmem
  have hbefore := (h.of_append rfl).1 name hname
  rw [names_append] at hnodup ⊢
  have hnot : info.fullName ∉ Ordered.names before := fun hin =>
    disjoint_of_nodup_append hnodup hin mem_cons_self
  rw [idxOf_append_of_mem hbefore, idxOf_append_of_notMem hnot]
  exact Nat.lt_add_right _ (idxOf_lt_length_of_mem hbefore)

/-- An order with sizes is part of every other one that has its messages. -/
theorem subset (h : Built bounds messages ordered) (h' : Built bounds messages' ordered')
    (hnodup : ordered.names.Nodup) (hnodup' : ordered'.names.Nodup)
    (hmessages : ∀ entry ∈ ordered, entry.1 ∈ messages ∧ entry.1 ∈ ordered'.map Prod.fst)
    (hsame : ∀ info, info ∈ messages ↔ info ∈ messages') : ordered ⊆ ordered' := by
  induction h with
  | nil => exact nil_subset _
  | @concat ordered info size hbuilt hbefore hsize ih =>
    rw [names_append] at hnodup
    replace hnodup := (nodup_append.mp hnodup).1
    have hold := ih hnodup fun entry hentry => hmessages entry (mem_append_left _ hentry)
    rw [append_subset, cons_subset]
    refine ⟨hold, ?_, nil_subset _⟩
    obtain ⟨⟨info, size'⟩, hmem, rfl⟩ := mem_map.mp (hmessages (info, size) (by simp)).2
    -- Both sizes are computed from entries that the two orders share.
    have hsize' := h'.messageMaxWireSize_eq hmem
    have hcongr : messageMaxWireSize bounds (maxWireSize messages ordered) info =
        messageMaxWireSize bounds (maxWireSize messages' ordered') info := by
      refine messageMaxWireSize_congr fun name hname => ?_
      obtain ⟨⟨other, amount⟩, hother, rfl⟩ := mem_map.mp (hbefore name hname)
      have hin := (hmessages (other, amount) (mem_append_left _ hother)).1
      rw [maxWireSize_of_mem hnodup hother (mem_map_of_mem hin),
        maxWireSize_of_mem hnodup' (hold hother) (mem_map_of_mem ((hsame other).mp hin))]
    obtain rfl := Except.ok.inj (hsize.symm.trans (hcongr.trans hsize'))
    exact hmem

end Built

end Orders

/-! ## Passes -/

section Passes

variable {bounds : Bounds} {messages : List Message} {enums : List String} {s s' : Resolving}
  {copy : List Message}

/-- A message of which a pass computes the size. -/
def Resolving.Ready (s : Resolving) (info : Message) : Prop :=
  ∀ name ∈ info.dependencies, name ∈ s.emitted

/-- What holds between the steps of a pass. -/
structure ResolvingInv (bounds : Bounds) (messages : List Message) (enums : List String)
    (s : Resolving) : Prop where
  perm : (s.ordered.map Prod.fst ++ s.pending).Perm messages
  emitted : ∀ name, name ∈ s.emitted ↔ name ∈ s.ordered.names ∨ name ∈ enums
  built : Built bounds messages s.ordered

/-- The names of the enumerations are not those of messages. -/
def Separate (messages : List Message) (enums : List String) : Prop :=
  ∀ name ∈ enums, name ∉ messages.map Message.fullName

/-- A message that is ready moves from the pending ones to the end of the order. -/
theorem ResolvingInv.emit (h : ResolvingInv bounds messages enums s)
    (henums : Separate messages enums) {info : Message} {size : Nat} (hpending : info ∈ s.pending)
    (hready : s.Ready info)
    (hsize : messageMaxWireSize bounds (maxWireSize messages s.ordered) info = .ok size) :
    ResolvingInv bounds messages enums
      { emitted := info.fullName :: s.emitted
        pending := s.pending.erase info
        ordered := s.ordered ++ [(info, size)]
        progressed := true } where
  perm := by
    rw [map_append, append_assoc]
    exact ((perm_cons_erase hpending).symm.append_left _).trans h.perm
  emitted name := by
    have hlast : name ∈ Ordered.names [(info, size)] ↔ name = info.fullName := mem_singleton
    rw [names_append, mem_append, mem_cons, h.emitted, hlast]
    tauto
  built := by
    refine h.built.concat (fun name hname => ?_) hsize
    -- A name of an enumeration is none of a message, and only messages have a size.
    refine ((h.emitted name).mp (hready name hname)).resolve_right fun henum => ?_
    obtain ⟨amount, hamount⟩ := exists_sizeOf hsize hname
    rw [maxWireSize, if_neg (henums name henum)] at hamount
    cases hamount

/-- What a pass does: the pending messages get fewer or nothing at all has changed, because none
    of those in the copy is ready. -/
theorem ResolvingInv.pass (h : ResolvingInv bounds messages enums s)
    (henums : Separate messages enums) (hcopy : copy.Sublist s.pending)
    (hpass : resolvePass bounds messages copy s = .ok s') :
    ResolvingInv bounds messages enums s' ∧
      (s'.pending.length < s.pending.length ∧ s'.progressed = true ∨
        s' = s ∧ ∀ info ∈ copy, ¬s.Ready info) := by
  induction copy generalizing s with
  | nil =>
    cases hpass
    exact ⟨h, .inr ⟨rfl, nofun⟩⟩
  | cons info copy ih =>
    rw [resolvePass] at hpass
    split at hpass
    · rename_i hready
      obtain ⟨size, hsize, hpass⟩ := bind_eq_ok.mp hpass
      have hpending := hcopy.subset mem_cons_self
      have hlength := length_erase_add_one hpending
      have hrest : copy.Sublist (s.pending.erase info) := by
        simpa using hcopy.erase info
      obtain ⟨hinv, hcases⟩ := ih (h.emit henums hpending hready hsize) hrest hpass
      refine ⟨hinv, .inl ?_⟩
      rcases hcases with ⟨hless, hprogressed⟩ | ⟨rfl, -⟩
      · exact ⟨by dsimp only at hless; omega, hprogressed⟩
      · exact ⟨by dsimp only; omega, rfl⟩
    · rename_i hready
      obtain ⟨hinv, hcases⟩ := ih h ((sublist_cons_self ..).trans hcopy) hpass
      refine ⟨hinv, hcases.imp_right fun ⟨hsame, hnone⟩ => ⟨hsame, ?_⟩⟩
      exact forall_mem_cons.mpr ⟨hready, hnone⟩

/-- A pass over messages of the profile that refer to messages only does not fail. -/
theorem exists_resolvePass
    (hsizes : ∀ info ∈ copy, ∀ ordered, ∃ size,
      messageMaxWireSize bounds (maxWireSize messages ordered) info = .ok size) :
    ∃ s', resolvePass bounds messages copy s = .ok s' := by
  induction copy generalizing s with
  | nil => exact ⟨s, rfl⟩
  | cons info copy ih =>
    obtain ⟨hfirst, hrest⟩ := forall_mem_cons.mp hsizes
    rw [resolvePass]
    split
    · obtain ⟨size, hsize⟩ := hfirst s.ordered
      rw [hsize, ok_bind]
      exact ih hrest
    · exact ih hrest

/-- A field of the message `a` refers to `b`. -/
def Refers (messages : List Message) (a b : String) : Prop :=
  ∃ info ∈ messages, info.fullName = a ∧ b ∈ info.dependencies

/-- Every field of message type refers to a message. -/
def Closed (messages : List Message) : Prop :=
  ∀ a b, Refers messages a b → b ∈ messages.map Message.fullName

/-- No message refers to itself, directly or through others. -/
def Acyclic (messages : List Message) : Prop := ∀ a, ¬Relation.TransGen (Refers messages) a a

/-- Messages that wait, and not in a circle, wait for nothing but messages that have their size. -/
theorem ResolvingInv.exists_ready (h : ResolvingInv bounds messages enums s)
    (hne : s.pending ≠ []) (hclosed : Closed messages) (hacyclic : Acyclic messages) :
    ∃ info ∈ s.pending, s.Ready info := by
  obtain ⟨a, ha, hlast⟩ := Relation.exists_mem_forall_not hacyclic
    (l := s.pending.map Message.fullName) (by rwa [ne_eq, map_eq_nil_iff])
  obtain ⟨info, hinfo, rfl⟩ := mem_map.mp ha
  refine ⟨info, hinfo, fun name hname => ?_⟩
  have hrefers : Refers messages info.fullName name :=
    ⟨info, h.perm.subset (mem_append_right _ hinfo), rfl, hname⟩
  obtain ⟨other, hother, rfl⟩ := mem_map.mp (hclosed _ _ hrefers)
  rcases mem_append.mp (h.perm.symm.subset hother) with hordered | hpending
  · obtain ⟨entry, hentry, rfl⟩ := mem_map.mp hordered
    exact (h.emitted _).mpr (.inl (mem_map_of_mem hentry))
  · exact absurd hrefers (hlast _ (mem_map_of_mem hpending))

/-- What the loop may return: an order of all messages; and an error only if there is something
    wrong with the references. -/
structure LoopResult (bounds : Bounds) (messages : List Message)
    (result : Except Failure Ordered) : Prop where
  built : ∀ ordered, result = .ok ordered →
    Built bounds messages ordered ∧ (ordered.map Prod.fst).Perm messages
  succeeds : (∀ info ∈ messages, ∀ ordered, ∃ size,
      messageMaxWireSize bounds (maxWireSize messages ordered) info = .ok size) →
    Closed messages → Acyclic messages → ∃ ordered, result = .ok ordered

theorem ResolvingInv.loopResult (h : ResolvingInv bounds messages enums s) (hnil : s.pending = []) :
    LoopResult bounds messages (.ok s.ordered) where
  built := by
    rintro _ ⟨⟩
    have hperm := h.perm
    rw [hnil, append_nil] at hperm
    exact ⟨h.built, hperm⟩
  succeeds _ _ _ := ⟨_, rfl⟩

/-- The loop ends, because a pass that does not end it leaves fewer messages. -/
theorem ResolvingInv.exists_resolveLoop (h : ResolvingInv bounds messages enums s)
    (henums : Separate messages enums) {rounds : Nat} (hrounds : s.pending.length ≤ rounds) :
    ∃ result, resolveLoop bounds messages rounds s = some result ∧
      LoopResult bounds messages result := by
  induction rounds generalizing s with
  | zero =>
    have hnil := eq_nil_of_length_eq_zero (Nat.le_zero.mp hrounds)
    exact ⟨_, by rw [resolveLoop, if_pos hnil], h.loopResult hnil⟩
  | succ rounds ih =>
    rw [resolveLoop]
    by_cases hnil : s.pending = []
    · exact ⟨_, by rw [if_pos hnil], h.loopResult hnil⟩
    rw [if_neg hnil]
    have hstart : ResolvingInv bounds messages enums { s with progressed := false } :=
      ⟨h.perm, h.emitted, h.built⟩
    cases hpass : resolvePass bounds messages s.pending { s with progressed := false } with
    | error error =>
      refine ⟨_, rfl, nofun, fun hsizes _ _ => ?_⟩
      obtain ⟨s', hpass'⟩ := exists_resolvePass (s := { s with progressed := false })
        fun info hinfo => hsizes info (h.perm.subset (mem_append_right _ hinfo))
      cases hpass.symm.trans hpass'
    | ok s' =>
      obtain ⟨hinv, ⟨hless, hprogressed⟩ | ⟨rfl, hnone⟩⟩ :=
        hstart.pass henums (List.Sublist.refl _) hpass
      · dsimp only at hless ⊢
        rw [if_pos hprogressed]
        exact ih hinv (by omega)
      · refine ⟨_, rfl, nofun, fun _ hclosed hacyclic => ?_⟩
        obtain ⟨info, hinfo, hready⟩ := hstart.exists_ready hnil hclosed hacyclic
        exact absurd hready (hnone info hinfo)

end Passes

/-! ## The profile -/

section Profile

variable {bounds : Bounds} {types types' : List String} {files files' : List FileDescriptor}
  {file file' : FileDescriptor}

/-- The fields of a message pass their checks, and it declares nothing else. -/
structure SupportedMessage (bounds : Bounds) (types : List String) (package : String)
    (message : MessageDescriptor) : Prop where
  nested : message.nestedTypes = []
  enums : message.enumTypes = []
  oneofs : ∀ index < message.oneofDecls.length, oneofSupported message index
  fields : ∀ field ∈ message.fields,
    validateField bounds types (qualified package message.name) field = .ok ()

/-- What `_validate_profile` appends for a message. -/
def FileDescriptor.message (file : FileDescriptor) (message : MessageDescriptor) : Message :=
  { package := file.package, dialect := file.dialect, descriptor := message,
    fullName := qualified file.package message.name }

/-- All messages, file by file. -/
def declared (files : List FileDescriptor) : List Message :=
  files.flatMap fun file => file.messageTypes.map file.message

/-- The condition under which the profile check succeeds. -/
structure Profile (files : List FileDescriptor) (bounds : Bounds) : Prop where
  known : ∀ name ∈ bounds.map Prod.fst, name ∈ fieldNames files fun _ => true
  noAny : ∀ name, name ∉ fieldNames files fun field => field.typeName = ".google.protobuf.Any"
  proto3 : ∀ file ∈ files, file.dialect = "proto3"
  messages : ∀ file ∈ files, ∀ message ∈ file.messageTypes,
    SupportedMessage bounds (mapTypes files) file.package message
  services : ∀ file ∈ files, ∀ service ∈ file.services, ∀ method ∈ service.methods,
    ¬(method.clientStreaming ∨ method.serverStreaming) ∧
      ∀ type ∈ [method.inputType, method.outputType],
        lstripDots type ∈ (declared files).map Message.fullName

theorem validateMessage_eq_ok {message : MessageDescriptor} {info : Message} :
    validateMessage bounds types file.package file.dialect message = .ok info ↔
      SupportedMessage bounds types file.package message ∧ info = file.message message := by
  rw [validateMessage, seq_eq_ok, seq_eq_ok, seq_eq_ok, seq_eq_ok, pure_eq_ok, forM_eq_ok,
    require_eq_ok, require_eq_ok, require_eq_ok]
  constructor
  · rintro ⟨-, ⟨hnested, henums⟩, honeofs, hfields, rfl⟩
    exact ⟨⟨hnested, henums, honeofs, hfields⟩, rfl⟩
  · rintro ⟨⟨hnested, henums, honeofs, hfields⟩, rfl⟩
    exact ⟨by rw [hnested]; rfl, ⟨hnested, henums⟩, honeofs, hfields, rfl⟩

/-- The checks ask which names are those of map entries, not in which order they are. -/
theorem SupportedMessage.of_types {package : String} {message : MessageDescriptor}
    (h : SupportedMessage bounds types package message) (htypes : ∀ t, t ∈ types ↔ t ∈ types') :
    SupportedMessage bounds types' package message where
  nested := h.nested
  enums := h.enums
  oneofs := h.oneofs
  fields field hfield := by
    have hchecks := h.fields field hfield
    simp only [validateField, seq_eq_ok, require_eq_ok, htypes] at hchecks ⊢
    exact hchecks

theorem validateFile_eq_ok {infos : List Message} :
    validateFile bounds types file = .ok infos ↔
      (file.dialect = "proto3" ∧
        ∀ message ∈ file.messageTypes, SupportedMessage bounds types file.package message) ∧
      infos = file.messageTypes.map file.message := by
  rw [validateFile, seq_eq_ok, require_eq_ok, and_assoc,
    mapM_eq_ok_iff_map fun message info => validateMessage_eq_ok]

theorem validateMethod_eq_ok {names : List String} {service : String} {method : MethodDescriptor} :
    validateMethod names service method = .ok () ↔
      ¬(method.clientStreaming ∨ method.serverStreaming) ∧
        ∀ type ∈ [method.inputType, method.outputType], lstripDots type ∈ names := by
  rw [validateMethod, seq_eq_ok, require_eq_ok, forM_eq_ok]
  simp

theorem sortedNames_eq_nil {l : List String} : sortedNames l = [] ↔ ∀ name, name ∉ l := by
  rw [eq_nil_iff_forall_not_mem, sortedNames]
  simp only [mem_insertionSort, mem_dedup]

theorem mem_sortedFiles : file ∈ sortedFiles files ↔ file ∈ files := mem_insertionSort _

theorem declared_sortedFiles_perm (files : List FileDescriptor) :
    (declared (sortedFiles files)).Perm (declared files) :=
  (perm_insertionSort ..).flatMap_right _

theorem validateServices_eq_ok {names : List String} :
    validateServices files names = .ok () ↔
      ∀ file ∈ files, ∀ service ∈ file.services, ∀ method ∈ service.methods,
        ¬(method.clientStreaming ∨ method.serverStreaming) ∧
          ∀ type ∈ [method.inputType, method.outputType], lstripDots type ∈ names := by
  simp only [validateServices, forM_eq_ok, mem_sortedFiles, mem_insertionSort, validateMethod_eq_ok]

theorem validateProfile_eq_ok {messages : List Message} :
    validateProfile files bounds = .ok messages ↔
      Profile files bounds ∧ messages = declared (sortedFiles files) := by
  have hnames (name : String) : name ∈ (declared (sortedFiles files)).map Message.fullName ↔
      name ∈ (declared files).map Message.fullName :=
    ((declared_sortedFiles_perm files).map _).mem_iff
  have hmap (infos : List (List Message)) :
      infos = (sortedFiles files).map (fun file => file.messageTypes.map file.message) →
        infos.flatten = declared (sortedFiles files) := by
    rintro rfl
    rw [declared, flatMap_def]
  rw [validateProfile, seq_eq_ok, seq_eq_ok, bind_eq_ok, require_eq_ok, require_eq_ok,
    sortedNames_eq_nil, eq_nil_iff_forall_not_mem]
  simp only [seq_eq_ok, pure_eq_ok, validateServices_eq_ok,
    mapM_eq_ok_iff_map fun file infos => validateFile_eq_ok, mem_sortedFiles]
  constructor
  · rintro ⟨hknown, hany, infos, ⟨hfiles, hinfos⟩, hservices, rfl⟩
    rw [hmap infos hinfos] at hservices ⊢
    simp only [hnames] at hservices
    refine ⟨⟨fun name hname => ?_, hany, fun file hfile => (hfiles file hfile).1,
      fun file hfile => (hfiles file hfile).2, hservices⟩, rfl⟩
    have hknown := hknown name
    rw [mem_filter, decide_eq_true_iff] at hknown
    exact not_not.mp fun hnot => hknown ⟨hname, hnot⟩
  · rintro ⟨h, rfl⟩
    refine ⟨fun name hname => ?_, h.noAny, _,
      ⟨fun file hfile => ⟨h.proto3 file hfile, h.messages file hfile⟩, rfl⟩, ?_, hmap _ rfl⟩
    · rw [mem_filter, decide_eq_true_iff] at hname
      exact hname.2 (h.known name hname.1)
    · rw [hmap _ rfl]
      simp only [hnames]
      exact h.services

/-! ## Other orders of the input -/

/-- The same file with its messages in another order. -/
structure SameFile (file file' : FileDescriptor) : Prop where
  name : file.name = file'.name
  package : file.package = file'.package
  dialect : file.dialect = file'.dialect
  enumTypes : file.enumTypes = file'.enumTypes
  services : file.services = file'.services
  messageTypes : file.messageTypes.Perm file'.messageTypes

/-- The same files with their messages, in another order. -/
def Reordered (files files' : List FileDescriptor) : Prop :=
  ∃ middle, files.Perm middle ∧ List.Forall₂ SameFile middle files'

namespace Reordered

variable (h : Reordered files files')

include h

theorem forall_iff {p : FileDescriptor → Prop} (hp : ∀ f f', SameFile f f' → (p f ↔ p f')) :
    (∀ file ∈ files, p file) ↔ ∀ file ∈ files', p file := by
  obtain ⟨middle, hperm, hsame⟩ := h
  simp only [hperm.mem_iff]
  clear hperm
  induction hsame with
  | nil => rfl
  | cons hfirst _ ih => rw [forall_mem_cons, forall_mem_cons, hp _ _ hfirst, ih]

theorem flatMap_perm {β : Type} {g : FileDescriptor → List β}
    (hg : ∀ f f', SameFile f f' → (g f).Perm (g f')) :
    (files.flatMap g).Perm (files'.flatMap g) := by
  obtain ⟨middle, hperm, hsame⟩ := h
  refine (hperm.flatMap_right g).trans ?_
  clear hperm
  induction hsame with
  | nil => rfl
  | cons hfirst _ ih =>
    rw [flatMap_cons, flatMap_cons]
    exact (hg _ _ hfirst).append ih

theorem declared_perm : (declared files).Perm (declared files') := by
  refine h.flatMap_perm fun f f' hsame => ?_
  have hmessage : f.message = f'.message := by
    funext message
    rw [FileDescriptor.message, FileDescriptor.message, hsame.package, hsame.dialect]
  rw [hmessage]
  exact hsame.messageTypes.map _

theorem enumNames_perm : (enumNames files).Perm (enumNames files') :=
  h.flatMap_perm fun f f' hsame => by rw [hsame.package, hsame.enumTypes]

theorem fieldNames_perm (p : FieldDescriptor → Bool) :
    (fieldNames files p).Perm (fieldNames files' p) :=
  h.flatMap_perm fun f f' hsame => by
    rw [hsame.package]
    exact hsame.messageTypes.flatMap_right _

theorem mapTypes_perm : (mapTypes files).Perm (mapTypes files') :=
  h.flatMap_perm fun f f' hsame => by
    rw [hsame.package]
    exact hsame.messageTypes.flatMap_right _

/-- The profile does not depend on the order of files and messages. -/
theorem profile (hprofile : Profile files bounds) : Profile files' bounds where
  known name hname := (h.fieldNames_perm _).mem_iff.mp (hprofile.known name hname)
  noAny name hname := hprofile.noAny name ((h.fieldNames_perm _).mem_iff.mpr hname)
  proto3 := (h.forall_iff fun f f' hsame => by rw [hsame.dialect]).mp hprofile.proto3
  messages := by
    refine (h.forall_iff (p := fun file => ∀ message ∈ file.messageTypes,
      SupportedMessage bounds (mapTypes files') file.package message) fun f f' hsame => ?_).mp ?_
    · simp only [hsame.package, hsame.messageTypes.mem_iff]
    · exact fun file hfile message hmessage =>
        (hprofile.messages file hfile message hmessage).of_types fun _ => h.mapTypes_perm.mem_iff
  services := by
    have hservices := hprofile.services
    simp only [(h.declared_perm.map Message.fullName).mem_iff] at hservices
    exact (h.forall_iff fun f f' hsame => by rw [hsame.services]).mp hservices

end Reordered

end Profile

/-! ## The result -/

section Result

variable {bounds : Bounds} {messages messages' : List Message} {files files' : List FileDescriptor}

theorem maxWireSize_of_name {name : String} (h : name ∈ messages.map Message.fullName)
    (ordered : Ordered) : ∃ size, maxWireSize messages ordered name = .ok size :=
  ⟨_, if_pos h⟩

/-- The fields of the messages of a profile passed their checks. -/
theorem Profile.validateField (h : Profile files bounds) {info : Message}
    (hinfo : info ∈ declared files) {field : FieldDescriptor}
    (hfield : field ∈ info.descriptor.fields) :
    Protobuf.validateField bounds (mapTypes files) info.fullName field = .ok () := by
  obtain ⟨file, hfile, hinfo⟩ := mem_flatMap.mp hinfo
  obtain ⟨message, hmessage, rfl⟩ := mem_map.mp hinfo
  exact (h.messages file hfile message hmessage).fields field hfield

/-- The loop over the messages of a profile, when enumerations have names of their own. -/
theorem exists_resolveMessageSizes (hprofile : validateProfile files bounds = .ok messages)
    (henums : Separate messages (enumNames files)) :
    ∃ result, resolveMessageSizes files bounds = some result ∧
      LoopResult bounds messages result := by
  rw [resolveMessageSizes, hprofile]
  have hstart : ResolvingInv bounds messages (enumNames files)
      { emitted := enumNames files, pending := messages } :=
    ⟨.refl _, fun _ => by simp [Ordered.names], .nil⟩
  exact hstart.exists_resolveLoop henums le_rfl

theorem sizes_of_closed (hprofile : validateProfile files bounds = .ok messages)
    (hclosed : Closed messages) {info : Message} (hinfo : info ∈ messages) (ordered : Ordered) :
    ∃ size, messageMaxWireSize bounds (maxWireSize messages ordered) info = .ok size := by
  obtain ⟨hsupported, rfl⟩ := validateProfile_eq_ok.mp hprofile
  have hdeclared := (declared_sortedFiles_perm files).subset hinfo
  exact exists_messageMaxWireSize (fun field hfield => hsupported.validateField hdeclared hfield)
    fun name hname => maxWireSize_of_name (hclosed _ _ ⟨info, hinfo, rfl, hname⟩) ordered

section Built

variable {ordered : Ordered} (hbuilt : Built bounds messages ordered)
  (hperm : (ordered.map Prod.fst).Perm messages)

include hperm

theorem names_perm : ordered.names.Perm (messages.map Message.fullName) := by
  simpa [Ordered.names, Function.comp_def] using hperm.map Message.fullName

theorem exists_size {info : Message} (hinfo : info ∈ messages) :
    ∃ size, (info, size) ∈ ordered := by
  obtain ⟨⟨info, size⟩, hmem, rfl⟩ := mem_map.mp (hperm.symm.subset hinfo)
  exact ⟨size, hmem⟩

include hbuilt

/-- In an order of all messages every message comes after those it refers to. -/
theorem idxOf_lt_of_refers (hnodup : (messages.map Message.fullName).Nodup) {a b : String}
    (h : Refers messages a b) : ordered.names.idxOf b < ordered.names.idxOf a := by
  obtain ⟨info, hinfo, rfl, hb⟩ := h
  obtain ⟨size, hmem⟩ := exists_size hperm hinfo
  exact hbuilt.idxOf_lt ((names_perm hperm).nodup_iff.mpr hnodup) hmem hb

/-- So no reference leads into nothing or into a circle. -/
theorem closed_and_acyclic (hnodup : (messages.map Message.fullName).Nodup) :
    Closed messages ∧ Acyclic messages := by
  constructor
  · intro a b hrefers
    have hlt := idxOf_lt_of_refers hbuilt hperm hnodup hrefers
    exact (names_perm hperm).subset
      (idxOf_lt_length_iff.mp (hlt.trans_le idxOf_le_length))
  · intro a hcycle
    exact lt_irrefl _
      (hcycle.rank_lt fun _ _ hrefers => idxOf_lt_of_refers hbuilt hperm hnodup hrefers)

end Built

theorem succeeds_iff (hprofile : validateProfile files bounds = .ok messages)
    (hnodup : (messages.map Message.fullName).Nodup)
    (henums : Separate messages (enumNames files)) :
    (∃ ordered, resolveMessageSizes files bounds = some (.ok ordered)) ↔
      Closed messages ∧ Acyclic messages := by
  obtain ⟨result, hresult, hloop⟩ := exists_resolveMessageSizes hprofile henums
  rw [hresult]
  constructor
  · rintro ⟨ordered, hordered⟩
    obtain ⟨hbuilt, hperm⟩ := hloop.built ordered (Option.some.inj hordered)
    exact closed_and_acyclic hbuilt hperm hnodup
  · rintro ⟨hclosed, hacyclic⟩
    obtain ⟨ordered, rfl⟩ := hloop.succeeds
      (fun info hinfo ordered => sizes_of_closed hprofile hclosed hinfo ordered) hclosed hacyclic
    exact ⟨ordered, rfl⟩

/-- The references depend on the set of the messages. -/
theorem refers_congr (h : messages.Perm messages') : Refers messages = Refers messages' := by
  funext a b
  simp only [Refers, h.mem_iff]

/-- The files in another order, with their messages in another order, give the same sizes. -/
theorem resolveMessageSizes_reordered (hprofile : validateProfile files bounds = .ok messages)
    (hnodup : (messages.map Message.fullName).Nodup)
    (henums : Separate messages (enumNames files)) {ordered : Ordered}
    (hordered : resolveMessageSizes files bounds = some (.ok ordered))
    (h : Reordered files files') :
    ∃ ordered', resolveMessageSizes files' bounds = some (.ok ordered') ∧
      ordered'.Perm ordered := by
  obtain ⟨hsupported, hmessages⟩ := validateProfile_eq_ok.mp hprofile
  have hprofile' := validateProfile_eq_ok.mpr ⟨h.profile hsupported, rfl⟩
  have hperm : messages.Perm (declared (sortedFiles files')) := by
    rw [hmessages]
    exact (declared_sortedFiles_perm files).trans
      (h.declared_perm.trans (declared_sortedFiles_perm files').symm)
  have hnames := hperm.map Message.fullName
  have hnodup' := hnames.nodup_iff.mp hnodup
  have henums' : Separate (declared (sortedFiles files')) (enumNames files') := by
    intro name hname hmem
    exact henums name (h.enumNames_perm.mem_iff.mpr hname) (hnames.mem_iff.mpr hmem)
  have hsucceeds' : Closed (declared (sortedFiles files')) ∧
      Acyclic (declared (sortedFiles files')) := by
    have hsucceeds := (succeeds_iff hprofile hnodup henums).mp ⟨ordered, hordered⟩
    simpa only [Closed, Acyclic, refers_congr hperm, hnames.mem_iff] using hsucceeds
  obtain ⟨ordered', hordered'⟩ := (succeeds_iff hprofile' hnodup' henums').mpr hsucceeds'
  refine ⟨ordered', hordered', ?_⟩
  -- Each of the two orders is part of the other.
  obtain ⟨result, hresult, hloop⟩ := exists_resolveMessageSizes hprofile henums
  obtain ⟨result', hresult', hloop'⟩ := exists_resolveMessageSizes hprofile' henums'
  obtain ⟨hbuilt, hall⟩ := hloop.built ordered (Option.some.inj (hresult.symm.trans hordered))
  obtain ⟨hbuilt', hall'⟩ :=
    hloop'.built ordered' (Option.some.inj (hresult'.symm.trans hordered'))
  have hnodups := (names_perm hall).nodup_iff.mpr hnodup
  have hnodups' := (names_perm hall').nodup_iff.mpr hnodup'
  rw [perm_ext_iff_of_nodup (.of_map _ hnodups') (.of_map _ hnodups)]
  have hsame (info : Message) : info ∈ ordered.map Prod.fst ↔ info ∈ ordered'.map Prod.fst := by
    rw [hall.mem_iff, hall'.mem_iff, hperm.mem_iff]
  refine fun entry => ⟨fun hentry => ?_, fun hentry => ?_⟩
  · refine hbuilt'.subset hbuilt hnodups' hnodups (fun entry hentry => ?_)
      (fun _ => hperm.mem_iff.symm) hentry
    have hmem := mem_map_of_mem (f := Prod.fst) hentry
    exact ⟨hall'.subset hmem, (hsame _).mpr hmem⟩
  · refine hbuilt.subset hbuilt' hnodups hnodups' (fun entry hentry => ?_)
      (fun _ => hperm.mem_iff) hentry
    have hmem := mem_map_of_mem (f := Prod.fst) hentry
    exact ⟨hall.subset hmem, (hsame _).mp hmem⟩

/-- For every descriptor set and bounds that pass the profile check, with different names for the
    messages and for the enumerations: the loop ends; it succeeds exactly if every field of
    message type refers to a message and no references form a circle; the order has every message
    once, behind those it refers to; every size is computed from sizes that stay as they are; and
    the same files with their messages in another order get the same sizes. -/
theorem message_order (hprofile : validateProfile files bounds = .ok messages)
    (hnodup : (messages.map Message.fullName).Nodup)
    (henums : Separate messages (enumNames files)) :
    (∃ result, resolveMessageSizes files bounds = some result) ∧
    ((∃ ordered, resolveMessageSizes files bounds = some (.ok ordered)) ↔
      Closed messages ∧ Acyclic messages) ∧
    ∀ ordered, resolveMessageSizes files bounds = some (.ok ordered) →
      (ordered.map Prod.fst).Perm messages ∧
      (∀ before info size after, ordered = before ++ (info, size) :: after →
        (∀ name ∈ info.dependencies, name ∈ Ordered.names before) ∧
        messageMaxWireSize bounds (maxWireSize messages before) info = .ok size ∧
        messageMaxWireSize bounds (maxWireSize messages ordered) info = .ok size) ∧
      ∀ files', Reordered files files' → ∃ ordered',
        resolveMessageSizes files' bounds = some (.ok ordered') ∧ ordered'.Perm ordered := by
  obtain ⟨result, hresult, hloop⟩ := exists_resolveMessageSizes hprofile henums
  refine ⟨⟨result, hresult⟩, succeeds_iff hprofile hnodup henums, fun ordered hordered => ?_⟩
  obtain ⟨hbuilt, hperm⟩ := hloop.built ordered (Option.some.inj (hresult.symm.trans hordered))
  refine ⟨hperm, fun before info size after heq => ?_, fun files' hfiles' =>
    resolveMessageSizes_reordered hprofile hnodup henums hordered hfiles'⟩
  obtain ⟨hbefore, hsize⟩ := hbuilt.of_append heq
  exact ⟨hbefore, hsize, hbuilt.messageMaxWireSize_eq (heq ▸ by simp)⟩

def robotPose : MessageDescriptor :=
  { name := "Pose", fields := [{ name := "angle", number := 1, type := .double }] }

def robotState : MessageDescriptor :=
  { name := "State"
    fields :=
      [{ name := "pose", number := 1, type := .message, typeName := ".robot.Pose" },
       { name := "label", number := 2, type := .string }] }

def robotFile : FileDescriptor :=
  { name := "robot.proto", package := "robot", messageTypes := [robotState, robotPose] }

/-- The state comes behind the pose that it contains. -/
theorem robotFile_order :
    resolveMessageSizes [robotFile] [("robot.State.label", { maxSize := some 16 })] =
        some (.ok [(robotFile.message robotPose, 9), (robotFile.message robotState, 29)]) ∧
      Acyclic (declared [robotFile]) := by
  have hprofile : validateProfile [robotFile] [("robot.State.label", { maxSize := some 16 })] =
      .ok (declared [robotFile]) := by
    decide +kernel
  have hresult : resolveMessageSizes [robotFile] [("robot.State.label", { maxSize := some 16 })] =
      some (.ok [(robotFile.message robotPose, 9), (robotFile.message robotState, 29)]) := by
    decide +kernel
  obtain ⟨-, hsucceeds, -⟩ := message_order hprofile (by decide +kernel) nofun
  exact ⟨hresult, (hsucceeds.mp ⟨_, hresult⟩).2⟩

/-! ## An enumeration with the name of a message -/

def hiddenNode : MessageDescriptor :=
  { name := "Node"
    fields := [{ name := "next", number := 1, type := .message, typeName := ".Node" }] }

def hiddenFile : FileDescriptor :=
  { name := "node.proto", messageTypes := [hiddenNode], enumTypes := ["Node"] }

/-- The enumeration is taken for the message, whose size is still zero: a message that contains
    itself gets a size. -/
theorem hiddenFile_succeeds :
    validateProfile [hiddenFile] [] = .ok (declared [hiddenFile]) ∧
      ((declared [hiddenFile]).map Message.fullName).Nodup ∧
      resolveMessageSizes [hiddenFile] [] = some (.ok [(hiddenFile.message hiddenNode, 2)]) ∧
      ¬Acyclic (declared [hiddenFile]) := by
  refine ⟨by decide +kernel, by decide +kernel, by decide +kernel, fun hacyclic => ?_⟩
  refine hacyclic "Node" (.single ⟨hiddenFile.message hiddenNode, ?_, ?_, ?_⟩)
  · exact List.mem_singleton.mpr rfl
  · decide +kernel
  · decide +kernel

end Result

end AsterCtrl.Cli.Protobuf

import AsterCtrl.Native.Cli.Graph
import Mathlib.Algebra.GroupWithZero.Nat

/-!
# The bounded protobuf profile

The part of `protobuf.py` that decides which descriptor sets are supported and how large the
messages can get: `_validate_profile` with the checks it calls, `_message_max_wire_size` and
`_resolve_message_sizes`.  `ProtobufProfileError` is a `ValueError`.

The objects of `messages_by_name` are those of `messages`.  Their full names are different from
each other, so an object stands for its name, and its `max_wire_size` is what the list of ordered
messages says about it, or zero before it is there.

Left out: the C++ types that `_field_type` returns, and the services that `_validate_services`
returns.
-/

namespace AsterCtrl.Cli.Protobuf

open Except (require)

/-! ## Descriptors -/

inductive FieldType where
  | double | float | int64 | uint64 | int32 | fixed64 | fixed32 | bool | string | group
  | message | bytes | uint32 | enum | sfixed32 | sfixed64 | sint32 | sint64
deriving DecidableEq, Repr

inductive Label where
  | optional | required | repeated
deriving DecidableEq, Repr

structure FieldDescriptor where
  name : String
  number : Int
  label : Label := .optional
  type : FieldType
  typeName : String := ""
  oneofIndex : Option Int := none
  proto3Optional : Bool := false
  /-- `options.packed`, if it is set. -/
  packed : Option Bool := none
deriving DecidableEq, Repr

structure NestedDescriptor where
  name : String
  mapEntry : Bool
deriving DecidableEq, Repr

structure MessageDescriptor where
  name : String
  fields : List FieldDescriptor := []
  nestedTypes : List NestedDescriptor := []
  enumTypes : List String := []
  oneofDecls : List String := []
deriving DecidableEq, Repr

structure MethodDescriptor where
  name : String
  inputType : String
  outputType : String
  clientStreaming : Bool := false
  serverStreaming : Bool := false
deriving DecidableEq, Repr

structure ServiceDescriptor where
  name : String
  methods : List MethodDescriptor
deriving DecidableEq, Repr

structure FileDescriptor where
  name : String
  package : String := ""
  /-- `syntax`. -/
  dialect : String := "proto3"
  messageTypes : List MessageDescriptor := []
  enumTypes : List String := []
  services : List ServiceDescriptor := []
deriving DecidableEq, Repr

/-- The bounds of one field. -/
structure Bound where
  maxCount : Option Nat := none
  maxSize : Option Nat := none
deriving DecidableEq, Repr

abbrev Bounds := List (String × Bound)

/-- `bounds.get(name, {})`. -/
def Bounds.get (bounds : Bounds) (name : String) : Bound := (bounds.lookup name).getD {}

/-- `_Message`, but for its size. -/
structure Message where
  package : String
  dialect : String
  descriptor : MessageDescriptor
  fullName : String
deriving DecidableEq, Repr

/-- `_qualified` without a field. -/
def qualified (package message : String) : String :=
  ".".intercalate ([package, message].filter (· ≠ ""))

/-- `_qualified` with a field. -/
def qualifiedField (package message field : String) : String :=
  if field = "" then qualified package message else qualified package message ++ "." ++ field

variable (field : FieldDescriptor)

/-- The name under which the bounds have a field. -/
def FieldDescriptor.boundName (fullName : String) : String :=
  s!"{fullName}.{field.name}"

/-- `value.lstrip(".")`. -/
def lstripDots (value : String) : String := String.ofList (value.toList.dropWhile (· = '.'))

variable (files : List FileDescriptor)

/-- `sorted(descriptor.file, key=lambda item: item.name)`. -/
def sortedFiles : List FileDescriptor :=
  files.insertionSort fun a b => a.name ≤ b.name

/-! ## The profile -/

/-- `_SCALARS`. -/
def FieldType.isScalar : FieldType → Bool
  | .string | .group | .message | .bytes | .enum => false
  | _ => true

/-- `_field_type` knows the type, and a string or bytes have a bound. -/
def itemType (bound : Bound) (name : String) : Except Failure Unit :=
  if field.type.isScalar ∨ field.type = .enum ∨ field.type = .message then .ok ()
  else if field.type = .string then
    require (bound.maxSize ≠ none)
      (.valueError s!"unbounded string field {quoted name}; set max_size")
  else if field.type = .bytes then
    require (bound.maxSize ≠ none)
      (.valueError s!"unbounded bytes field {quoted name}; set max_size")
  else .error (.valueError s!"field {quoted name} uses unsupported protobuf type")

/-- The checks of `_field_type`. -/
def fieldType (bound : Bound) (name : String) : Except Failure Unit := do
  itemType field bound name
  require (bound.maxSize = none ∨ field.type = .string ∨ field.type = .bytes)
    (.valueError s!"non-string/bytes field {quoted name} cannot set max_size")
  if field.label = .repeated then
    require (bound.maxCount ≠ none)
      (.valueError s!"unbounded repeated field {quoted name}; set max_count")
  else
    require (bound.maxCount = none)
      (.valueError s!"non-repeated field {quoted name} cannot set max_count")

/-- The checks of one field in `_validate_profile`. -/
def validateField (bounds : Bounds) (mapTypes : List String) (fullName : String)
    (field : FieldDescriptor) : Except Failure Unit := do
  let fieldName := field.boundName fullName
  require (field.label ≠ .required) (.valueError s!"required fields are not supported: {fieldName}")
  require (field.type ≠ .group) (.valueError s!"groups are not supported: {fieldName}")
  require (lstripDots field.typeName ∉ mapTypes)
    (.valueError s!"map fields are not supported: {fieldName}")
  fieldType field (bounds.get fieldName) fieldName

/-- The members of a `oneof` are one field that is `optional`. -/
def oneofSupported (message : MessageDescriptor) (index : Nat) : Bool :=
  match message.fields.filter fun field => field.oneofIndex = some (index : Int) with
  | [member] => member.proto3Optional
  | _ => false

/-- The checks of one message in `_validate_profile`. -/
def validateMessage (bounds : Bounds) (mapTypes : List String) (package dialect : String)
    (message : MessageDescriptor) : Except Failure Message := do
  let fullName := qualified package message.name
  require (message.nestedTypes.all fun nested => !nested.mapEntry)
    (.valueError s!"map fields are not supported: {fullName}")
  require (message.nestedTypes = [] ∧ message.enumTypes = [])
    (.valueError s!"nested declarations are not supported: {fullName}")
  require (∀ index < message.oneofDecls.length, oneofSupported message index)
    (.valueError s!"oneof is not supported: {fullName}")
  message.fields.forM (validateField bounds mapTypes fullName)
  pure { package, dialect, descriptor := message, fullName }

/-- The checks of one file in `_validate_profile`. -/
def validateFile (bounds : Bounds) (mapTypes : List String) (file : FileDescriptor) :
    Except Failure (List Message) := do
  let shown := if file.name = "" then "<unknown>" else file.name
  require (file.dialect = "proto3") (.valueError
    ("only proto3 is supported; proto2 and required fields are outside " ++
      s!"the bounded profile: {shown}"))
  file.messageTypes.mapM (validateMessage bounds mapTypes file.package file.dialect)

def validateMethod (names : List String) (service : String) (method : MethodDescriptor) :
    Except Failure Unit := do
  let methodName := s!"{service}.{method.name}"
  let kind :=
    if method.clientStreaming ∧ method.serverStreaming then "bidirectional-streaming"
    else if method.clientStreaming then "client-streaming" else "server-streaming"
  require (¬(method.clientStreaming ∨ method.serverStreaming))
    (.valueError s!"{kind} RPC is not supported: {methodName}")
  [("request", method.inputType), ("response", method.outputType)].forM fun (role, typeName) =>
    require (lstripDots typeName ∈ names)
      (.valueError s!"RPC {methodName} uses unsupported {role} type {typeName}")

/-- `_validate_services`. -/
def validateServices (names : List String) : Except Failure Unit :=
  (sortedFiles files).forM fun file =>
    (file.services.insertionSort fun a b => a.name ≤ b.name).forM fun service =>
      service.methods.forM (validateMethod names (qualified file.package service.name))

/-- The fields of all messages for which a condition holds. -/
def fieldNames (p : FieldDescriptor → Bool) : List String :=
  files.flatMap fun file => file.messageTypes.flatMap fun message =>
    (message.fields.filter p).map fun field => qualifiedField file.package message.name field.name

/-- `map_types`. -/
def mapTypes : List String :=
  files.flatMap fun file => file.messageTypes.flatMap fun message =>
    (message.nestedTypes.filter NestedDescriptor.mapEntry).map fun nested =>
      qualified file.package s!"{message.name}.{nested.name}"

/-- `_validate_profile`. -/
def validateProfile (bounds : Bounds) : Except Failure (List Message) := do
  let unknown := sortedNames
    ((bounds.map Prod.fst).filter (· ∉ fieldNames files fun _ => true))
  require (unknown = []) (.valueError s!"bounds reference unknown fields: {joined unknown}")
  let anyFields := fieldNames files fun field => field.typeName = ".google.protobuf.Any"
  require (anyFields = [])
    (.valueError s!"Any is not supported: {joined (anyFields.insertionSort (· ≤ ·))}")
  let messages ← (sortedFiles files).mapM (validateFile bounds (mapTypes files))
  validateServices files (messages.flatten.map Message.fullName)
  pure messages.flatten

/-! ## Sizes -/

/-- `_VARINT_TYPES`. -/
def FieldType.isVarint : FieldType → Bool
  | .int32 | .int64 | .uint32 | .uint64 | .sint32 | .sint64 | .bool | .enum => true
  | _ => false

/-- `_FIXED32_TYPES`. -/
def FieldType.isFixed32 : FieldType → Bool
  | .fixed32 | .sfixed32 | .float => true
  | _ => false

/-- `_FIXED64_TYPES`. -/
def FieldType.isFixed64 : FieldType → Bool
  | .fixed64 | .sfixed64 | .double => true
  | _ => false

/-- `_PACKABLE_TYPES`. -/
def FieldType.isPackable (type : FieldType) : Bool :=
  type.isVarint || type.isFixed32 || type.isFixed64

/-- `_varint_size`. -/
def varintSize (value : Nat) : Nat := if 0x80 ≤ value then varintSize (value / 2 ^ 7) + 1 else 1

/-- `_scalar_max_size`. -/
def scalarMaxSize (type : FieldType) : Except Failure Nat :=
  match type with
  | .int32 | .int64 | .uint64 | .enum => .ok 10
  | .uint32 | .sint32 => .ok 5
  | .sint64 => .ok 10
  | .bool => .ok 1
  | type =>
    if type.isFixed32 then .ok 4
    else if type.isFixed64 then .ok 8
    else .error (.valueError "unsupported scalar protobuf type")

/-- `_wire_type`. -/
def wireType (type : FieldType) : Except Failure Nat :=
  if type.isVarint then .ok 0
  else if type.isFixed64 then .ok 1
  else if type = .string ∨ type = .bytes ∨ type = .message then .ok 2
  else if type.isFixed32 then .ok 5
  else .error (.valueError "unsupported protobuf wire type")

/-- `_is_packed`. -/
def isPacked (dialect : String) : Bool :=
  field.label = .repeated ∧ field.type.isPackable ∧ field.packed.getD (dialect = "proto3")

/-- What a packable field adds to the size of its message. -/
def scalarFieldSize (dialect : String) (bound : Bound) (field : FieldDescriptor) (tagSize : Nat) :
    Except Failure Nat := do
  let itemSize ← scalarMaxSize field.type
  if field.label = .repeated then
    let count ← getKey bound.maxCount "max_count"
    if isPacked field dialect then
      pure (tagSize + varintSize (count * itemSize) + count * itemSize)
    else pure (count * (tagSize + itemSize))
  else pure (tagSize + itemSize)

/-- The size of the contents of a string, of bytes or of a message. -/
def payloadSize (bound : Bound) (sizeOf : String → Except Failure Nat) (field : FieldDescriptor) :
    Except Failure Nat :=
  if field.type = .string ∨ field.type = .bytes then getKey bound.maxSize "max_size"
  else sizeOf (lstripDots field.typeName)

/-- What a field adds to the size of its message. -/
def fieldSize (dialect : String) (bound : Bound) (sizeOf : String → Except Failure Nat)
    (field : FieldDescriptor) : Except Failure Nat := do
  let wire ← wireType field.type
  -- `(field.number << 3) | wire_type`; the size of a negative number is one.
  let tagSize := varintSize (field.number * 8 + wire).toNat
  if field.type.isPackable then scalarFieldSize dialect bound field tagSize
  else
    let payload ← payloadSize bound sizeOf field
    pure (bound.maxCount.getD 1 * (tagSize + varintSize payload + payload))

/-- `_message_max_wire_size`. -/
def messageMaxWireSize (bounds : Bounds) (sizeOf : String → Except Failure Nat) (info : Message) :
    Except Failure Nat := do
  let sizes ← info.descriptor.fields.mapM fun field =>
    fieldSize info.dialect (bounds.get (field.boundName info.fullName)) sizeOf field
  pure (max sizes.sum 1)

/-! ## The order of the messages -/

/-- The messages that have their size, in the order in which they got it. -/
abbrev Ordered := List (Message × Nat)

def Ordered.names (ordered : Ordered) : List String := ordered.map fun entry => entry.1.fullName

/-- `messages_by_name[name].max_wire_size`. -/
def maxWireSize (messages : List Message) (ordered : Ordered) (name : String) :
    Except Failure Nat :=
  if name ∈ messages.map Message.fullName then
    .ok (((ordered.find? fun entry => entry.1.fullName = name).map Prod.snd).getD 0)
  else .error (.keyError name)

/-- The messages that the fields of a message refer to. -/
def Message.dependencies (info : Message) : List String :=
  (info.descriptor.fields.filter fun field => field.type = .message).map fun field =>
    lstripDots field.typeName

/-- The variables of `_resolve_message_sizes`. -/
structure Resolving where
  emitted : List String
  pending : List Message
  ordered : Ordered := []
  progressed : Bool := false
deriving DecidableEq, Repr

/-- The inner loop of `_resolve_message_sizes`, over a copy of `pending`. -/
def resolvePass (bounds : Bounds) (messages : List Message) :
    List Message → Resolving → Except Failure Resolving
  | [], s => .ok s
  | info :: copy, s =>
    if ∀ name ∈ info.dependencies, name ∈ s.emitted then do
      let size ← messageMaxWireSize bounds (maxWireSize messages s.ordered) info
      resolvePass bounds messages copy
        { emitted := info.fullName :: s.emitted
          pending := s.pending.erase info
          ordered := s.ordered ++ [(info, size)]
          progressed := true }
    else resolvePass bounds messages copy s

/-- The outer loop of `_resolve_message_sizes`; `none` if it has not ended after some rounds. -/
def resolveLoop (bounds : Bounds) (messages : List Message) :
    (rounds : Nat) → Resolving → Option (Except Failure Ordered)
  | rounds, s =>
    if s.pending = [] then some (.ok s.ordered)
    else
      match rounds with
      | 0 => none
      | rounds + 1 =>
        match resolvePass bounds messages s.pending { s with progressed := false } with
        | .error error => some (.error error)
        | .ok s =>
          if s.progressed then resolveLoop bounds messages rounds s
          else
            let names := joined (s.pending.map Message.fullName)
            some (.error
              (.valueError s!"recursive or unresolved messages are not bounded: {names}"))

/-- The full names of the enumerations. -/
def enumNames : List String :=
  files.flatMap fun file => file.enumTypes.map (qualified file.package)

/-- `_resolve_message_sizes`. -/
def resolveMessageSizes (bounds : Bounds) : Option (Except Failure Ordered) :=
  match validateProfile files bounds with
  | .error error => some (.error error)
  | .ok messages =>
    resolveLoop bounds messages messages.length { emitted := enumNames files, pending := messages }

end AsterCtrl.Cli.Protobuf

import AsterCtrl.Native.Interface

/-!
# Names of channels and services

`NameResolver` of `name_resolver.hpp`, which expands a name by the namespace of an instance and
remaps it once, and `ResolveInstanceName` of `name_resolution.hpp`, which gives it the storage.  A
`std::string_view` is the list of its bytes.  `Resolve` works in a buffer that the caller provides;
its result is the front of that buffer.

Left out: the rest of `ModuleConfig`.
-/

namespace AsterCtrl

def slash : UInt8 := '/'.toUInt8
def dot : UInt8 := '.'.toUInt8

structure NameRemap where
  source : List UInt8
  target : List UInt8
deriving DecidableEq, Repr

/-- The characters of the parts of a name. -/
def isNameChar (c : UInt8) : Bool :=
  ('a'.toUInt8 ≤ c ∧ c ≤ 'z'.toUInt8) ∨ ('A'.toUInt8 ≤ c ∧ c ≤ 'Z'.toUInt8) ∨
    ('0'.toUInt8 ≤ c ∧ c ≤ '9'.toUInt8) ∨ c = '_'.toUInt8 ∨ c = '-'.toUInt8 ∨ c = dot

/-- The check of `ValidName` on one part of the name. -/
def validPart (part : List UInt8) : Bool :=
  if part = [] ∨ part = [dot] ∨ part = [dot, dot] then false else part.all isNameChar

/-- The loop of `ValidName` over the parts; every round takes one character at least, so `fuel` is a
    bound on the length of the name. -/
def validParts : (fuel : Nat) → (name : List UInt8) → name.length ≤ fuel → Bool
  | _, [], _ => true
  | fuel + 1, c :: name, hfuel =>
    match (c :: name).findIdx? (· = slash) with
    | none => validPart (c :: name)
    | some index =>
      if validPart ((c :: name).take index) = false then false
      else validParts fuel (name.drop index) <|
        Nat.le_trans (by rw [List.length_drop]; exact Nat.sub_le _ _) (Nat.le_of_succ_le_succ hfuel)

/-- `NameResolver::ValidName`. -/
def validName (name : List UInt8) : Bool :=
  if name = [] ∨ name.getLast? = some slash then false
  else
    let name := if name.head? = some slash then name.drop 1 else name
    validParts name.length name (Nat.le_refl _)

structure NameResolver where
  /-- The namespace as it is given to the constructor. -/
  given : List UInt8
  remaps : List NameRemap
deriving DecidableEq, Repr

namespace NameResolver

/-- `namespace_`. -/
def nameSpace (resolver : NameResolver) : List UInt8 :=
  if resolver.given = [] then [slash] else resolver.given

/-- The loop of `Validate`; `before` are the remaps that it has passed. -/
def validateRemaps (before : List NameRemap) : List NameRemap → Status
  | [] => .ok
  | rule :: rest =>
    if validName rule.source = false ∨ validName rule.target = false ∨
        rule.source.head? ≠ some slash ∨ rule.target.head? ≠ some slash then
      .invalidArgument
    else if before.any fun earlier => earlier.source = rule.source then .alreadyExists
    else validateRemaps (before ++ [rule]) rest

/-- `NameResolver::Validate`. -/
def validate (resolver : NameResolver) : Status :=
  if resolver.nameSpace ≠ [slash] ∧
      (validName resolver.nameSpace = false ∨ resolver.nameSpace.head? ≠ some slash) then
    .invalidArgument
  else validateRemaps [] resolver.remaps

/-- `std::copy` to `offset` in a buffer. -/
def copyTo (buffer : List UInt8) (offset : Nat) (bytes : List UInt8) : List UInt8 :=
  buffer.take offset ++ bytes ++ buffer.drop (offset + bytes.length)

/-- `NameResolver::Resolve`: the size of the result, or an error, and the buffer. -/
def resolve (resolver : NameResolver) (name storage : List UInt8) :
    Except Status Nat × List UInt8 :=
  let status := resolver.validate
  if status ≠ .ok then (.error status, storage)
  else if validName name = false then (.error .invalidArgument, storage)
  else
    let start := if name.head? = some slash then [] else resolver.nameSpace
    let separator := if start ≠ [] ∧ start.getLast? ≠ some slash then 1 else 0
    if start.length > storage.length ∨ separator > storage.length - start.length ∨
        name.length > storage.length - start.length - separator then
      (.error .capacityExceeded, storage)
    else
      let storage := copyTo storage 0 start
      let storage := if separator = 1 then copyTo storage start.length [slash] else storage
      let storage := copyTo storage (start.length + separator) name
      let size := start.length + separator + name.length
      match resolver.remaps.find? fun rule => storage.take size = rule.source with
      | some rule =>
        if rule.target.length > storage.length then (.error .capacityExceeded, storage)
        else (.ok rule.target.length, copyTo storage 0 rule.target)
      | none => (.ok size, storage)

end NameResolver

/-- The part of `ModuleConfig` that names are resolved with. -/
structure NameConfig where
  nameSpace : List UInt8
  remap : List (List UInt8 × List UInt8)
deriving DecidableEq, Repr

/-- The capacity that `ResolveInstanceName` asks for. -/
def NameConfig.capacity (config : NameConfig) (requested : List UInt8) : Nat :=
  config.remap.foldl (fun capacity entry => max capacity entry.2.length)
    (config.nameSpace.length + requested.length + 1)

/-- `ResolveInstanceName`. -/
def resolveInstanceName (config : NameConfig) (requested : List UInt8) :
    Except Status (List UInt8) :=
  let output := List.replicate (config.capacity requested) 0
  let resolver : NameResolver := ⟨config.nameSpace, config.remap.map fun entry => ⟨entry.1, entry.2⟩⟩
  match resolver.resolve requested output with
  | (.error status, _) => .error status
  | (.ok size, output) => .ok (output.take size)

end AsterCtrl

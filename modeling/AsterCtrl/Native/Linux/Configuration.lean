import AsterCtrl.Native.NameResolver
import Mathlib.Algebra.Group.Int.Defs

/-!
# Configuration values of a module

`ParseValues` of `configuration.cpp`, which flattens the nested mappings of a module's configuration
to a map from dotted paths to values, and `ParseValue`, which reads one value.

A `YAML::Node` is a tree, and a mapping is the list of its keys and values; what is in a sequence is
not read.  A `std::string` is the list of its bytes.  Floating-point numbers are values of an
arbitrary type `ρ`: `Reals` has the conversion of yaml-cpp, which may fail, and `std::isfinite`.
-/

namespace AsterCtrl.Linux

/-- The bytes of a literal. -/
def literal (text : String) : List UInt8 := text.toUTF8.data.toList

mutual

/-- `YAML::Node`. -/
inductive YamlNode where
  | undefined
  | null
  | scalar (text tag : List UInt8)
  | sequence
  | map (entries : YamlEntries)

/-- The keys and values of a mapping. -/
inductive YamlEntries where
  | nil
  | cons (key value : YamlNode) (rest : YamlEntries)

end

/-- The exceptions of `ParseValues`. -/
inductive ConfigError where
  /-- `std::invalid_argument`. -/
  | invalidArgument (message : List UInt8)
  /-- `YAML::BadConversion`. -/
  | badConversion
deriving DecidableEq, Repr

/-- `ConfigValue`. -/
inductive ConfigValue (ρ : Type) where
  | none
  | boolean (value : Bool)
  | integer (value : Int)
  | unsigned (value : Nat)
  | real (value : ρ)
  | text (value : List UInt8)
deriving DecidableEq, Repr

/-- `node.as<double>()` of a scalar, and `std::isfinite`. -/
structure Reals (ρ : Type) where
  asDouble : List UInt8 → Option ρ
  isFinite : ρ → Bool

/-! ## Values -/

/-- The result of `std::from_chars` for a decimal integer. -/
inductive FromChars where
  | invalid
  | outOfRange
  /-- `complete` tells whether the whole text was read. -/
  | parsed (value : Int) (complete : Bool)
deriving DecidableEq, Repr

def isDigit (c : UInt8) : Bool := '0'.toUInt8 ≤ c ∧ c ≤ '9'.toUInt8

/-- The number that digits stand for. -/
def digitsValue (digits : List UInt8) : Nat :=
  digits.foldl (fun value c => 10 * value + (c.toNat - '0'.toNat)) 0

/-- `std::from_chars` behind the sign, for the integers from `low` to `high`. -/
def fromDigits (negative : Bool) (low high : Int) (text : List UInt8) : FromChars :=
  let digits := text.takeWhile isDigit
  let value : Int := if negative then -(digitsValue digits : Int) else digitsValue digits
  if digits = [] then .invalid
  else if value < low ∨ high < value then .outOfRange
  else .parsed value (text.dropWhile isDigit = [])

/-- `std::from_chars` for `std::int64_t`. -/
def fromCharsSigned (text : List UInt8) : FromChars :=
  match text with
  | c :: rest =>
    if c = '-'.toUInt8 then fromDigits true (-2 ^ 63) (2 ^ 63 - 1) rest
    else fromDigits false (-2 ^ 63) (2 ^ 63 - 1) text
  | [] => .invalid

/-- `std::from_chars` for `std::uint64_t`. -/
def fromCharsUnsigned (text : List UInt8) : FromChars := fromDigits false 0 (2 ^ 64 - 1) text

variable {ρ : Type}

/-- `ParseValue` of a scalar whose tag leaves its type open. -/
def parsePlain (reals : Reals ρ) (text : List UInt8) : Except ConfigError (ConfigValue ρ) :=
  if text = literal "true" then .ok (.boolean true)
  else if text = literal "false" then .ok (.boolean false)
  else
    match fromCharsSigned text, fromCharsUnsigned text with
    | .parsed value true, _ => .ok (.integer value)
    | _, .parsed value true => .ok (.unsigned value.toNat)
    | .outOfRange, _ | _, .outOfRange =>
      .error (.invalidArgument (literal "integer outside 64-bit range: " ++ text))
    | _, _ =>
      if text.any fun c => c = dot ∨ c = 'e'.toUInt8 ∨ c = 'E'.toUInt8 then
        match reals.asDouble text with
        | some real =>
          if reals.isFinite real then .ok (.real real)
          else .error (.invalidArgument (literal "non-finite config value: " ++ text))
        | none => .ok (.text text)
      else .ok (.text text)

/-- `ParseValue`. -/
def parseValue (reals : Reals ρ) : YamlNode → Except ConfigError (ConfigValue ρ)
  | .null => .ok .none
  | .scalar text tag =>
    if tag = literal "!" ∨ tag = literal "tag:yaml.org,2002:str" then .ok (.text text)
    else if tag ≠ literal "?" ∧ tag ≠ [] then
      .error (.invalidArgument (literal "unsupported scalar tag: " ++ tag))
    else parsePlain reals text
  | _ => .error (.invalidArgument (literal "config values must be scalars or nested mappings"))

/-! ## Flattening -/

/-- `ConfigValues`, without the order of its keys. -/
abbrev ConfigValues (ρ : Type) := List (List UInt8 × ConfigValue ρ)

/-- `values.emplace(path, value)`. -/
def ConfigValues.emplace (values : ConfigValues ρ) (entry : List UInt8 × ConfigValue ρ) :
    ConfigValues ρ :=
  if values.any fun other => other.1 = entry.1 then values else values ++ [entry]

/-- `as<std::string>()`. -/
def YamlNode.asString : YamlNode → Option (List UInt8)
  | .null => some (literal "null")
  | .scalar text _ => some text
  | _ => none

/-- The path of a key below `above`. -/
def childPath (above key : List UInt8) : List UInt8 :=
  (if above = [] then [] else above ++ [dot]) ++ key

mutual

/-- `ParseValues`; `above` is its parameter `prefix`. -/
def parseValues (reals : Reals ρ) (node : YamlNode) (values : ConfigValues ρ) (above : List UInt8)
    (depth : Nat) : Except ConfigError (ConfigValues ρ) :=
  match node with
  | .undefined => .ok values
  | .map entries =>
    if depth > 32 then
      .error (.invalidArgument (literal "config must be a finite nested mapping"))
    else parseEntries reals entries values [] above depth
  | .null | .scalar _ _ | .sequence =>
    .error (.invalidArgument (literal "config must be a finite nested mapping"))

/-- The loop of `ParseValues`; `seen` are the keys that it has passed. -/
def parseEntries (reals : Reals ρ) (entries : YamlEntries) (values : ConfigValues ρ)
    (seen : List (List UInt8)) (above : List UInt8) (depth : Nat) :
    Except ConfigError (ConfigValues ρ) :=
  match entries with
  | .nil => .ok values
  | .cons key value rest =>
    match key.asString with
    | none => .error .badConversion
    | some key =>
      if key = [] ∨ dot ∈ key ∨ key ∈ seen then
        .error (.invalidArgument (literal "invalid or duplicate config key: " ++ key))
      else
        match value with
        | .map entries =>
          match parseValues reals (.map entries) values (childPath above key) (depth + 1) with
          | .error error => .error error
          | .ok values => parseEntries reals rest values (key :: seen) above depth
        | value =>
          match parseValue reals value with
          | .error error => .error error
          | .ok parsed =>
            parseEntries reals rest (values.emplace (childPath above key, parsed)) (key :: seen)
              above depth

end

end AsterCtrl.Linux

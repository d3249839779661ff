import ChainParams.Checkpoints
import ChainParams.Json.Basic
import ChainParams.Decimal.Shortest
import ChainParams.KeyVersion
import ChainParams.Time.Parser

/-!
# Values that do not fit

What can be wrong with a JSON value that ought to be of some type. The message tells what was found
and what was expected, without the place.
-/

namespace ChainParams.Definition

open Text

/-- What kind of value was found. -/
def describe : Json → String
  | .null => "null"
  | .bool value => if value then "boolean `true`" else "boolean `false`"
  | .int value => s!"integer `{value}`"
  | .float negative magnitude => s!"floating point `{magnitude.text negative}`"
  | .str value => s!"string {Quoted.string value}"
  | .arr _ => "sequence"
  | .obj _ => "map"

/-- Why a value cannot be read. -/
inductive Fault where
  | wrongType (found : Json) (expected : String)
  | outOfRange (found : Int) (expected : String)
  | missing (key : String)
  /-- An array for a record ends before the field at an index. -/
  | tooFew (index : Nat) (record : String) (fields : Nat)
  /-- An array for a record goes on after its last field. -/
  | tooMany (length : Nat)
  | unknownVariant (found : String) (variants : List String)
  /-- An object for a variant has no member or more than one. -/
  | notSingleKey
  | badHash (cause : BlockHash.Fault)
  | badKeyVersion (cause : KeyVersion.Fault)
  | badCheckpoints (cause : Checkpoints.Fault)
  | badHex (cause : Hex.Fault)
  | badTime (cause : Time.Fault)

def Fault.message : Fault → String
  | .wrongType found expected => s!"invalid type: {describe found}, expected {expected}"
  | .outOfRange found expected => s!"invalid value: integer `{found}`, expected {expected}"
  | .missing key => s!"missing field `{key}`"
  | .tooFew index record fields =>
    s!"invalid length {index}, expected struct {record} with {fields} elements"
  | .tooMany length => s!"invalid length {length}, expected fewer elements in array"
  | .unknownVariant found variants =>
    let names := ", ".intercalate (variants.map fun variant ↦ s!"`{variant}`")
    s!"unknown variant `{found}`, expected one of {names}"
  | .notSingleKey => "invalid value: map, expected map with a single key"
  | .badHash cause => cause.message
  | .badKeyVersion cause => cause.message
  | .badCheckpoints cause => cause.message
  | .badHex cause => cause.message
  | .badTime cause => cause.message

end ChainParams.Definition

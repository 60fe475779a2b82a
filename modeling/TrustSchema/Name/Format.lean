import TrustSchema.Name.Basic
import TrustSchema.Wire.Format

/-!
# Names on the wire

A name is a list of byte strings.
-/

namespace TrustSchema

open Wire

/-- A component: a byte string. -/
def Component.format : Format Component :=
  (Format.bytes.inside (.position "Component" 0)).map Component.mk Component.bytes

namespace Name

/-- A name: the list of its components. -/
def format : Format Name :=
  (Component.format.list.inside (.field "Name" "components")).map Name.mk Name.components

/-- The bytes of a name. -/
def encode (n : Name) : List UInt8 := format.encode n

end Name

end TrustSchema

import Mathlib

/-!
# Values that the API shares with its database and its clients
-/

namespace ScdtServer.Models

/-- `GuestCode(u32)`. -/
structure GuestCode where
  code : UInt32
  deriving DecidableEq

/-- The enumeration `port_type` of the schema. -/
inductive PortType
  | tcp
  | udp
  deriving DecidableEq

end ScdtServer.Models

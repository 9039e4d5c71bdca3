import Mathlib

/-!
# The WireGuard configuration a guest is sent
-/

namespace ScdtServer.WgConfig

structure WgInterface where
  address : String
  privateKey : String
  deriving DecidableEq

structure WgPeer where
  publicKey : String
  endpoint : String
  allowedIps : String
  deriving DecidableEq

structure WgConfig where
  interface : WgInterface
  peer : WgPeer
  deriving DecidableEq

def WgConfig.serialize (config : WgConfig) : String :=
  "[Interface]\nAddress = " ++ config.interface.address ++
    "\nPrivateKey = " ++ config.interface.privateKey ++
    "\n\n[Peer]\nPublicKey = " ++ config.peer.publicKey ++
    "\nEndpoint = " ++ config.peer.endpoint ++
    "\nAllowedIPs = " ++ config.peer.allowedIps

/-- The length of a configuration comes from its fields. -/
theorem length_serialize_le (config : WgConfig) :
    config.serialize.length ≤ 100 + config.interface.address.length +
      config.interface.privateKey.length + config.peer.publicKey.length +
        config.peer.endpoint.length + config.peer.allowedIps.length := by
  show ("[Interface]\nAddress = " ++ config.interface.address ++
    "\nPrivateKey = " ++ config.interface.privateKey ++
    "\n\n[Peer]\nPublicKey = " ++ config.peer.publicKey ++
    "\nEndpoint = " ++ config.peer.endpoint ++
    "\nAllowedIPs = " ++ config.peer.allowedIps).length ≤ _
  have hfixed : "[Interface]\nAddress = ".length + "\nPrivateKey = ".length +
      "\n\n[Peer]\nPublicKey = ".length + "\nEndpoint = ".length + "\nAllowedIPs = ".length ≤
        100 := by
    decide
  simp only [String.length_append]
  omega

end ScdtServer.WgConfig

import TunnelClient.Config.Load
import TunnelClient.Session.World
import TunnelClient.Udp.Transport

/-!
# From a configuration to a client

A client made from a configuration: the key is loaded first, then the peer is
resolved, and then the socket is connected to it.
-/

namespace TunnelClient

structure Host where
  readText : Config.ReadText
  lookup : Config.Lookup
  network : Network

namespace Config

/-- A configured timeout, in milliseconds. -/
def timeout (c : Config) : Nat := c.handshake.seconds.toNat * 1000

def connect (h : Host) (nonces : Nat → Nonce) (c : Config) :
    Except ClientError (Setup × Udp.Transport) := do
  let key ← c.crypto.presharedKey h.readText
  let peer ← c.peer.resolve h.lookup
  let transport ← (Udp.connect h.network peer).mapError .ofHost
  pure (⟨key, peer, c.deviceSettings, c.timeout, nonces⟩, transport)

end Config

end TunnelClient

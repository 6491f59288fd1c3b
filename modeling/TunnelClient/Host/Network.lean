import TunnelClient.Failure.Host

/-!
# The network of a host

The network of a host, as far as a UDP socket meets it when it is set up.
-/

namespace TunnelClient

structure Network where
  bind : Endpoint → Except SystemError Endpoint
  connect : Endpoint → Endpoint → Except SystemError Unit

namespace Network

def sameFamily : IpAddress → IpAddress → Bool
  | .v4 _, .v4 _ => true
  | .v6 _, _ => true
  | .v4 _, .v6 _ => false

/-- A host none of whose interfaces is up.  Any IPv4 address can be bound, as the host knows
none, and no peer can be reached. -/
def isolated (taken : List Endpoint) : Network where
  bind address :=
    if taken.contains address then .error (.number 98)
    else
      match address.address with
      | .v4 _ => .ok address
      | .v6 a => if a = Ipv6.unspecified then .ok address else .error (.number 99)
  connect address peer :=
    if sameFamily address.address peer.address then .error (.number 101) else .error (.number 97)

end Network

end TunnelClient

import TunnelClient.Address.Endpoint
import TunnelClient.Failure.System

/-!
# Host names

Host names where no name server is in reach: the host knows its own name for
itself and its own interface, and everything else may be found later.
-/

namespace TunnelClient.HostName

def lookupError (reason : String) : SystemError :=
  .described .other ("failed to lookup address information: " ++ reason)

def unknown : SystemError := lookupError "Name or service not known"

def tryAgain : SystemError := lookupError "Temporary failure in name resolution"

def loopbackInterface : String := "lo"

/-- An IPv6 address on an interface that is given by its name; only addresses that are good for
one link take one. -/
def onInterface (a : Ipv6) (interface : String) : Except SystemError (List IpAddress) :=
  if a.isLinkLocal && interface = loopbackInterface then .ok [.v6 a] else .error unknown

def lookup (host : String) : Except SystemError (List IpAddress) :=
  if host.toLower = "localhost" then .ok [.v4 Ipv4.loopback]
  else
    match Ipv6.read? host.toList with
    | some (a, '%' :: interface) => onInterface a (String.ofList interface)
    | _ => .error tryAgain

end TunnelClient.HostName

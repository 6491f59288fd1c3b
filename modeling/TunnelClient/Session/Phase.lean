/-!
# Phases

The phases of a session.  A phase is left for the next one, or from the handshake
straight for the end; nothing leads back.
-/

namespace TunnelClient

inductive Phase where
  | disconnected
  | handshaking
  | established
  | terminating
  | closed
  deriving DecidableEq, Repr

namespace Phase

def all : List Phase := [disconnected, handshaking, established, terminating, closed]

def name : Phase → String
  | disconnected => "Disconnected"
  | handshaking => "Handshaking"
  | established => "Established"
  | terminating => "Terminating"
  | closed => "Closed"

def canBecome : Phase → Phase → Bool
  | disconnected, handshaking => true
  | handshaking, established => true
  | handshaking, closed => true
  | established, terminating => true
  | terminating, closed => true
  | _, _ => false

def isClosed (p : Phase) : Bool := p == closed

end Phase

end TunnelClient

/-!
# Kinds of frames

The three kinds of frames: the client requests a session, the peer accepts it,
and both send data.
-/

namespace TunnelClient

inductive FrameKind where
  | request
  | accept
  | data
  deriving DecidableEq, Repr

namespace FrameKind

def all : List FrameKind := [request, accept, data]

def byte : FrameKind → UInt8
  | request => 0
  | accept => 1
  | data => 2

def ofByte? (b : UInt8) : Option FrameKind :=
  if b = 0 then some request
  else if b = 1 then some accept
  else if b = 2 then some data
  else none

def name : FrameKind → String
  | request => "Request"
  | accept => "Accept"
  | data => "Data"

end FrameKind

end TunnelClient

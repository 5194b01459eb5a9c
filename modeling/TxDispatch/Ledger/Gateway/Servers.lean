import TxDispatch.Ledger.Gateway.Exchange

namespace TxDispatch

structure Server where
  address : String
  listening : Bool
  /-- What becomes of the next requests, the first one first. -/
  script : List Exchange := []

/-- Some servers, and the requests that have arrived with the place of the server in the list, the
first one first. -/
structure Servers where
  servers : List Server
  arrived : List (Nat × Request) := []

namespace Servers

def notFound : Exchange := .answered 404 "\x7b\x7d"

def send (request : Request) (s : Servers) : Exchange × Servers :=
  match s.servers.findIdx? fun server =>
      server.listening && server.address == request.url.address with
  | none => (.refused, s)
  | some i =>
    let script := ((s.servers[i]?).map Server.script).getD []
    (script.headD notFound,
      { servers := s.servers.modify i fun server => { server with script := script.tail }
        arrived := s.arrived ++ [(i, request)] })

end Servers

end TxDispatch

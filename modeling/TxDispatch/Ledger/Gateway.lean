import TxDispatch.Config.Schema
import TxDispatch.Ledger.Client
import TxDispatch.Ledger.Gateway.Exchange
import TxDispatch.Metrics

namespace TxDispatch

open Json (Tree)

structure Gateway where
  config : LedgerConfig
  endpoints : List Url

structure Gateway.State (ν : Type) where
  network : ν
  metrics : List Metric := []

inductive CallError where
  /-- The request did not reach the gateway. -/
  | unreachable
  | late
  | failed (text : String)
deriving DecidableEq, Repr

namespace Gateway

def endpoint? (url : String) : Except UrlError Url := (Url.parse url).map Url.asFolder

/-- The gateway of a configuration. Failover URLs that are none are left out. -/
def ofConfig (c : LedgerConfig) : Except Failure Gateway :=
  match endpoint? c.gatewayUrl with
  | .error e => .error (.rpc ("Invalid gateway URL '" ++ c.gatewayUrl ++ "': " ++ e.message))
  | .ok first =>
    .ok ⟨c, first :: c.failoverUrls.filterMap fun url => (endpoint? url).toOption⟩

def shown (g : Gateway) : String :=
  "HttpLedgerClient \x7b lcd_url: " ++ Text.Quoted.quote g.config.gatewayUrl ++ ", chain_id: " ++
    Text.Quoted.quote g.config.chainId ++ ", timeout_secs: " ++
    Text.Digits.text g.config.requestTimeout.toNat ++ " \x7d"

def urlOf (endpoint : Url) (path : String) : Except Failure Url :=
  (endpoint.join path).mapError fun e =>
    .rpc ("Invalid gateway path '" ++ path ++ "': " ++ e.message)

/-- The body of an answer; with some statuses there is none. -/
def bodyOf (status : Nat) (body : String) : String :=
  if status == 204 || status == 304 then "" else body

/-- A body as it is shown, which is without a byte order mark. -/
def shownBody (body : String) : String :=
  match body.toList with
  | '\ufeff' :: cs => String.ofList cs
  | _ => body

def result {α : Type} (decode : Tree → Option α) (url : Url) : Exchange → Except CallError α
  | .refused => .error .unreachable
  | .late => .error .late
  | .dropped => .error (.failed ("error sending request for url (" ++ url.text ++ ")"))
  | .answered status body =>
    if Exchange.isSuccess status then
      match (Tree.ofText? (bodyOf status body)).bind decode with
      | some a => .ok a
      | none => .error (.failed "invalid response body: error decoding response body")
    else
      .error (.failed ("HTTP " ++ Exchange.statusText status ++ ": " ++
        shownBody (bodyOf status body)))

def isRequestable (url : Url) : Bool :=
  url.hasHost && (url.scheme == "http" || url.scheme == "https")

variable {ν : Type}

def State.count (s : State ν) (route : Route) (answered : Bool) : State ν :=
  { s with metrics := s.metrics ++ [.gatewayRequest route answered] }

def call {α : Type} (net : Network ν) (route : Route) (decode : Tree → Option α)
    (request : Request) (s : State ν) : Except CallError α × State ν :=
  if isRequestable request.url then
    let (exchange, network) := net request s.network
    let r := result decode request.url exchange
    (r, ({ s with network }).count route r.toBool)
  else
    (.error (.failed ("builder error for url (" ++ request.url.text ++ ")")), s.count route false)

def read {α : Type} (net : Network ν) (route : Route) (path : String)
    (parameters : List (String × String)) (decode : Tree → Option α) :
    List Url → State ν → Except Failure α × State ν
  | [], s => (.error (.rpc ("All gateway endpoints failed to " ++ route.purpose)), s)
  | endpoint :: rest, s =>
    match urlOf endpoint path with
    | .error f => (.error f, s)
    | .ok url =>
      match call net route decode ⟨.get, url.withParameters parameters, ""⟩ s with
      | (.ok a, s) => (.ok a, s)
      | (.error _, s) => read net route path parameters decode rest s

/-- Posts an envelope to the first endpoint that can be reached. -/
def post (net : Network ν) (timeout : UInt64) (body : String) :
    List Url → State ν → Except Failure Receipt × State ν
  | [], s => (.error (.rpc "All gateway endpoints unreachable for broadcast"), s)
  | endpoint :: rest, s =>
    match urlOf endpoint "txs" with
    | .error f => (.error f, s)
    | .ok url =>
      match call net .broadcast Receipt.ofTree? ⟨.post, url, body⟩ s with
      | (.ok receipt, s) => (.ok receipt, s)
      | (.error .unreachable, s) => post net timeout body rest s
      | (.error .late, s) => (.error (.timeout timeout), s)
      | (.error (.failed text), s) => (.error (.rpc ("Broadcast failed: " ++ text)), s)

def field? {α : Type} (name : String) (decode : Tree → Option α) (t : Tree) : Option α := do
  match ← t.fields? false [name] with
  | [field] => Tree.required? decode field
  | _ => none

def bodyFor (g : Gateway) (e : Envelope) : String :=
  (Json.obj [("mode", .str g.config.broadcastMode), ("tx", e.toWire)]).text

def broadcast (g : Gateway) (net : Network ν) (e : Envelope) (s : State ν) :
    Except Failure Receipt × State ν :=
  post net g.config.requestTimeout (g.bodyFor e) g.endpoints s

def account (g : Gateway) (net : Network ν) (address : String) (s : State ν) :
    Except Failure AccountInfo × State ν :=
  read net .account ("cosmos/auth/v1beta1/accounts/" ++ address) []
    (field? "account" AccountInfo.ofTree?) g.endpoints s

def chainId (g : Gateway) (net : Network ν) (s : State ν) : Except Failure String × State ν :=
  read net .nodeInfo "node_info" [] (field? "node_info" (field? "network" Tree.string?))
    g.endpoints s

/-- Asks a contract. The record around its answer takes up one level of depth. -/
def query (g : Gateway) (net : Network ν) (contract : String) (msg : Json) (s : State ν) :
    Except Failure Json × State ν :=
  read net .contract ("wasm/contracts/" ++ contract ++ "/store") [("query_msg", msg.text)]
    (field? "result" (Tree.toJson? (Json.depthLimit - 1))) g.endpoints s

def verifyChain (g : Gateway) (net : Network ν) (s : State ν) : Except Failure Unit × State ν :=
  match g.chainId net s with
  | (.error f, s) => (.error f, s)
  | (.ok actual, s) =>
    (if actual = g.config.chainId then .ok () else .error (.chainMismatch g.config.chainId actual),
      s)

/-- The calls to a gateway. Their deadline is that of the requests. -/
def client (g : Gateway) (net : Network ν) : Client (State ν) where
  broadcast e s := ⟨0, (g.broadcast net e s).1, (g.broadcast net e s).2, s⟩
  account := g.account net
  chainId := g.chainId net
  query := g.query net

end Gateway

end TxDispatch

import TxDispatch.Proofs.Endpoints
import TxDispatch.Proofs.ReadBack

namespace TxDispatch.Proofs

open Gateway Json

variable {ν : Type}

/-- A network with a record of the requests and of what became of them, the oldest first. -/
def watched (net : Network ν) : Network (ν × List (Request × Exchange)) :=
  fun request l =>
    let (exchange, network) := net request l.1
    (exchange, (network, l.2 ++ [(request, exchange)]))

def posted (mode : String) (e : Envelope) : Json := .obj [("mode", .str mode), ("tx", e.toWire)]

def posting (g : Gateway) (e : Envelope) (u : Url) : Request :=
  ⟨.post, below u ["txs"], (posted g.config.broadcastMode e).text⟩

/-- A post whose body is the text of an object of two members, the mode of the broadcast and the
envelope in its wire form. -/
structure Conveys (mode : String) (e : Envelope) (request : Request) : Prop where
  method : request.method = .post
  body : Tree.ofText? request.body =
    some (.obj [(some "mode", .str (some mode)), (some "tx", e.toWire.tree)])

theorem posting_conveys (g : Gateway) (e : Envelope) (u : Url) :
    Conveys g.config.broadcastMode e (posting g e u) :=
  ⟨rfl, ofText?_text _⟩

def Accepts : Exchange → Receipt → Prop
  | .answered status body, r => Exchange.isSuccess status = true ∧
    (Tree.ofText? (bodyOf status body)).bind Receipt.ofTree? = some r
  | _, _ => False

/-- What a broadcast comes to once a connection is made, by what becomes of the request. -/
inductive Reply (g : Gateway) : Exchange → Except Failure Receipt → Prop where
  | accepted {x r} (accepts : Accepts x r) : Reply g x (.ok r)
  | late : Reply g .late (.error (.timeout g.config.requestTimeout))
  | failed {x} (text : String) (timely : x ≠ .late) (refutes : ∀ r, ¬ Accepts x r) :
      Reply g x (.error (.rpc ("Broadcast failed: " ++ text)))

def unreachable : Failure := .rpc "All gateway endpoints unreachable for broadcast"

def refusal (g : Gateway) (e : Envelope) (u : Url) : Request × Exchange := (posting g e u, .refused)

/-- How a broadcast over some endpoints goes: what is tried, what is counted and what comes of it.
Either all of them refuse, or the first one that does not has the envelope and the last word. -/
inductive Delivery (g : Gateway) (e : Envelope) (us : List Url) :
    List (Request × Exchange) → List Metric → Except Failure Receipt → Prop where
  | nowhere :
      Delivery g e us (us.map (refusal g e))
        (List.replicate us.length (.gatewayRequest .broadcast false)) (.error unreachable)
  | reached (before after : List Url) {u x result} (order : us = before ++ u :: after)
      (connected : x ≠ .refused) (reply : Reply g x result) :
      Delivery g e us (before.map (refusal g e) ++ [(posting g e u, x)])
        (List.replicate before.length (.gatewayRequest .broadcast false) ++
          [.gatewayRequest .broadcast result.toBool]) result

theorem Delivery.refused {g : Gateway} {e : Envelope} {us : List Url}
    {tried : List (Request × Exchange)} {counted : List Metric} {result : Except Failure Receipt}
    (h : Delivery g e us tried counted result) (u : Url) :
    Delivery g e (u :: us) (refusal g e u :: tried) (.gatewayRequest .broadcast false :: counted)
      result := by
  cases h with
  | nowhere => exact .nowhere
  | reached before after order connected reply =>
    exact .reached (u :: before) after (by rw [order]; rfl) connected reply

theorem Delivery.first {g : Gateway} {e : Envelope} {x : Exchange} {result : Except Failure Receipt}
    (connected : x ≠ .refused) (reply : Reply g x result) (u : Url) (us : List Url) :
    Delivery g e (u :: us) [(posting g e u, x)] [.gatewayRequest .broadcast result.toBool] result :=
  .reached [] us rfl connected reply

/-- Whatever is tried takes the envelope along. -/
theorem Delivery.conveys {g : Gateway} {e : Envelope} {us : List Url}
    {tried : List (Request × Exchange)} {counted : List Metric} {result : Except Failure Receipt}
    (h : Delivery g e us tried counted result) :
    ∀ x ∈ tried, Conveys g.config.broadcastMode e x.1 := by
  have hrefusal : ∀ vs : List Url, ∀ x ∈ vs.map (refusal g e),
      Conveys g.config.broadcastMode e x.1 := by
    intro vs x hx
    obtain ⟨u, _, rfl⟩ := List.mem_map.mp hx
    exact posting_conveys g e u
  cases h with
  | nowhere => exact hrefusal us
  | @reached before after u x _ order connected reply =>
    intro y hy
    rcases List.mem_append.mp hy with hy | hy
    · exact hrefusal before y hy
    · rw [List.mem_singleton.mp hy]
      exact posting_conveys g e u

theorem result_cases (url : Url) (x : Exchange) :
    (x = .refused ∧ result Receipt.ofTree? url x = .error .unreachable) ∨
    (x = .late ∧ result Receipt.ofTree? url x = .error .late) ∨
    (∃ r, Accepts x r ∧ result Receipt.ofTree? url x = .ok r) ∨
    (x ≠ .refused ∧ x ≠ .late ∧ (∀ r, ¬ Accepts x r) ∧
      ∃ text, result Receipt.ofTree? url x = .error (.failed text)) := by
  cases x with
  | refused => exact .inl ⟨rfl, rfl⟩
  | late => exact .inr (.inl ⟨rfl, rfl⟩)
  | dropped => exact .inr (.inr (.inr ⟨nofun, nofun, fun _ => id, _, rfl⟩))
  | answered status body =>
    refine .inr (.inr ?_)
    by_cases hsuccess : Exchange.isSuccess status = true
    · cases hread : (Tree.ofText? (bodyOf status body)).bind Receipt.ofTree? with
      | some r =>
        exact .inl ⟨r, ⟨hsuccess, hread⟩, by simp [result, hsuccess, hread]⟩
      | none =>
        refine .inr ⟨nofun, nofun, ?_, _, by simp only [result, hsuccess, hread]; rfl⟩
        intro r accepts
        cases hread.symm.trans accepts.2
    · exact .inr ⟨nofun, nofun, fun _ accepts => hsuccess accepts.1, _,
        by simp only [result, hsuccess]; rfl⟩

/-- A request that can be made is made, recorded and counted once. -/
theorem call_watched {α : Type} (net : Network ν) (route : Route) (decode : Tree → Option α)
    {request : Request} (h : isRequestable request.url = true)
    (s : State (ν × List (Request × Exchange))) :
    ∃ x t, t.network.2 = s.network.2 ++ [(request, x)] ∧
      t.metrics = s.metrics ++ [.gatewayRequest route (result decode request.url x).toBool] ∧
      call (watched net) route decode request s = (result decode request.url x, t) := by
  refine ⟨(net request s.network.1).1, (call (watched net) route decode request s).2, ?_, ?_, ?_⟩
  all_goals
    rw [call, if_pos h]
    rfl

theorem post_delivery (net : Network ν) (g : Gateway) (e : Envelope) (us : List Url)
    (s : State (ν × List (Request × Exchange))) (endpoints : ∀ u ∈ us, Endpoint u) :
    let t := post (watched net) g.config.requestTimeout (posted g.config.broadcastMode e).text us s
    ∃ tried counted, t.2.network.2 = s.network.2 ++ tried ∧ t.2.metrics = s.metrics ++ counted ∧
      Delivery g e us tried counted t.1 := by
  induction us generalizing s with
  | nil => exact ⟨[], [], (List.append_nil _).symm, (List.append_nil _).symm, .nowhere⟩
  | cons u us ih =>
    have hu : Endpoint u := endpoints u (.head us)
    have hrequestable : isRequestable (posting g e u).url = true := hu.requestable ["txs"]
    obtain ⟨x, t, hnetwork, hmetrics, hcall⟩ :=
      call_watched net .broadcast Receipt.ofTree? hrequestable s
    rw [posting] at hcall hmetrics
    simp only [post, hu.urlOf_txs, hcall]
    rcases result_cases (below u ["txs"]) x with
      ⟨rfl, hr⟩ | ⟨rfl, hr⟩ | ⟨r, accepts, hr⟩ | ⟨connected, timely, refutes, text, hr⟩
    all_goals simp only [hr] at hmetrics ⊢
    -- The first case alone goes on to the endpoints that are left.
    · obtain ⟨tried, counted, hnetwork', hmetrics', hdelivery⟩ :=
        ih t fun v hv => endpoints v (.tail u hv)
      rw [hnetwork, List.append_assoc] at hnetwork'
      rw [hmetrics, List.append_assoc] at hmetrics'
      exact ⟨_, _, hnetwork', hmetrics', hdelivery.refused u⟩
    · exact ⟨_, _, hnetwork, hmetrics, Delivery.first (x := .late) nofun .late u us⟩
    · have connected : x ≠ .refused := by
        rintro rfl
        exact accepts
      exact ⟨_, _, hnetwork, hmetrics, Delivery.first connected (.accepted accepts) u us⟩
    · exact ⟨_, _, hnetwork, hmetrics,
        Delivery.first connected (.failed text timely refutes) u us⟩

theorem failed_ne_unreachable (text : String) :
    Failure.rpc ("Broadcast failed: " ++ text) ≠ unreachable := by
  intro h
  have htext := congrArg String.toList (Failure.rpc.inj h)
  simp at htext

theorem Accepts.unique {x : Exchange} {r r' : Receipt} (h : Accepts x r) (h' : Accepts x r') :
    r = r' := by
  cases x with
  | answered status body => exact Option.some.inj (h.2.symm.trans h'.2)
  | refused | dropped | late => exact h.elim

theorem not_accepts_refusal {g : Gateway} {e : Envelope} {us : List Url} {x : Request × Exchange}
    (h : x ∈ us.map (refusal g e)) (r : Receipt) : ¬ Accepts x.2 r := by
  obtain ⟨u, _, rfl⟩ := List.mem_map.mp h
  exact id

theorem Reply.ok_iff {g : Gateway} {x : Exchange} {result : Except Failure Receipt}
    (h : Reply g x result) (r : Receipt) : result = .ok r ↔ Accepts x r := by
  cases h with
  | accepted accepts =>
    constructor
    · rintro ⟨⟩
      exact accepts
    · intro accepts'
      rw [accepts.unique accepts']
  | late => exact iff_of_false nofun id
  | failed text _ refutes => exact iff_of_false nofun (refutes r)

theorem Reply.ne_unreachable {g : Gateway} {x : Exchange} {result : Except Failure Receipt}
    (h : Reply g x result) : result ≠ .error unreachable := by
  cases h with
  | accepted _ => nofun
  | late => nofun
  | failed text _ _ => exact fun heq => failed_ne_unreachable text (Except.error.inj heq)

theorem Delivery.ok_iff {g : Gateway} {e : Envelope} {us : List Url}
    {tried : List (Request × Exchange)} {counted : List Metric} {result : Except Failure Receipt}
    (h : Delivery g e us tried counted result) (r : Receipt) :
    result = .ok r ↔ ∃ x ∈ tried, Accepts x.2 r := by
  cases h with
  | nowhere =>
    refine iff_of_false nofun ?_
    rintro ⟨x, hx, accepts⟩
    exact not_accepts_refusal hx r accepts
  | @reached before after u x _ order connected reply =>
    rw [reply.ok_iff]
    constructor
    · intro accepts
      exact ⟨(posting g e u, x), by simp, accepts⟩
    · rintro ⟨y, hy, accepts⟩
      rcases List.mem_append.mp hy with hy | hy
      · exact absurd accepts (not_accepts_refusal hy r)
      · rw [List.mem_singleton.mp hy] at accepts
        exact accepts

theorem Delivery.unreachable_iff {g : Gateway} {e : Envelope} {us : List Url}
    {tried : List (Request × Exchange)} {counted : List Metric} {result : Except Failure Receipt}
    (h : Delivery g e us tried counted result) :
    result = .error unreachable ↔ tried = us.map (refusal g e) := by
  cases h with
  | nowhere => simp
  | @reached before after u x _ order connected reply =>
    refine iff_of_false reply.ne_unreachable ?_
    intro htried
    -- The endpoint that was reached would be among those that refused.
    have hlast : (posting g e u, x) ∈ us.map (refusal g e) := htried ▸ by simp
    obtain ⟨v, _, hv⟩ := List.mem_map.mp hlast
    exact connected (Prod.mk.inj hv).2.symm

/-- A broadcast hands an envelope to the first endpoint that takes the connection, once each endpoint
before it has refused, and to no other. The envelope and the configured mode are what it posts. It
gives a result exactly if that endpoint does, and says that no endpoint can be reached exactly if all
of them refuse. -/
theorem broadcast_delivery (net : Network ν) {c : LedgerConfig} {g : Gateway}
    (built : Gateway.ofConfig c = .ok g)
    (web : ∀ u ∈ g.endpoints, u.scheme = "http" ∨ u.scheme = "https") (e : Envelope)
    (s : State (ν × List (Request × Exchange))) :
    let t := g.broadcast (watched net) e s
    ∃ tried counted, t.2.network.2 = s.network.2 ++ tried ∧ t.2.metrics = s.metrics ++ counted ∧
      Delivery g e g.endpoints tried counted t.1 ∧
      (∀ x ∈ tried, Conveys c.broadcastMode e x.1) ∧
      (∀ r, t.1 = .ok r ↔ ∃ x ∈ tried, Accepts x.2 r) ∧
      (t.1 = .error unreachable ↔ tried = g.endpoints.map (refusal g e)) := by
  have hendpoints : ∀ u ∈ g.endpoints, Endpoint u := by
    intro u hu
    obtain ⟨text, htext⟩ := endpoint_of_config built u hu
    exact endpoint_of_text htext (web u hu)
  obtain ⟨tried, counted, hnetwork, hmetrics, hdelivery⟩ :=
    post_delivery net g e g.endpoints s hendpoints
  exact ⟨tried, counted, hnetwork, hmetrics, hdelivery, config_of_ofConfig built ▸ hdelivery.conveys,
    hdelivery.ok_iff, hdelivery.unreachable_iff⟩

def rehearsed : Network (List Exchange) := fun _ script => (script.headD .refused, script.tail)

def fallbackGateway : Gateway where
  config := { gatewayUrl := "http://a", failoverUrls := ["http://b/lcd"] }
  endpoints := [{ scheme := "http", host := some (.domain "a"), path := .segments [""] },
    { scheme := "http", host := some (.domain "b"), path := .segments ["lcd", ""] }]

theorem fallbackGateway_ofConfig :
    Gateway.ofConfig fallbackGateway.config = .ok fallbackGateway := by
  have hothers : (fallbackGateway.config.failoverUrls.filterMap fun url =>
      (endpoint? url).toOption) = fallbackGateway.endpoints.tail := by decide +kernel
  have hfirst : (endpoint? fallbackGateway.config.gatewayUrl).toOption =
      some (fallbackGateway.endpoints.head (by decide)) := by decide +kernel
  rw [ofConfig_of_first hfirst, hothers]
  rfl

def postedEnvelope : Envelope where
  sender := "terra1"
  chainId := "bombay-10"
  accountNumber := 1
  sequence := 0
  operation := .storeCode [0]
  fee := ⟨1, [⟨1, "uusd"⟩]⟩
  memo := ""
  publicKey := []
  signature := []

/-- The second endpoint takes the envelope that the first one refused. -/
theorem broadcast_delivery_fallback :
    let g := fallbackGateway
    let e := postedEnvelope
    let s : State (List Exchange × List (Request × Exchange)) :=
      ⟨([.refused, .answered 200 "[]", .dropped], []), []⟩
    let t := g.broadcast (watched rehearsed) e s
    Gateway.ofConfig g.config = .ok g ∧ (∀ u ∈ g.endpoints, u.scheme = "http" ∨ u.scheme = "https") ∧
    t.2.network.1 = [.dropped] ∧ t.1.toBool = true ∧
    ∃ tried counted, t.2.network.2 = [] ++ tried ∧ t.2.metrics = [] ++ counted ∧
      Delivery g e g.endpoints tried counted t.1 ∧
      (∀ x ∈ tried, Conveys g.config.broadcastMode e x.1) ∧
      (∀ r, t.1 = .ok r ↔ ∃ x ∈ tried, Accepts x.2 r) ∧
      (t.1 = .error unreachable ↔ tried = g.endpoints.map (refusal g e)) :=
  ⟨fallbackGateway_ofConfig, by decide, by decide +kernel, by decide +kernel,
    broadcast_delivery rehearsed fallbackGateway_ofConfig (by decide) postedEnvelope _⟩

end TxDispatch.Proofs

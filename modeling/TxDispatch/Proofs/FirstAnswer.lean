import Mathlib.Data.List.Forall2
import TxDispatch.Proofs.Delivery

namespace TxDispatch.Proofs

open Gateway Json

variable {ν α : Type}

/-- A record of one field: an object that has it once, other members being skipped, or a list of it
alone. -/
inductive Holding (name : String) (content : Tree → Prop) : Tree → Prop where
  | member {members t} (named : ∀ m ∈ members, m.1.isSome = true)
      (once : members.filter (fun m => m.1 == some name) = [(some name, t)]) (held : content t) :
      Holding name content (.obj members)
  | item {t} (held : content t) : Holding name content (.arr [t])

theorem member?_eq_some_iff {name : String} {members : List (Option String × Tree)} {t : Tree} :
    Tree.member? name members = some (some t) ↔
      members.filter (fun m => m.1 == some name) = [(some name, t)] := by
  unfold Tree.member?
  split
  · rename_i h
    simp [h]
  · rename_i m h
    have hname : m.1 = some name := by
      have hm : m ∈ members.filter fun m => m.1 == some name := by simp [h]
      simpa using (List.mem_filter.mp hm).2
    obtain ⟨k, v⟩ := m
    obtain rfl : k = some name := hname
    simp [h]
  · rename_i none one
    refine iff_of_false nofun ?_
    intro h
    exact one _ h

theorem fields?_obj {name : String} {members : List (Option String × Tree)} {field : Option Tree} :
    (Tree.obj members).fields? false [name] = some [field] ↔
      (∀ m ∈ members, m.1.isSome = true) ∧ Tree.member? name members = some field := by
  rw [← List.all_eq_true (p := fun m : Option String × Tree => m.1.isSome)]
  simp only [Tree.fields?, List.mapM_cons, List.mapM_nil]
  by_cases named : (members.all fun m => m.1.isSome) = true
  · rw [if_pos named]
    cases Tree.member? name members <;> simp [named]
  · rw [if_neg named]
    exact iff_of_false nofun fun h => named h.1

theorem field?_shape {name : String} {decode : Tree → Option α} {a : α} {t : Tree} :
    field? name decode t = some a ↔
      ∃ v, t.fields? false [name] = some [some v] ∧ decode v = some a := by
  unfold field?
  cases hf : t.fields? false [name] with
  | none => simp
  | some fields =>
    match fields with
    | [] => simp
    | [none] => simp [Tree.required?]
    | [some v] => simp [Tree.required?]
    | _ :: _ :: _ => simp

/-- Decoding the one field of a record is having it. -/
theorem field?_eq_some_iff {name : String} {decode : Tree → Option α} {a : α}
    {content : Tree → Prop} (h : ∀ t, decode t = some a ↔ content t) (t : Tree) :
    field? name decode t = some a ↔ Holding name content t := by
  rw [field?_shape]
  constructor
  · rintro ⟨v, hfields, hdecode⟩
    have held : content v := (h v).mp hdecode
    cases t with
    | obj members =>
      obtain ⟨named, hmember⟩ := fields?_obj.mp hfields
      exact .member named (member?_eq_some_iff.mp hmember) held
    | arr items =>
      match items with
      | [] => simp [Tree.fields?] at hfields
      | [w] =>
        obtain rfl : w = v := by simpa [Tree.fields?] using hfields
        exact .item held
      | _ :: _ :: _ => simp [Tree.fields?] at hfields
    | null | bool _ | num _ | str _ => cases hfields
  · intro holding
    cases holding with
    | member named once held =>
      exact ⟨_, fields?_obj.mpr ⟨named, member?_eq_some_iff.mpr once⟩, (h _).mpr held⟩
    | item held => exact ⟨_, rfl, (h _).mpr held⟩

/-- What a read asks every endpoint, and the shape in which it takes an answer. -/
structure Question (α : Type) where
  route : Route
  path : String
  parameters : List (String × String) := []
  decode : Tree → Option α
  Shape : α → Tree → Prop
  decode_iff : ∀ a t, decode t = some a ↔ Shape a t

namespace Question

def account (address : String) : Question AccountInfo where
  route := .account
  path := "cosmos/auth/v1beta1/accounts/" ++ address
  decode := field? "account" AccountInfo.ofTree?
  Shape info := Holding "account" fun t => AccountInfo.ofTree? t = some info
  decode_iff _ := field?_eq_some_iff fun _ => Iff.rfl

def chainId : Question String where
  route := .nodeInfo
  path := "node_info"
  decode := field? "node_info" (field? "network" Tree.string?)
  Shape id := Holding "node_info" (Holding "network" fun t => t.string? = some id)
  decode_iff _ := field?_eq_some_iff (field?_eq_some_iff fun _ => Iff.rfl)

def contract (contract : String) (msg : Json) : Question Json where
  route := .contract
  path := "wasm/contracts/" ++ contract ++ "/store"
  parameters := [("query_msg", msg.text)]
  decode := field? "result" (Tree.toJson? (Json.depthLimit - 1))
  Shape v := Holding "result" fun t => t.toJson? (Json.depthLimit - 1) = some v
  decode_iff _ := field?_eq_some_iff fun _ => Iff.rfl

def unanswered (q : Question α) : Failure :=
  .rpc ("All gateway endpoints failed to " ++ q.route.purpose)

def askedOf (q : Question α) (net : Network ν) (us : List Url) (s : State ν) :
    Except Failure α × State ν :=
  Gateway.read net q.route q.path q.parameters q.decode us s

/-- The request at an endpoint: a read of the path below that of the endpoint, from its server. -/
def Asks (q : Question α) (u : Url) (request : Request) : Prop :=
  ∃ url, urlOf u q.path = .ok url ∧ url.scheme = u.scheme ∧ url.host = u.host ∧
    url.port = u.port ∧ request = ⟨.get, url.withParameters q.parameters, ""⟩

def Yields (q : Question α) : Exchange → α → Prop
  | .answered status body, a => Exchange.isSuccess status = true ∧
    ∃ t, Tree.ofText? (bodyOf status body) = some t ∧ q.Shape a t
  | _, _ => False

theorem result_eq_ok_iff (q : Question α) (url : Url) (x : Exchange) (a : α) :
    result q.decode url x = .ok a ↔ q.Yields x a := by
  cases x with
  | refused | dropped | late => exact iff_of_false nofun id
  | answered status body =>
    by_cases success : Exchange.isSuccess status = true
    · have hbody : (Tree.ofText? (bodyOf status body)).bind q.decode = some a ↔
          ∃ t, Tree.ofText? (bodyOf status body) = some t ∧ q.Shape a t := by
        simp only [Option.bind_eq_some_iff, q.decode_iff]
      simp only [result, success, if_true, Yields, true_and, ← hbody]
      split
      · rename_i b hb
        simp [hb]
      · rename_i hb
        simp [hb]
    · simp [result, success, Yields]

theorem Yields.unique {q : Question α} {x : Exchange} {a b : α} (h : q.Yields x a)
    (h' : q.Yields x b) : a = b := by
  cases x with
  | answered status body =>
    obtain ⟨_, t, ht, hshape⟩ := h
    obtain ⟨_, t', ht', hshape'⟩ := h'
    obtain rfl : t = t' := Option.some.inj (ht.symm.trans ht')
    have ha : q.decode t = some a := (q.decode_iff a t).mpr hshape
    have hb : q.decode t = some b := (q.decode_iff b t).mpr hshape'
    exact Option.some.inj (ha.symm.trans hb)
  | refused | dropped | late => exact h.elim

end Question

/-- Endpoints that were asked in order, each of them once, and that did not answer. -/
structure Passed (q : Question α) (us : List Url) (tried : List (Request × Exchange)) : Prop where
  asked : List.Forall₂ (fun u y => q.Asks u y.1) us tried
  silent : ∀ y ∈ tried, ∀ a, ¬ q.Yields y.2 a

/-- How a read over some endpoints goes: what is tried, what is counted and what comes of it. Either
none of them answers, or the first one that does is the last one that is asked. -/
inductive FirstAnswer (q : Question α) (us : List Url) :
    List (Request × Exchange) → List Metric → Except Failure α → Prop where
  | unanswered {tried} (passed : Passed q us tried) :
      FirstAnswer q us tried (List.replicate us.length (.gatewayRequest q.route false))
        (.error q.unanswered)
  | answered (before after : List Url) {u tried request x a} (order : us = before ++ u :: after)
      (passed : Passed q before tried) (asks : q.Asks u request) (yields : q.Yields x a) :
      FirstAnswer q us (tried ++ [(request, x)])
        (List.replicate before.length (.gatewayRequest q.route false) ++
          [.gatewayRequest q.route true]) (.ok a)

variable {q : Question α} {us : List Url} {tried : List (Request × Exchange)}
  {counted : List Metric} {result : Except Failure α}

theorem Passed.cons {u : Url} {request : Request} {x : Exchange} (h : Passed q us tried)
    (asks : q.Asks u request) (silent : ∀ a, ¬ q.Yields x a) :
    Passed q (u :: us) ((request, x) :: tried) := by
  refine ⟨.cons asks h.asked, ?_⟩
  intro y hy
  rcases List.mem_cons.mp hy with rfl | hy
  · exact silent
  · exact h.silent y hy

/-- An endpoint that does not answer comes in front of the others. -/
theorem FirstAnswer.pass {u : Url} {request : Request} {x : Exchange}
    (h : FirstAnswer q us tried counted result) (asks : q.Asks u request)
    (silent : ∀ a, ¬ q.Yields x a) :
    FirstAnswer q (u :: us) ((request, x) :: tried) (.gatewayRequest q.route false :: counted)
      result := by
  cases h with
  | unanswered passed => exact .unanswered (passed.cons asks silent)
  | answered before after order passed asks' yields =>
    exact .answered (u :: before) after (by rw [order]; rfl) (passed.cons asks silent) asks' yields

theorem FirstAnswer.first {u : Url} {request : Request} {x : Exchange} {a : α}
    (asks : q.Asks u request) (yields : q.Yields x a) (us : List Url) :
    FirstAnswer q (u :: us) [(request, x)] [.gatewayRequest q.route true] (.ok a) :=
  .answered [] us rfl ⟨.nil, by simp⟩ asks yields

theorem Question.Asks.requestable {u : Url} {request : Request} (h : q.Asks u request)
    (endpoint : Endpoint u) : isRequestable request.url = true := by
  obtain ⟨url, _, hscheme, hhost, _, rfl⟩ := h
  have hthere : (url.withParameters q.parameters).hasHost = true := by
    rw [← endpoint.host, Url.hasHost, Url.hasHost, ← hhost]
    rfl
  have hweb : (url.scheme == "http" || url.scheme == "https") = true := by
    simpa [hscheme] using endpoint.scheme
  rw [isRequestable, hthere]
  exact hweb

/-- The first endpoint is asked and counted once, and the others only if it does not answer. -/
theorem askedOf_cons (net : Network ν) (q : Question α) {u : Url} (h : Endpoint u)
    (s : State (ν × List (Request × Exchange))) :
    ∃ request x t, q.Asks u request ∧ t.network.2 = s.network.2 ++ [(request, x)] ∧
      t.metrics = s.metrics ++
        [.gatewayRequest q.route (Gateway.result q.decode request.url x).toBool] ∧
      ∀ us, q.askedOf (watched net) (u :: us) s =
        match Gateway.result q.decode request.url x with
        | .ok a => (.ok a, t)
        | .error _ => q.askedOf (watched net) us t := by
  obtain ⟨names, hpath⟩ := h.folder
  obtain ⟨url, hurl, hscheme, hhost, hport⟩ := urlOf_segments hpath q.path
  have asks : q.Asks u ⟨.get, url.withParameters q.parameters, ""⟩ :=
    ⟨url, hurl, hscheme, hhost, hport, rfl⟩
  obtain ⟨x, t, hnetwork, hmetrics, hcall⟩ :=
    call_watched net q.route q.decode (asks.requestable h) s
  refine ⟨_, x, t, asks, hnetwork, hmetrics, ?_⟩
  intro us
  simp only [Question.askedOf, Gateway.read, hurl, hcall]
  cases Gateway.result q.decode (url.withParameters q.parameters) x <;> rfl

/-- A read over endpoints asks them until one answers. What it gives then, and the state that it
leaves, do not depend on the endpoints that were not asked. -/
theorem askedOf_firstAnswer (net : Network ν) (q : Question α) (us : List Url)
    (s : State (ν × List (Request × Exchange))) (endpoints : ∀ u ∈ us, Endpoint u) :
    let t := q.askedOf (watched net) us s
    ∃ tried counted, t.2.network.2 = s.network.2 ++ tried ∧ t.2.metrics = s.metrics ++ counted ∧
      FirstAnswer q us tried counted t.1 ∧
      ∀ a, t.1 = .ok a → ∀ more, q.askedOf (watched net) (us.take tried.length ++ more) s = t := by
  induction us generalizing s with
  | nil => exact ⟨[], [], (List.append_nil _).symm, (List.append_nil _).symm,
      .unanswered ⟨.nil, by simp⟩, nofun⟩
  | cons u us ih =>
    obtain ⟨request, x, t, asks, hnetwork, hmetrics, hrest⟩ :=
      askedOf_cons net q (endpoints u (.head us)) s
    cases hx : Gateway.result q.decode request.url x with
    | ok a =>
      have yields : q.Yields x a := (q.result_eq_ok_iff _ x a).mp hx
      simp only [hx] at hrest hmetrics
      rw [hrest]
      exact ⟨_, _, hnetwork, hmetrics, .first asks yields us, fun _ _ more => hrest more⟩
    | error e =>
      have silent : ∀ a, ¬ q.Yields x a := by
        intro a yields
        cases hx.symm.trans ((q.result_eq_ok_iff _ x a).mpr yields)
      simp only [hx] at hrest hmetrics
      obtain ⟨tried, counted, hnetwork', hmetrics', hfirst, hlater⟩ :=
        ih t fun v hv => endpoints v (.tail u hv)
      rw [hnetwork, List.append_assoc] at hnetwork'
      rw [hmetrics, List.append_assoc] at hmetrics'
      rw [hrest]
      refine ⟨_, _, hnetwork', hmetrics', hfirst.pass asks silent, ?_⟩
      intro a ok more
      exact (hrest _).trans (hlater a ok more)

theorem FirstAnswer.ok_iff (h : FirstAnswer q us tried counted result) (a : α) :
    result = .ok a ↔ ∃ y ∈ tried, q.Yields y.2 a := by
  cases h with
  | unanswered passed =>
    refine iff_of_false nofun ?_
    rintro ⟨y, hy, yields⟩
    exact passed.silent y hy a yields
  | @answered before after u tried request x b order passed asks yields =>
    constructor
    · rintro ⟨⟩
      exact ⟨(request, x), by simp, yields⟩
    · rintro ⟨y, hy, yields'⟩
      rcases List.mem_append.mp hy with hy | hy
      · exact absurd yields' (passed.silent y hy a)
      · rw [List.mem_singleton.mp hy] at yields'
        rw [yields.unique yields']

end TxDispatch.Proofs

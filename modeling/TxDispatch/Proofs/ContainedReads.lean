import TxDispatch.Proofs.Slots

namespace TxDispatch.Proofs

open Url Gateway

variable {ν α κ : Type}

structure ReadsAt (u : Url) (request : Request) : Prop where
  method : request.method = .get
  scheme : request.url.scheme = u.scheme
  host : request.url.host = u.host
  port : request.url.port = u.port

theorem Question.Asks.readsAt {q : Question α} {u : Url} {request : Request}
    (h : q.Asks u request) : ReadsAt u request := by
  obtain ⟨url, _, hscheme, hhost, hport, rfl⟩ := h
  exact ⟨rfl, hscheme, hhost, hport⟩

def tried (ask : State (ν × List (Request × Exchange)) →
    Except Failure α × State (ν × List (Request × Exchange))) (s : State ν) :
    List (Request × Exchange) :=
  (ask ⟨(s.network, []), s.metrics⟩).2.network.2

/-- Reads whose keys tell a text for one place of a route. Each request is for the text in its place
exactly if it fits there, and two requests are for one path only with one text. -/
structure StaysInPlace (slot : Slot) (g : Gateway) (text : κ → String)
    (parameters : κ → List (String × String))
    (ask : κ → State (ν × List (Request × Exchange)) →
      Except Failure α × State (ν × List (Request × Exchange))) : Prop where
  asked : (∀ u ∈ g.endpoints, u.scheme = "http" ∨ u.scheme = "https") →
    ∀ k s, tried (ask k) s ≠ []
  named_iff : ∀ k s, ∀ y ∈ tried (ask k) s, ∃ u ∈ g.endpoints, ReadsAt u y.1 ∧
    (slot.Names u (text k) (parameters k) y.1 ↔ slot.Fits (text k).toList)
  distinct : ∀ k l s t, slot.Fits (text k).toList → slot.Fits (text l).toList →
    ∀ y ∈ tried (ask k) s, ∀ z ∈ tried (ask l) t, y.1.url.path = z.1.url.path → text k = text l

theorem endpoints_ne_nil {c : LedgerConfig} {g : Gateway} (h : Gateway.ofConfig c = .ok g) :
    g.endpoints ≠ [] := by
  unfold Gateway.ofConfig at h
  split at h
  · cases h
  · cases h
    simp

theorem asks_of_urlOf {q : Question α} {u url : Url} (h : urlOf u q.path = .ok url) :
    q.Asks u ⟨.get, url.withParameters q.parameters, ""⟩ := by
  cases hpath : u.path with
  | flat text => cases (urlOf_flat hpath q.path).symm.trans h
  | segments names =>
    obtain ⟨url', hurl, hscheme, hhost, hport⟩ := urlOf_segments hpath q.path
    obtain rfl : url' = url := Except.ok.inj (hurl.symm.trans h)
    exact ⟨_, h, hscheme, hhost, hport, rfl⟩

/-- Only the request that is made is recorded. -/
theorem call_record (net : Network ν) (route : Route) (decode : Json.Tree → Option α)
    (request : Request) (s : State (ν × List (Request × Exchange))) :
    ∃ made, (call (watched net) route decode request s).2.network.2 = s.network.2 ++ made ∧
      ∀ y ∈ made, y.1 = request ∧ isRequestable request.url = true := by
  by_cases h : isRequestable request.url = true
  · obtain ⟨x, t, hnetwork, _, hcall⟩ := call_watched net route decode h s
    refine ⟨[(request, x)], by rw [hcall, hnetwork], ?_⟩
    intro y hy
    rw [List.mem_singleton.mp hy]
    exact ⟨rfl, h⟩
  · refine ⟨[], ?_, by simp⟩
    rw [call, if_neg h, List.append_nil]
    rfl

/-- Each request of a read is made at one of the endpoints. -/
theorem askedOf_requests (net : Network ν) (q : Question α) (us : List Url)
    (s : State (ν × List (Request × Exchange))) :
    ∃ requests, (q.askedOf (watched net) us s).2.network.2 = s.network.2 ++ requests ∧
      ∀ y ∈ requests, ∃ u ∈ us, q.Asks u y.1 ∧ isRequestable y.1.url = true := by
  induction us generalizing s with
  | nil => exact ⟨[], (List.append_nil _).symm, by simp⟩
  | cons u us ih =>
    simp only [Question.askedOf, Gateway.read]
    cases hurl : urlOf u q.path with
    | error f => exact ⟨[], (List.append_nil _).symm, by simp⟩
    | ok url =>
      obtain ⟨made, hrecord, hmade⟩ := call_record net q.route q.decode
        ⟨.get, url.withParameters q.parameters, ""⟩ s
      have hasks : ∀ y ∈ made, ∃ v ∈ u :: us, q.Asks v y.1 ∧ isRequestable y.1.url = true := by
        intro y hy
        obtain ⟨hrequest, hweb⟩ := hmade y hy
        rw [hrequest]
        exact ⟨u, .head us, asks_of_urlOf hurl, hweb⟩
      cases hcall : call (watched net) q.route q.decode
        ⟨.get, url.withParameters q.parameters, ""⟩ s with
      | mk result t =>
        simp only [hcall] at hrecord ⊢
        cases result with
        | ok a => exact ⟨made, hrecord, hasks⟩
        | error e =>
          obtain ⟨later, hlater, hlaterAsks⟩ := ih t
          refine ⟨made ++ later, ?_, ?_⟩
          · exact hlater.trans (by rw [hrecord, List.append_assoc])
          · intro y hy
            rcases List.mem_append.mp hy with hy | hy
            · exact hasks y hy
            · obtain ⟨v, hv, hv'⟩ := hlaterAsks y hy
              exact ⟨v, .tail u hv, hv'⟩

theorem FirstAnswer.asks_some {q : Question α} {us : List Url}
    {requests : List (Request × Exchange)} {counted : List Metric} {result : Except Failure α}
    (h : FirstAnswer q us requests counted result) (hus : us ≠ []) : requests ≠ [] := by
  cases h with
  | unanswered passed =>
    intro hnil
    subst hnil
    exact hus (List.forall₂_nil_right_iff.mp passed.asked)
  | answered => simp

/-- An endpoint of a configuration that a request was made at. -/
theorem Question.Asks.endpoint {q : Question α} {u : Url} {request : Request} {text : String}
    (h : q.Asks u request) (read : endpoint? text = .ok u)
    (made : isRequestable request.url = true) : Endpoint u := by
  apply endpoint_of_text read
  have hscheme := (Bool.and_eq_true_iff.mp made).2
  rw [h.readsAt.scheme] at hscheme
  simpa using hscheme

theorem staysInPlace (net : Network ν) {c : LedgerConfig} {g : Gateway}
    (built : Gateway.ofConfig c = .ok g) {slot : Slot} {text : κ → String}
    (q : κ → Question α) (path : ∀ k, (q k).path.toList = slot.fill (text k).toList) :
    StaysInPlace slot g text (fun k => (q k).parameters)
      (fun k => (q k).askedOf (watched net) g.endpoints) := by
  have hnamed : ∀ k s, ∀ y ∈ tried ((q k).askedOf (watched net) g.endpoints) s,
      ∃ u ∈ g.endpoints, ReadsAt u y.1 ∧
        (slot.Names u (text k) (q k).parameters y.1 ↔ slot.Fits (text k).toList) := by
    intro k s y hy
    obtain ⟨requests, hrecord, hrequests⟩ :=
      askedOf_requests net (q k) g.endpoints ⟨(s.network, []), s.metrics⟩
    rw [tried, hrecord] at hy
    obtain ⟨u, hu, asks, hmade⟩ := hrequests y hy
    obtain ⟨source, hsource⟩ := endpoint_of_config built u hu
    exact ⟨u, hu, asks.readsAt, Slot.names_iff (asks.endpoint hsource hmade) (path k) asks⟩
  refine ⟨?_, hnamed, ?_⟩
  · intro web k s
    have hendpoints : ∀ u ∈ g.endpoints, Endpoint u := by
      intro u hu
      obtain ⟨source, hsource⟩ := endpoint_of_config built u hu
      exact endpoint_of_text hsource (web u hu)
    obtain ⟨requests, counted, hrecord, _, hfirst, _⟩ :=
      askedOf_firstAnswer net (q k) g.endpoints ⟨(s.network, []), s.metrics⟩ hendpoints
    rw [tried, hrecord]
    exact hfirst.asks_some (endpoints_ne_nil built)
  · intro k l s t hk hl y hy z hz hpath
    obtain ⟨u, _, _, hu⟩ := hnamed k s y hy
    obtain ⟨v, _, _, hv⟩ := hnamed l t z hz
    exact (hu.mpr hk).text_eq (hv.mpr hl) hpath

theorem accounts_stayInPlace (net : Network ν) {c : LedgerConfig} {g : Gateway}
    (built : Gateway.ofConfig c = .ok g) :
    StaysInPlace Slot.account g id (fun _ => []) (g.account (watched net)) :=
  staysInPlace net built Question.account Slot.account_path

/-- Accounts and contracts are asked for by the text that was given exactly if it fits between the
names of the route, and then no two texts share a path. -/
theorem reads_stayInPlace (net : Network ν) {c : LedgerConfig} {g : Gateway}
    (built : Gateway.ofConfig c = .ok g) :
    StaysInPlace Slot.account g id (fun _ => []) (g.account (watched net)) ∧
    StaysInPlace Slot.contract g Prod.fst (fun k => [("query_msg", k.2.text)])
      (fun k => g.query (watched net) k.1 k.2) := by
  have hcontracts := staysInPlace net built (fun k : String × Json => Question.contract k.1 k.2)
    fun k => Slot.contract_path k.1 k.2
  exact ⟨accounts_stayInPlace net built, hcontracts⟩

def oddAddress : String := "é %z."

theorem oddAddress_fits (slot : Slot) : slot.Fits oddAddress.toList where
  slashless := forall_mem_of_all (by decide)
  unbroken := forall_mem_of_all (by decide)
  still := by decide
  unmarked := Percent.unmarked_of_length_le (by decide +kernel)
  ending _ c hc := by
    have hlast : oddAddress.toList.getLast? = some '.' := by decide
    obtain rfl : c = '.' := Option.some.inj (hc.symm.trans hlast)
    decide

/-- The first endpoint has no such account, and the second one answers in another shape. -/
theorem reads_stayInPlace_odd :
    let g := fallbackGateway
    let s : State (List Exchange) := ⟨[.answered 404 "", .answered 200 "[1]"], []⟩
    let accounts := tried (g.account (watched rehearsed) oddAddress) s
    let contracts := tried (g.query (watched rehearsed) oddAddress (.str "&=")) s
    Gateway.ofConfig g.config = .ok g ∧ accounts.length = 2 ∧ contracts.length = 2 ∧
    (∀ y ∈ accounts, ∃ u ∈ g.endpoints, Slot.account.Names u oddAddress [] y.1) ∧
    ∀ y ∈ contracts, ∃ u ∈ g.endpoints,
      Slot.contract.Names u oddAddress [("query_msg", "\x22&=\x22")] y.1 := by
  intro g s accounts contracts
  obtain ⟨haccounts, hcontracts⟩ := reads_stayInPlace rehearsed fallbackGateway_ofConfig
  refine ⟨fallbackGateway_ofConfig, by decide +kernel, by decide +kernel, ?_, ?_⟩
  · intro y hy
    obtain ⟨u, hu, _, hnames⟩ := haccounts.named_iff oddAddress s y hy
    exact ⟨u, hu, hnames.mpr (oddAddress_fits _)⟩
  · intro y hy
    obtain ⟨u, hu, _, hnames⟩ := hcontracts.named_iff (oddAddress, .str "&=") s y hy
    exact ⟨u, hu, hnames.mpr (oddAddress_fits _)⟩

theorem you_fits : Slot.account.Fits "you".toList where
  slashless := forall_mem_of_all (by decide)
  unbroken := forall_mem_of_all (by decide)
  still := by decide
  unmarked := Percent.unmarked_of_length_le (by decide)
  ending _ c hc := by
    have hlast : "you".toList.getLast? = some 'u' := by decide
    obtain rfl : c = 'u' := Option.some.inj (hc.symm.trans hlast)
    decide

/-- An address that climbs the path is asked for as another one. -/
theorem account_elsewhere :
    let g := fallbackGateway
    let s : State (List Exchange) := ⟨[.answered 404 ""], []⟩
    let climbing := tried (g.account (watched rehearsed) "me/../you") s
    climbing = tried (g.account (watched rehearsed) "you") s ∧
    ¬ ∀ y ∈ climbing, ∃ u ∈ g.endpoints, Slot.account.Names u "me/../you" [] y.1 := by
  intro g s climbing
  have hsame : climbing = tried (g.account (watched rehearsed) "you") s := by decide +kernel
  refine ⟨hsame, ?_⟩
  intro hnamed
  have hreads := accounts_stayInPlace rehearsed fallbackGateway_ofConfig
  obtain ⟨y, hy⟩ := List.exists_mem_of_ne_nil climbing (hreads.asked (by decide) "me/../you" s)
  obtain ⟨u, _, hme⟩ := hnamed y hy
  obtain ⟨v, _, _, hyou⟩ := hreads.named_iff "you" s y (hsame ▸ hy)
  exact absurd (hme.text_eq (hyou.mpr you_fits) rfl) (by decide)

end TxDispatch.Proofs

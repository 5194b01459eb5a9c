import TxDispatch.Ledger.Gateway

namespace TxDispatch.Proofs

open Url

theorem bind_eq_ok {ε α β : Type} {x : Except ε α} {f : α → Except ε β} {b : β} :
    (x >>= f) = .ok b ↔ ∃ a, x = .ok a ∧ f a = .ok b := by
  cases x <;> simp [bind, Except.bind]

/-- A host of the web is not empty: it is an address, or a name that was read to some characters. -/
theorem host_isEmpty {cs : List Char} {host : Host} (h : Host.ofText cs = .ok host) :
    host.isEmpty = false := by
  unfold Host.ofText at h
  split at h
  · unfold Host.bracketed at h
    split at h
    · split at h
      · cases h
        rfl
      · cases h
    · cases h
  · split at h
    · cases h
    · cases h
    · rename_i name hne _
      split at h
      · split at h
        · cases h
        · cases h
          rfl
      · cases h
        simpa [Host.isEmpty] using hne

theorem authority_host {scheme : String} {atEnd : Bool} {cs rest : List Char} {a : Authority}
    (web : kindOf scheme = .web) (h : Authority.ofText scheme atEnd cs = .ok (a, rest)) :
    ∃ host, a.host = some host ∧ host.isEmpty = false := by
  unfold Authority.ofText at h
  simp only [web, beq_self_eq_true, if_true] at h
  split at h
  · cases h
  · split at h
    · cases h
    · obtain ⟨host, hhost, h⟩ := bind_eq_ok.mp h
      refine ⟨host, ?_, host_isEmpty hhost⟩
      split at h
      · cases h
      · split at h
        -- A port is read or there is none; either way, what follows builds the authority.
        all_goals
          obtain ⟨_, _, h⟩ := bind_eq_ok.mp h
          split at h
          · cases h
          · cases h
            rfl

theorem rootPath_web (cs : List Char) : ∃ names, rootPath .web cs = .segments names := by
  cases cs with
  | nil => exact ⟨_, rfl⟩
  | cons c rest => exact ⟨_, rfl⟩

theorem webParts_ok {scheme : String} {atEnd : Bool} {cs : List Char} {a : Authority} {path : Path}
    (web : kindOf scheme = .web) (h : webParts scheme atEnd cs = .ok (a, path)) :
    (∃ host, a.host = some host ∧ host.isEmpty = false) ∧ ∃ names, path = .segments names := by
  unfold webParts at h
  obtain ⟨⟨a', rest⟩, ha, h⟩ := bind_eq_ok.mp h
  cases h
  exact ⟨authority_host web ha, rootPath_web _⟩

/-- A URL of the web that was read has a host, and its path is made of segments. -/
theorem parse_web {s : String} {u : Url} (h : parse s = .ok u) (web : u.kind = .web) :
    u.hasHost = true ∧ ∃ names, u.path = .segments names := by
  unfold parse at h
  split at h
  · simp only at h
    split at h
    · rename_i hkind
      obtain ⟨⟨a, path⟩, hparts, h⟩ := bind_eq_ok.mp h
      cases h
      obtain ⟨⟨host, hhost, hne⟩, hpath⟩ := webParts_ok hkind hparts
      exact ⟨by simp [hasHost, hhost, hne], hpath⟩
    all_goals
      rename_i hkind
      obtain ⟨⟨a, path⟩, _, h⟩ := bind_eq_ok.mp h
      cases h
      cases hkind.symm.trans web
  · cases h

structure Endpoint (u : Url) : Prop where
  scheme : u.scheme = "http" ∨ u.scheme = "https"
  host : u.hasHost = true
  folder : ∃ names, u.path = .segments (names ++ [""])

theorem kindOf_web {scheme : String} (h : scheme = "http" ∨ scheme = "https") :
    kindOf scheme = .web := by
  rcases h with rfl | rfl <;> rfl

theorem Endpoint.kind {u : Url} (h : Endpoint u) : u.kind = .web := kindOf_web h.scheme

theorem asFolder_segments (names : List String) :
    ∃ above, (Path.segments names).asFolder = .segments (above ++ [""]) := by
  simp only [Path.asFolder]
  split
  · rename_i hlast
    obtain ⟨front, rfl⟩ := List.getLast?_eq_some_iff.mp (beq_iff_eq.mp hlast)
    exact ⟨front, rfl⟩
  · exact ⟨names, rfl⟩

/-- What is read as an endpoint is one, if its scheme is that of the web's pages. -/
theorem endpoint_of_text {text : String} {u : Url} (h : Gateway.endpoint? text = .ok u)
    (scheme : u.scheme = "http" ∨ u.scheme = "https") : Endpoint u := by
  unfold Gateway.endpoint? at h
  cases hparse : Url.parse text with
  | error e => simp [hparse, Except.map] at h
  | ok v =>
    simp only [hparse, Except.map, Except.ok.injEq] at h
    subst h
    obtain ⟨hhost, names, hpath⟩ := parse_web hparse (kindOf_web scheme)
    obtain ⟨above, hfolder⟩ := asFolder_segments names
    exact ⟨scheme, hhost, above, by rw [Url.asFolder, hpath, hfolder]⟩

theorem ofConfig_of_first {c : LedgerConfig} {first : Url}
    (h : (Gateway.endpoint? c.gatewayUrl).toOption = some first) :
    Gateway.ofConfig c =
      .ok ⟨c, first :: c.failoverUrls.filterMap fun url => (Gateway.endpoint? url).toOption⟩ := by
  unfold Gateway.ofConfig
  cases hread : Gateway.endpoint? c.gatewayUrl with
  | error e => simp [hread, Except.toOption] at h
  | ok u =>
    obtain rfl : u = first := by simpa [hread, Except.toOption] using h
    rfl

theorem config_of_ofConfig {c : LedgerConfig} {g : Gateway} (h : Gateway.ofConfig c = .ok g) :
    g.config = c := by
  unfold Gateway.ofConfig at h
  split at h
  · cases h
  · cases h
    rfl

theorem endpoint_of_config {c : LedgerConfig} {g : Gateway} (h : Gateway.ofConfig c = .ok g) :
    ∀ u ∈ g.endpoints, ∃ text, Gateway.endpoint? text = .ok u := by
  unfold Gateway.ofConfig at h
  split at h
  · cases h
  · rename_i first hfirst
    cases h
    intro u hu
    rcases List.mem_cons.mp hu with rfl | hu
    · exact ⟨_, hfirst⟩
    · obtain ⟨text, _, htext⟩ := List.mem_filterMap.mp hu
      refine ⟨text, ?_⟩
      cases hread : Gateway.endpoint? text with
      | error e => simp [hread, Except.toOption] at htext
      | ok v => simpa [hread, Except.toOption] using htext

/-- What is joined to a path of segments stays with the same server. -/
theorem urlOf_segments {u : Url} {names : List String} (h : u.path = .segments names)
    (path : String) :
    ∃ url, Gateway.urlOf u path = .ok url ∧ url.scheme = u.scheme ∧ url.host = u.host ∧
      url.port = u.port := by
  simp only [Gateway.urlOf, Url.join, h]
  exact ⟨_, rfl, rfl, rfl, rfl⟩

def above (u : Url) : List String :=
  match u.path with
  | .segments names => names.dropLast
  | .flat _ => []

def below (u : Url) (names : List String) : Url :=
  { u with path := .segments (above u ++ names), query := none, fragment := none }

theorem Endpoint.requestable {u : Url} (h : Endpoint u) (names : List String) :
    Gateway.isRequestable (below u names) = true := by
  have hhost : (below u names).hasHost = true := h.host
  have hscheme : ((below u names).scheme == "http" || (below u names).scheme == "https") = true := by
    simpa [below] using h.scheme
  rw [Gateway.isRequestable, hhost, hscheme]
  rfl

theorem Endpoint.urlOf_txs {u : Url} (h : Endpoint u) :
    Gateway.urlOf u "txs" = .ok (below u ["txs"]) := by
  obtain ⟨names, hpath⟩ := h.folder
  have hjoin : u.join "txs" = .ok (below u ["txs"]) := by
    simp only [Url.join, hpath, h.kind, below, above]
    rfl
  rw [Gateway.urlOf, hjoin]
  rfl

end TxDispatch.Proofs

import Mathlib.Data.List.Forall2
import TxDispatch.Config.Check
import TxDispatch.Proofs.Delivery

namespace TxDispatch.Proofs

open Url Gateway
open Json (Tree)

def Joinable (u : Url) : Prop := ∃ names, u.path = .segments names

/-- A text with an unknown scheme and no slash after it. -/
def IsFlat (text : String) : Prop :=
  ∃ scheme rest, scheme? (clean text.toList) = some (scheme, rest) ∧ kindOf scheme = .other ∧
    rest.head? ≠ some '/'

theorem ofText_segments (k : Kind) (place : List String) (cs : List Char) :
    ∃ names, Path.ofText k place cs = .segments names := by
  unfold Path.ofText
  simp only
  split
  · split
    · exact ⟨_, rfl⟩
    · exact ⟨_, rfl⟩
  · exact ⟨_, rfl⟩

theorem rootPath_segments (k : Kind) (cs : List Char) :
    ∃ names, rootPath k cs = .segments names := by
  cases cs with
  | nil =>
    unfold rootPath
    simp only
    split
    · exact ⟨_, rfl⟩
    · exact ofText_segments k [] []
  | cons c rest => exact ofText_segments k [] _

theorem fileParts_segments {cs : List Char} {a : Authority} {path : Path}
    (h : fileParts cs = .ok (a, path)) : ∃ names, path = .segments names := by
  unfold fileParts at h
  simp only at h
  split at h
  · split at h
    · split at h
      · cases h
        exact ofText_segments .file [] _
      · obtain ⟨host, _, h⟩ := bind_eq_ok.mp h
        split at h
        all_goals
          cases h
          exact ofText_segments .file [] _
    · cases h
      exact ofText_segments .file [] _
  · cases h
    exact ofText_segments .file [] cs

theorem otherParts_flat_iff {scheme : String} {atEnd : Bool} {cs : List Char} {a : Authority}
    {path : Path} (h : otherParts scheme atEnd cs = .ok (a, path)) :
    (∃ text, path = .flat text) ↔ cs.head? ≠ some '/' := by
  have hsegments {path : Path} {rest : List Char} (hs : ∃ names, path = .segments names) :
      (∃ text, path = .flat text) ↔ ('/' :: rest).head? ≠ some '/' := by
    obtain ⟨names, rfl⟩ := hs
    simp
  unfold otherParts at h
  split at h
  · obtain ⟨⟨a', rest⟩, _, h⟩ := bind_eq_ok.mp h
    cases h
    exact hsegments (rootPath_segments .other _)
  · cases h
    exact hsegments (ofText_segments .other [] _)
  · rename_i hone
    cases h
    refine iff_of_true ⟨_, rfl⟩ ?_
    intro hhead
    obtain ⟨rest, rfl⟩ := List.head?_eq_some_iff.mp hhead
    exact hone rest rfl

theorem cutAt_fst (c : Char) (cs : List Char) : (cutAt c cs).1 = cs.takeWhile (· != c) := by
  unfold cutAt
  split
  · rename_i h
    have hall : cs.takeWhile (· != c) ++ cs.dropWhile (· != c) = cs :=
      List.takeWhile_append_dropWhile
    rw [h, List.append_nil] at hall
    exact hall.symm
  · rfl

/-- What is cut off begins with another character. -/
theorem head?_cutAt {c d : Char} (h : d ≠ c) (cs : List Char) :
    (cutAt c cs).1.head? = some d ↔ cs.head? = some d := by
  rw [cutAt_fst]
  cases cs with
  | nil => rfl
  | cons x rest =>
    by_cases hx : x = c
    · subst hx
      simp [h.symm]
    · simp [hx]

theorem parse_flat_iff {text : String} {u : Url} (h : Url.parse text = .ok u) :
    (∃ t, u.path = .flat t) ↔ IsFlat text := by
  unfold Url.parse at h
  split at h
  · rename_i scheme cs hscheme
    simp only at h
    have hother : kindOf scheme ≠ .other → ¬ IsFlat text := by
      rintro hkind ⟨scheme', rest, hs, hother, _⟩
      cases hscheme.symm.trans hs
      exact hkind hother
    have hsegments (hkind : kindOf scheme ≠ .other) {path : Path}
        (hs : ∃ names, path = .segments names) : (∃ t, path = .flat t) ↔ IsFlat text := by
      obtain ⟨names, rfl⟩ := hs
      exact iff_of_false (by simp) (hother hkind)
    split at h
    · rename_i hkind
      obtain ⟨⟨a, path⟩, hparts, h⟩ := bind_eq_ok.mp h
      cases h
      exact hsegments (by simp [hkind]) (webParts_ok hkind hparts).2
    · rename_i hkind
      obtain ⟨⟨a, path⟩, hparts, h⟩ := bind_eq_ok.mp h
      cases h
      exact hsegments (by simp [hkind]) (fileParts_segments hparts)
    · rename_i hkind
      obtain ⟨⟨a, path⟩, hparts, h⟩ := bind_eq_ok.mp h
      cases h
      have hhead : (cutAt '?' (cutAt '#' cs).1).1.head? = some '/' ↔ cs.head? = some '/' :=
        (head?_cutAt (by decide) _).trans (head?_cutAt (by decide) _)
      rw [otherParts_flat_iff hparts, ne_eq, hhead]
      constructor
      · intro hne
        exact ⟨scheme, cs, hscheme, hkind, hne⟩
      · rintro ⟨scheme', rest, hs, _, hne⟩
        cases hscheme.symm.trans hs
        exact hne
  · cases h

theorem joinable_iff {u : Url} : Joinable u ↔ ¬ ∃ t, u.path = .flat t := by
  unfold Joinable
  cases u.path <;> simp

/-- An endpoint can be joined to unless its text is flat. -/
theorem endpoint?_joinable_iff {text : String} {u : Url} (h : endpoint? text = .ok u) :
    Joinable u ↔ ¬ IsFlat text := by
  unfold endpoint? at h
  cases hparse : Url.parse text with
  | error e => simp [hparse, Except.map] at h
  | ok v =>
    simp only [hparse, Except.map, Except.ok.injEq] at h
    subst h
    have hfolder : (∃ t, v.asFolder.path = .flat t) ↔ ∃ t, v.path = .flat t := by
      simp only [Url.asFolder, Path.asFolder]
      cases v.path <;> simp <;> split <;> simp
    rw [joinable_iff, hfolder, parse_flat_iff hparse]

def unlocated (path : String) : Failure :=
  .rpc ("Invalid gateway path '" ++ path ++ "': " ++ UrlError.relativeToFlat.message)

theorem urlOf_flat {u : Url} {t : String} (h : u.path = .flat t) (path : String) :
    urlOf u path = .error (unlocated path) := by
  simp only [urlOf, Url.join, h]
  rfl

theorem joinable_iff_urlOf (u : Url) : Joinable u ↔ ∀ path, ∃ url, urlOf u path = .ok url := by
  constructor
  · rintro ⟨names, h⟩ path
    obtain ⟨url, hurl, _⟩ := urlOf_segments h path
    exact ⟨url, hurl⟩
  · intro h
    rw [joinable_iff]
    rintro ⟨t, ht⟩
    obtain ⟨url, hurl⟩ := h "txs"
    cases (urlOf_flat ht "txs").symm.trans hurl

section Walks

variable {ν α : Type} (net : Network ν)

/-- A read of endpoints that can be joined to fails only if it has asked them all. -/
theorem read_joinable {route : Route} {path : String} {parameters : List (String × String)}
    {decode : Tree → Option α} {us : List Url} (joinable : ∀ u ∈ us, Joinable u) (s : State ν)
    {f : Failure} (h : (Gateway.read net route path parameters decode us s).1 = .error f) :
    f = .rpc ("All gateway endpoints failed to " ++ route.purpose) := by
  induction us generalizing s with
  | nil => exact (Except.error.inj h).symm
  | cons u us ih =>
    obtain ⟨url, hurl⟩ := (joinable_iff_urlOf u).mp (joinable u (.head us)) path
    simp only [Gateway.read, hurl] at h
    split at h
    · cases h
    · exact ih (fun v hv => joinable v (.tail u hv)) _ h

/-- A read that comes to a flat endpoint ends there. -/
theorem read_flat (route : Route) (path : String) (parameters : List (String × String))
    (decode : Tree → Option α) {before : List Url} (joinable : ∀ u ∈ before, Joinable u) {u : Url}
    {t : String} (flat : u.path = .flat t) (after : List Url) (s : State ν) :
    Gateway.read net route path parameters decode (before ++ u :: after) s =
      match Gateway.read net route path parameters decode before s with
      | (.ok a, s') => (.ok a, s')
      | (.error _, s') => (.error (unlocated path), s') := by
  induction before generalizing s with
  | nil => simp only [List.nil_append, Gateway.read, urlOf_flat flat]
  | cons v before ih =>
    obtain ⟨url, hurl⟩ := (joinable_iff_urlOf v).mp (joinable v (.head before)) path
    simp only [List.cons_append, Gateway.read, hurl]
    split
    · rfl
    · exact ih (fun w hw => joinable w (.tail v hw)) _

theorem post_joinable {timeout : UInt64} {body : String} {us : List Url}
    (joinable : ∀ u ∈ us, Joinable u) (s : State ν) {f : Failure}
    (h : (post net timeout body us s).1 = .error f) :
    f = unreachable ∨ f = .timeout timeout ∨ ∃ text, f = .rpc ("Broadcast failed: " ++ text) := by
  induction us generalizing s with
  | nil => exact .inl (Except.error.inj h).symm
  | cons u us ih =>
    obtain ⟨url, hurl⟩ := (joinable_iff_urlOf u).mp (joinable u (.head us)) "txs"
    simp only [post, hurl] at h
    split at h
    · cases h
    · exact ih (fun v hv => joinable v (.tail u hv)) _ h
    · exact .inr (.inl (Except.error.inj h).symm)
    · exact .inr (.inr ⟨_, (Except.error.inj h).symm⟩)

end Walks

/-- A failure whose text begins otherwise is no want of a URL. -/
theorem ne_unlocated {text : String} {c : Char} (h : text.toList.head? = some c) (hc : c ≠ 'I')
    (path : String) : Failure.rpc text ≠ unlocated path := by
  intro heq
  have htext := congrArg (fun t => t.toList.head?) (Failure.rpc.inj heq)
  have hhead : ("Invalid gateway path '" ++ path ++ "': " ++
      UrlError.relativeToFlat.message).toList.head? = some 'I' := by simp
  exact hc (Option.some.inj (h.symm.trans (htext.trans hhead)))

/-- No call of a gateway ends for want of a URL, whatever the network does. -/
structure Located (g : Gateway) : Prop where
  broadcast : ∀ {ν : Type} (net : Network ν) (e : Envelope) (s : State ν) (path : String),
    (g.broadcast net e s).1 ≠ .error (unlocated path)
  account : ∀ {ν : Type} (net : Network ν) (address : String) (s : State ν) (path : String),
    (g.account net address s).1 ≠ .error (unlocated path)
  chainId : ∀ {ν : Type} (net : Network ν) (s : State ν) (path : String),
    (g.chainId net s).1 ≠ .error (unlocated path)
  query : ∀ {ν : Type} (net : Network ν) (contract : String) (msg : Json) (s : State ν)
    (path : String), (g.query net contract msg s).1 ≠ .error (unlocated path)

theorem located_of_joinable {g : Gateway} (joinable : ∀ u ∈ g.endpoints, Joinable u) :
    Located g := by
  have hread {ν α : Type} (net : Network ν) (route : Route) (path : String)
      (parameters : List (String × String)) (decode : Tree → Option α) (s : State ν)
      (path' : String) : (Gateway.read net route path parameters decode g.endpoints s).1 ≠
        .error (unlocated path') := by
    intro h
    have hall := read_joinable net joinable s h
    have hhead : ("All gateway endpoints failed to " ++ route.purpose).toList.head? = some 'A' := by
      simp
    exact ne_unlocated hhead (by decide) path' hall.symm
  constructor
  · intro ν net e s path h
    rcases post_joinable net joinable s h with hall | hlate | ⟨text, hfailed⟩
    · have hhead : "All gateway endpoints unreachable for broadcast".toList.head? = some 'A' := by
        simp
      exact ne_unlocated hhead (by decide) path hall.symm
    · cases hlate
    · have hhead : ("Broadcast failed: " ++ text).toList.head? = some 'B' := by simp
      exact ne_unlocated hhead (by decide) path hfailed.symm
  · intro ν net address s path
    exact hread net _ _ _ _ s path
  · intro ν net s path
    exact hread net _ _ _ _ s path
  · intro ν net contract msg s path
    exact hread net _ _ _ _ s path

def deserted : Network Unit := fun _ s => (.refused, s)

theorem read_deserted {α : Type} (route : Route) (path : String)
    (parameters : List (String × String)) (decode : Tree → Option α) (us : List Url)
    (s : State Unit) : ∃ f s', Gateway.read deserted route path parameters decode us s =
      (.error f, s') := by
  induction us generalizing s with
  | nil => exact ⟨_, _, rfl⟩
  | cons u us ih =>
    have hcall : ∀ request, ∃ e s', call deserted route decode request s = (.error e, s') := by
      intro request
      unfold call
      split
      · exact ⟨_, _, rfl⟩
      · exact ⟨_, _, rfl⟩
    rw [Gateway.read]
    cases urlOf u path with
    | error f => exact ⟨_, _, rfl⟩
    | ok url =>
      obtain ⟨e, s', he⟩ := hcall ⟨.get, url.withParameters parameters, ""⟩
      simp only [he]
      exact ih s'

theorem first_flat {us : List Url} (h : ¬ ∀ u ∈ us, Joinable u) :
    ∃ before u after t, us = before ++ u :: after ∧ (∀ v ∈ before, Joinable v) ∧
      u.path = .flat t := by
  induction us with
  | nil => exact absurd (by simp) h
  | cons u us ih =>
    by_cases hu : Joinable u
    · have hus : ¬ ∀ v ∈ us, Joinable v := by
        intro hall
        exact h (List.forall_mem_cons.mpr ⟨hu, hall⟩)
      obtain ⟨before, v, after, t, rfl, hbefore, hflat⟩ := ih hus
      exact ⟨u :: before, v, after, t, rfl, List.forall_mem_cons.mpr ⟨hu, hbefore⟩, hflat⟩
    · obtain ⟨t, ht⟩ := not_not.mp (mt joinable_iff.mpr hu)
      exact ⟨[], u, us, t, rfl, by simp, ht⟩

theorem located_iff {g : Gateway} : Located g ↔ ∀ u ∈ g.endpoints, Joinable u := by
  constructor
  · intro located
    by_contra h
    obtain ⟨before, u, after, t, hus, hbefore, hflat⟩ := first_flat h
    obtain ⟨f, s', hread⟩ := read_deserted .nodeInfo "node_info" []
      (field? "node_info" (field? "network" Tree.string?)) before ⟨(), []⟩
    have hstuck := read_flat deserted .nodeInfo "node_info" []
      (field? "node_info" (field? "network" Tree.string?)) hbefore hflat after ⟨(), []⟩
    rw [hread, ← hus] at hstuck
    exact located.chainId deserted ⟨(), []⟩ "node_info" (congrArg Prod.fst hstuck)
  · exact located_of_joinable

def endpointTexts (c : Config) : List String := c.ledger.gatewayUrl :: c.ledger.failoverUrls

theorem endpoint?_of_parse {text : String} (h : ∃ u, Url.parse text = .ok u) :
    ∃ u, endpoint? text = .ok u := by
  obtain ⟨u, hu⟩ := h
  exact ⟨u.asFolder, by rw [endpoint?, hu]; rfl⟩

theorem filterMap_endpoints {texts : List String} (h : ∀ text ∈ texts, ∃ u, endpoint? text = .ok u) :
    List.Forall₂ (fun text u => endpoint? text = .ok u) texts
      (texts.filterMap fun text => (endpoint? text).toOption) := by
  induction texts with
  | nil => exact .nil
  | cons text texts ih =>
    obtain ⟨⟨u, hu⟩, htexts⟩ := List.forall_mem_cons.mp h
    have hsome : (endpoint? text).toOption = some u := by rw [hu]; rfl
    simp only [List.filterMap_cons, hsome]
    exact .cons hu (ih htexts)

theorem joinable_iff_texts {texts : List String} {us : List Url}
    (h : List.Forall₂ (fun text u => endpoint? text = .ok u) texts us) :
    (∀ u ∈ us, Joinable u) ↔ ∀ text ∈ texts, ¬ IsFlat text := by
  induction h with
  | nil => simp
  | cons hu _ ih => rw [List.forall_mem_cons, List.forall_mem_cons, endpoint?_joinable_iff hu, ih]

/-- A valid configuration has a gateway with an endpoint for each of its texts, in order. All routes
have a URL at all endpoints, and no call ever fails for want of one, exactly if no text is flat. -/
theorem valid_gateway {c : Config} (valid : c.isValid = true) :
    ∃ g, Gateway.ofConfig c.ledger = .ok g ∧
      List.Forall₂ (fun text u => endpoint? text = .ok u) (endpointTexts c) g.endpoints ∧
      ((∀ u ∈ g.endpoints, ∀ path, ∃ url, urlOf u path = .ok url) ↔
        ∀ text ∈ endpointTexts c, ¬ IsFlat text) ∧
      (Located g ↔ ∀ text ∈ endpointTexts c, ¬ IsFlat text) := by
  have hsound := (Config.isValid_iff c).mp valid
  obtain ⟨first, hfirst⟩ := endpoint?_of_parse hsound.gateway
  have hothers := filterMap_endpoints fun text htext =>
    endpoint?_of_parse (hsound.failovers text htext)
  have hall : List.Forall₂ (fun text u => endpoint? text = .ok u) (endpointTexts c)
      (first :: c.ledger.failoverUrls.filterMap fun url => (endpoint? url).toOption) :=
    .cons hfirst hothers
  refine ⟨⟨c.ledger, _⟩, ofConfig_of_first (by rw [hfirst]; rfl), hall, ?_, ?_⟩
  · rw [← joinable_iff_texts hall]
    simp only [joinable_iff_urlOf]
  · rw [← joinable_iff_texts hall, located_iff]

def schemelessConfig : Config where
  ledger := { gatewayUrl := "localhost:1317", failoverUrls := ["http://b/lcd"] }

theorem schemelessConfig_isValid : schemelessConfig.isValid = true := by decide +kernel

theorem schemelessConfig_isFlat : IsFlat schemelessConfig.ledger.gatewayUrl :=
  ⟨"localhost", "1317".toList, by decide +kernel, by decide +kernel, by decide⟩

theorem valid_gateway_schemeless :
    schemelessConfig.isValid = true ∧ ∃ g, Gateway.ofConfig schemelessConfig.ledger = .ok g ∧
      List.Forall₂ (fun text u => endpoint? text = .ok u) ["localhost:1317", "http://b/lcd"]
        g.endpoints ∧
      ¬ (∀ u ∈ g.endpoints, ∀ path, ∃ url, urlOf u path = .ok url) ∧ ¬ Located g := by
  obtain ⟨g, built, hall, hurls, hlocated⟩ := valid_gateway schemelessConfig_isValid
  have hflat : ¬ ∀ text ∈ endpointTexts schemelessConfig, ¬ IsFlat text :=
    fun h => h _ (.head _) schemelessConfig_isFlat
  exact ⟨schemelessConfig_isValid, g, built, hall, mt hurls.mp hflat, mt hlocated.mp hflat⟩

def schemelessGateway : Gateway where
  config := schemelessConfig.ledger
  endpoints := [{ scheme := "localhost", path := .flat "1317/" },
    { scheme := "http", host := some (.domain "b"), path := .segments ["lcd", ""] }]

theorem schemelessGateway_ofConfig :
    Gateway.ofConfig schemelessConfig.ledger = .ok schemelessGateway := by
  have hothers : (schemelessConfig.ledger.failoverUrls.filterMap fun url =>
      (endpoint? url).toOption) = schemelessGateway.endpoints.tail := by decide +kernel
  have hfirst : (endpoint? schemelessConfig.ledger.gatewayUrl).toOption =
      some (schemelessGateway.endpoints.head (by decide)) := by decide +kernel
  rw [ofConfig_of_first hfirst, hothers]
  rfl

/-- A valid configuration whose broadcasts have no URL, and whose reads end before the endpoint that
would answer them. -/
theorem schemeless_unlocated :
    let g := schemelessGateway
    let s : State (List Exchange × List (Request × Exchange)) :=
      ⟨([.answered 200 "[[\"n\"]]"], []), []⟩
    schemelessConfig.isValid = true ∧ Gateway.ofConfig schemelessConfig.ledger = .ok g ∧
    (∃ u ∈ g.endpoints, urlOf u "txs" = .error (unlocated "txs")) ∧
    g.chainId (watched rehearsed) s = (.error (unlocated "node_info"), s) ∧
    ({ g with endpoints := g.endpoints.tail }.chainId (watched rehearsed) s).1.toOption = some "n" :=
  ⟨schemelessConfig_isValid, schemelessGateway_ofConfig, ⟨_, .head _, rfl⟩, rfl, by decide +kernel⟩

end TxDispatch.Proofs

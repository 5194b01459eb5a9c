import TxDispatch.Proofs.FirstAnswer
import TxDispatch.Proofs.PathTexts

namespace TxDispatch.Proofs

open Url Text

def letters : List Char := "0123456789abcdefghijklmnopqrstuvwxyz".toList

def Word (name : String) : Prop := name ≠ "" ∧ ∀ c ∈ name.toList, c ∈ letters

/-- What holds of each character of a text holds of all of them, without a look at those that are not
in it. -/
theorem forall_mem_of_all {p : Char → Prop} [DecidablePred p] {cs : List Char}
    (h : cs.all (fun c => decide (p c)) = true) : ∀ c ∈ cs, p c :=
  fun c hc => of_decide_eq_true (List.all_eq_true.mp h c hc)

theorem word_of_all {names : List String}
    (h : names.all (fun name => name != "" && name.toList.all fun c => decide (c ∈ letters)) = true) :
    ∀ name ∈ names, Word name := by
  intro name hname
  obtain ⟨hsome, hall⟩ := Bool.and_eq_true_iff.mp (List.all_eq_true.mp h name hname)
  exact ⟨bne_iff_ne.mp hsome, forall_mem_of_all hall⟩

def spelling (names : List String) : List Char := names.flatMap String.toList

/-- A route with a place for a text between its names. -/
structure Slot where
  before : List String
  after : List String
  opening : before ≠ []
  words : ∀ name ∈ before ++ after, Word name

namespace Slot

def front (slot : Slot) : List Char := slot.before.flatMap fun name => name.toList ++ ['/']

def back (slot : Slot) : List Char := slot.after.flatMap fun name => '/' :: name.toList

def fill (slot : Slot) (cs : List Char) : List Char := slot.front ++ cs ++ slot.back

def account : Slot where
  before := ["cosmos", "auth", "v1beta1", "accounts"]
  after := []
  opening := by decide
  words := word_of_all (by decide)

def contract : Slot where
  before := ["wasm", "contracts"]
  after := ["store"]
  opening := by decide
  words := word_of_all (by decide)

theorem account_path (address : String) :
    (Question.account address).path.toList = account.fill address.toList := by
  simp [Question.account, fill, front, back, account]

theorem contract_path (address : String) (msg : Json) :
    (Question.contract address msg).path.toList = contract.fill address.toList := by
  simp [Question.contract, fill, front, back, contract]

/-- A text that no part of a URL begins in, that is no step on the way and no number of a byte, and
that is not trimmed at the end of the path. -/
structure Fits (slot : Slot) (cs : List Char) : Prop where
  slashless : ∀ c ∈ cs, c ∉ ['/', '\\']
  unbroken : ∀ c ∈ cs, c ∉ ['?', '#', '\t', '\n', '\r']
  still : cs ≠ ['.'] ∧ cs ≠ ['.', '.']
  unmarked : Percent.Unmarked cs
  ending : slot.after = [] → ∀ c ∈ cs.getLast?, 0x20 < c.toNat

/-- A request for the path of a route at an endpoint, with one segment in its place that stands for a
text, and with some parameters as its query. -/
structure Names (slot : Slot) (u : Url) (text : String) (parameters : List (String × String))
    (request : Request) : Prop where
  segment : ∃ name, request.url.path = .segments (above u ++ slot.before ++ name :: slot.after) ∧
    '/' ∉ name.toList ∧ Percent.decode name.toList = Utf8.encode text.toList
  query : Url.parameters request.url.query =
    parameters.map fun p => (Utf8.encode p.1.toList, Utf8.encode p.2.toList)

end Slot

structure Clear (c : Char) : Prop where
  slashless : Kind.web.isSlash c = false
  unbroken : c ∉ breaks
  inside : isEdge c = false
  kept : Percent.inPath c = false
  unmarked : c ≠ '%'
  still : c ≠ '.'

theorem clear_of_mem_letters {c : Char} (h : c ∈ letters) : Clear c := by
  have hclear : ∀ c ∈ letters, Kind.web.isSlash c = false ∧ c ∉ breaks ∧ isEdge c = false ∧
      Percent.inPath c = false ∧ c ≠ '%' ∧ c ≠ '.' := forall_mem_of_all (by decide)
  obtain ⟨hslash, hbreak, hedge, hkept, hpercent, hdot⟩ := hclear c h
  exact ⟨hslash, hbreak, hedge, hkept, hpercent, hdot⟩

namespace Word

variable {name : String}

theorem slashless (h : Word name) : ∀ c ∈ name.toList, Kind.web.isSlash c = false :=
  fun c hc => (clear_of_mem_letters (h.2 c hc)).slashless

theorem unmarked (h : Word name) : Percent.Unmarked name.toList := by
  intro rest hrest
  exact absurd rfl (clear_of_mem_letters (h.2 '%' (hrest.mem (.head _)))).unmarked

theorem plain (h : Word name) : Path.Plain name.toList := by
  have hdot : '.' ∉ name.toList := fun hmem => (clear_of_mem_letters (h.2 '.' hmem)).still rfl
  refine ⟨⟨?_, ?_⟩, h.unmarked⟩
  · intro heq
    exact hdot (heq ▸ .head _)
  · intro heq
    exact hdot (heq ▸ .head _)

theorem name_eq (h : Word name) : Path.name .web name.toList = name := by
  have hkept : Percent.encode Percent.inPath name.toList = name.toList :=
    Percent.encode_eq_self fun c hc => (clear_of_mem_letters (h.2 c hc)).kept
  rw [Path.name_web, hkept, String.ofList_toList]

end Word

theorem follow_words {names : List String} (words : ∀ name ∈ names, Word name)
    (place : List String) (rest : List (List Char)) :
    Path.follow .web place (names.map String.toList ++ rest) =
      Path.follow .web (place ++ names) rest := by
  induction names generalizing place with
  | nil => simp
  | cons name names ih =>
    obtain ⟨hname, hnames⟩ := List.forall_mem_cons.mp words
    rw [List.map_cons, List.cons_append,
      Path.follow_plain hname.plain.not_dot hname.plain.not_doubleDot, hname.name_eq, ih hnames]
    simp

theorem spelled_words {names : List String} (words : ∀ name ∈ names, Word name) :
    Path.spelled names = Utf8.encode (spelling names) := by
  induction names with
  | nil => rfl
  | cons name names ih =>
    obtain ⟨hname, hnames⟩ := List.forall_mem_cons.mp words
    rw [Path.spelled, List.flatMap_cons, Percent.decode_of_unmarked hname.unmarked, spelling,
      List.flatMap_cons, Utf8.encode_append, ← spelling, ← ih hnames]
    rfl

namespace Slot

variable {slot : Slot} {cs : List Char}

theorem before_words (slot : Slot) : ∀ name ∈ slot.before, Word name :=
  fun name hname => slot.words name (List.mem_append_left _ hname)

theorem after_words (slot : Slot) : ∀ name ∈ slot.after, Word name :=
  fun name hname => slot.words name (List.mem_append_right _ hname)

theorem split_front {names : List String} (words : ∀ name ∈ names, Word name) (rest : List Char) :
    Path.split .web (names.flatMap (fun name => name.toList ++ ['/']) ++ rest) =
      names.map String.toList ++ Path.split .web rest := by
  induction names with
  | nil => rfl
  | cons name names ih =>
    obtain ⟨hname, hnames⟩ := List.forall_mem_cons.mp words
    rw [List.map_cons, List.cons_append, ← ih hnames, List.flatMap_cons, List.append_assoc,
      List.append_assoc, List.singleton_append, Path.split_eq_splitOnP, Path.split_eq_splitOnP]
    exact List.splitOnP_append_cons_of_forall_mem hname.slashless '/' rfl _

theorem split_back {names : List String} (words : ∀ name ∈ names, Word name) {cs : List Char}
    (slashless : ∀ c ∈ cs, Kind.web.isSlash c = false) :
    Path.split .web (cs ++ names.flatMap fun name => '/' :: name.toList) =
      cs :: names.map String.toList := by
  induction names generalizing cs with
  | nil =>
    rw [List.flatMap_nil, List.append_nil, Path.split_eq_splitOnP]
    exact List.splitOnP_eq_singleton slashless
  | cons name names ih =>
    obtain ⟨hname, hnames⟩ := List.forall_mem_cons.mp words
    rw [List.map_cons, ← ih hnames hname.slashless, List.flatMap_cons, List.cons_append,
      Path.split_eq_splitOnP, Path.split_eq_splitOnP]
    exact List.splitOnP_append_cons_of_forall_mem slashless '/' rfl _

theorem split_fill (slashless : ∀ c ∈ cs, Kind.web.isSlash c = false) :
    Path.split .web (slot.fill cs) =
      slot.before.map String.toList ++ cs :: slot.after.map String.toList := by
  rw [fill, List.append_assoc, front, split_front slot.before_words, back,
    split_back slot.after_words slashless]

/-- Without its slashes, a filled route is the letters of its names around the text. -/
theorem filter_fill (slot : Slot) (cs : List Char) :
    (slot.fill cs).filter (!Kind.web.isSlash ·) =
      spelling slot.before ++ cs.filter (!Kind.web.isSlash ·) ++ spelling slot.after := by
  have hfront : slot.front.filter (!Kind.web.isSlash ·) = spelling slot.before := by
    have hsplit := split_front slot.before_words []
    rw [List.append_nil] at hsplit
    rw [← Path.flatten_split, front, hsplit]
    simp [spelling, Path.split, List.flatMap]
  have hback : slot.back.filter (!Kind.web.isSlash ·) = spelling slot.after := by
    have hsplit := split_back slot.after_words (List.forall_mem_nil (Kind.web.isSlash · = false))
    rw [List.nil_append] at hsplit
    rw [← Path.flatten_split, back, hsplit]
    rfl
  rw [fill, List.filter_append, List.filter_append, hfront, hback]

/-- The characters around the place are letters and slashes. -/
theorem around_clear (slot : Slot) {c : Char} (h : c ∈ slot.front ∨ c ∈ slot.back) :
    c ∉ breaks ∧ isEdge c = false := by
  have hletter {name : String} (hname : Word name) (hc : c ∈ name.toList ∨ c = '/') :
      c ∉ breaks ∧ isEdge c = false := by
    rcases hc with hc | rfl
    · have hclear := clear_of_mem_letters (hname.2 c hc)
      exact ⟨hclear.unbroken, hclear.inside⟩
    · decide
  rcases h with hc | hc
  · obtain ⟨name, hname, hc⟩ := List.mem_flatMap.mp hc
    exact hletter (slot.before_words name hname) (by simpa using hc)
  · obtain ⟨name, hname, hc⟩ := List.mem_flatMap.mp hc
    exact hletter (slot.after_words name hname) (by simpa [or_comm] using hc)

theorem front_ne_nil (slot : Slot) : slot.front ≠ [] := by
  obtain ⟨name, names, hbefore⟩ := List.exists_cons_of_ne_nil slot.opening
  simp [front, hbefore]

theorem back_eq_nil_iff (slot : Slot) : slot.back = [] ↔ slot.after = [] := by
  cases h : slot.after <;> simp [back, h]

theorem fill_whole (unbroken : ∀ c ∈ cs, c ∉ breaks)
    (ending : slot.after = [] → ∀ c ∈ cs.getLast?, isEdge c = false) : Whole (slot.fill cs) where
  first c hc := by
    rw [fill, List.append_assoc, List.head?_append_of_ne_nil _ slot.front_ne_nil] at hc
    exact (slot.around_clear (.inl (List.mem_of_head? hc))).2
  last c hc := by
    by_cases hback : slot.back = []
    · rw [fill, hback, List.append_nil, List.getLast?_append] at hc
      rcases Option.or_eq_some_iff.mp hc with hc | ⟨_, hc⟩
      · exact ending (slot.back_eq_nil_iff.mp hback) c hc
      · exact (slot.around_clear (.inl (List.mem_of_getLast? hc))).2
    · rw [fill, List.getLast?_append_of_ne_nil _ hback] at hc
      exact (slot.around_clear (.inr (List.mem_of_getLast? hc))).2
  unbroken c hc := by
    rcases List.mem_append.mp hc with hc | hback
    · rcases List.mem_append.mp hc with hfront | hc
      · exact (slot.around_clear (.inl hfront)).1
      · exact unbroken c hc
    · exact (slot.around_clear (.inr hback)).1

/-- The path of the route brings all the bytes of its names and of the text. Whatever is cut off,
trimmed or climbed over would be missing, since nothing on the way adds any. -/
def Keeps (slot : Slot) (cs : List Char) : Prop :=
  (Utf8.encode (spelling slot.before ++ cs ++ spelling slot.after)).length ≤
    ((Path.split .web (pathText (slot.fill cs))).flatMap Path.content).length

/-- A path that names a text in its place has the bytes for it. -/
theorem keeps_of_path {u : Url} {name : String}
    (path : Path.follow .web (above u) (Path.split .web (pathText (slot.fill cs))) =
      above u ++ slot.before ++ name :: slot.after)
    (named : Percent.decode name.toList = Utf8.encode cs) : slot.Keeps cs := by
  have hbound := Path.length_spelled_follow_le (above u)
    (Path.split .web (pathText (slot.fill cs)))
  have hname : Path.spelled [name] = Utf8.encode cs := by simpa [Path.spelled] using named
  rw [path, List.append_assoc, ← List.singleton_append, Path.spelled_append, Path.spelled_append,
    Path.spelled_append, spelled_words slot.before_words, hname, spelled_words slot.after_words]
    at hbound
  simp only [Keeps, Utf8.encode_append, List.length_append] at hbound ⊢
  omega

namespace Keeps

/-- No reference that the path is a part of has fewer bytes. -/
theorem length_le (h : slot.Keeps cs) {reference : List Char}
    (part : (pathText (slot.fill cs)).Sublist reference) :
    (Utf8.encode (spelling slot.before ++ cs ++ spelling slot.after)).length ≤
      (Utf8.encode (reference.filter (!Kind.web.isSlash ·))).length := by
  have hcontent :=
    Path.length_flatMap_content_le (Path.split .web (pathText (slot.fill cs)))
  rw [Path.flatten_split] at hcontent
  exact h.trans (hcontent.trans (length_utf8_le (part.filter (!Kind.web.isSlash ·))))

theorem slashless (h : slot.Keeps cs) : ∀ c ∈ cs, Kind.web.isSlash c = false := by
  have hbytes := h.length_le ((pathText_sublist _).trans (clean_sublist _))
  rw [filter_fill] at hbytes
  have hfilter : cs.filter (!Kind.web.isSlash ·) = cs := by
    apply eq_of_sublist List.filter_sublist
    simp only [Utf8.encode_append, List.length_append] at hbytes
    omega
  intro c hc
  simpa using List.filter_eq_self.mp hfilter c hc

theorem filter_path (h : slot.Keeps cs) :
    (pathText (slot.fill cs)).filter (!Kind.web.isSlash ·) =
      spelling slot.before ++ cs ++ spelling slot.after := by
  have hpart := ((pathText_sublist _).trans (clean_sublist (slot.fill cs))).filter
    (!Kind.web.isSlash ·)
  have hcs : cs.filter (!Kind.web.isSlash ·) = cs :=
    List.filter_eq_self.mpr fun c hc => by simp [h.slashless c hc]
  rw [filter_fill, hcs] at hpart
  exact eq_of_sublist hpart (h.length_le (List.Sublist.refl _))

theorem unbroken (h : slot.Keeps cs) : ∀ c ∈ cs, c ∉ breaks := by
  intro c hc
  have hmem : c ∈ (pathText (slot.fill cs)).filter (!Kind.web.isSlash ·) := by
    rw [h.filter_path]
    simp [hc]
  exact not_break_of_mem_pathText (List.mem_filter.mp hmem).1

theorem ending (h : slot.Keeps cs) (last : slot.after = []) :
    ∀ c ∈ cs.getLast?, isEdge c = false := by
  intro c hc
  obtain ⟨init, rfl⟩ := List.getLast?_eq_some_iff.mp hc
  rw [Bool.eq_false_iff]
  intro hedge
  -- A last character that is trimmed away leaves the bytes of those before it.
  have hfill : slot.fill (init ++ [c]) = slot.fill init ++ [c] := by
    simp [fill, slot.back_eq_nil_iff.mpr last]
  have hpart := (pathText_sublist (slot.fill (init ++ [c])))
  rw [hfill, clean_concat hedge, ← hfill] at hpart
  have hbytes := h.length_le (hpart.trans (clean_sublist _))
  have hinit : (Utf8.encode (init.filter (!Kind.web.isSlash ·))).length ≤
      (Utf8.encode init).length := length_utf8_le List.filter_sublist
  have hsize : 0 < (Utf8.encode [c]).length := by
    simpa [Utf8.encode] using Char.utf8Size_pos c
  rw [filter_fill] at hbytes
  simp only [Utf8.encode_append, List.length_append] at hbytes
  omega

theorem plain (h : slot.Keeps cs) : Path.Plain cs := by
  have hwhole : Whole (slot.fill cs) := fill_whole h.unbroken h.ending
  have hbefore := Path.length_flatMap_content_le (slot.before.map String.toList)
  have hafter := Path.length_flatMap_content_le (slot.after.map String.toList)
  have hbytes := h
  rw [Keeps, hwhole.pathText, split_fill h.slashless] at hbytes
  simp only [Utf8.encode_append, List.flatMap_append, List.flatMap_cons, List.length_append]
    at hbytes
  apply Path.plain_of_length_le
  simp only [spelling, List.flatMap] at hbytes hbefore hafter ⊢
  omega

theorem fits (h : slot.Keeps cs) : slot.Fits cs where
  slashless c hc := isSlash_web_iff.mp (h.slashless c hc)
  unbroken := h.unbroken
  still := h.plain.still
  unmarked := h.plain.unmarked
  ending last c hc := isEdge_iff.mp (h.ending last c hc)

end Keeps

namespace Fits

theorem plain (h : slot.Fits cs) : Path.Plain cs := ⟨h.still, h.unmarked⟩

theorem whole (h : slot.Fits cs) : Whole (slot.fill cs) :=
  fill_whole h.unbroken fun last c hc => isEdge_iff.mpr (h.ending last c hc)

/-- A text that fits is one name of its path. -/
theorem path (h : slot.Fits cs) (place : List String) :
    Path.follow .web place (Path.split .web (pathText (slot.fill cs))) =
      place ++ slot.before ++ Path.name .web cs :: slot.after := by
  have hslashless : ∀ c ∈ cs, Kind.web.isSlash c = false :=
    fun c hc => isSlash_web_iff.mpr (h.slashless c hc)
  have hafter := follow_words slot.after_words (place ++ slot.before ++ [Path.name .web cs]) []
  rw [List.append_nil] at hafter
  rw [h.whole.pathText, split_fill hslashless, follow_words slot.before_words,
    Path.follow_plain h.plain.not_dot h.plain.not_doubleDot, hafter, Path.follow,
    List.append_assoc _ [_], List.singleton_append]

end Fits

/-- A request for a path with a text in its place names the text exactly if the text fits there. -/
theorem names_iff {α : Type} {q : Question α} {u : Url} {text : String} {request : Request}
    (endpoint : Endpoint u) (path : q.path.toList = slot.fill text.toList)
    (asks : q.Asks u request) : slot.Names u text q.parameters request ↔ slot.Fits text.toList := by
  obtain ⟨url, hurl, _, _, _, rfl⟩ := asks
  obtain ⟨joined, hjoin, hpath, hquery⟩ := join_web endpoint q.path
  have hsame : url = joined := by
    rw [Gateway.urlOf, hjoin] at hurl
    exact (Except.ok.inj hurl).symm
  rw [path] at hpath hquery
  subst hsame
  constructor
  · intro names
    obtain ⟨name, hsegments, _, hname⟩ := names.segment
    exact (keeps_of_path (Path.segments.inj (hpath.symm.trans hsegments)) hname).fits
  · intro fits
    refine ⟨⟨Path.name .web text.toList, ?_, ?_, ?_⟩, parameters_withParameters (hquery fits.whole) _⟩
    · exact hpath.trans (congrArg Path.segments (fits.path (above u)))
    · rw [Path.name_web, String.toList_ofList]
      exact Percent.slash_not_mem_encode fun hc => fits.slashless _ hc (by simp)
    · rw [Path.decode_name, Percent.decode_of_unmarked fits.unmarked]

/-- A path names one text in a place, whatever endpoint it is below. -/
theorem Names.text_eq {u v : Url} {a b : String} {ps ps' : List (String × String)}
    {request request' : Request} (h : slot.Names u a ps request) (h' : slot.Names v b ps' request')
    (path : request.url.path = request'.url.path) : a = b := by
  obtain ⟨name, hname, _, hdecode⟩ := h.segment
  obtain ⟨name', hname', _, hdecode'⟩ := h'.segment
  have hnames := Path.segments.inj (hname.symm.trans (path.trans hname'))
  have hsame : name = name' := by
    have hrest := List.append_inj_right' hnames (by simp)
    exact (List.cons.inj hrest).1
  subst hsame
  exact String.toList_inj.mp (Utf8.encode_injective (hdecode.symm.trans hdecode'))

end Slot

end TxDispatch.Proofs

import Mathlib.Data.List.DropRight
import Mathlib.Data.List.Flatten
import Mathlib.Data.List.TakeWhile
import TxDispatch.Proofs.PercentCoding
import TxDispatch.Proofs.GatewayUrls

namespace TxDispatch.Url

open Text

theorem isSlash_web_iff {c : Char} : Kind.web.isSlash c = false ↔ c ∉ ['/', '\\'] := by
  simp [Kind.isSlash]

theorem length_utf8_le {a b : List Char} (h : a.Sublist b) :
    (Utf8.encode a).length ≤ (Utf8.encode b).length :=
  (h.flatMap String.utf8EncodeChar).length_le

/-- A sublist with as many bytes is the whole list. -/
theorem eq_of_sublist {a b : List Char} (h : a.Sublist b)
    (bytes : (Utf8.encode b).length ≤ (Utf8.encode a).length) : a = b :=
  Utf8.encode_injective ((h.flatMap String.utf8EncodeChar).eq_of_length_le bytes)

namespace Path

theorem split_eq_splitOnP (k : Kind) (cs : List Char) : split k cs = cs.splitOnP k.isSlash := by
  induction cs with
  | nil => rfl
  | cons c cs ih =>
    rw [List.splitOnP_cons_eq_if_modifyHead, split, ih]
    cases h : cs.splitOnP k.isSlash with
    | nil => exact absurd h (List.splitOnP_ne_nil k.isSlash cs)
    | cons piece rest => rfl

/-- Cutting at slashes takes them out. -/
theorem flatten_split (k : Kind) (cs : List Char) :
    (split k cs).flatten = cs.filter (!k.isSlash ·) := by
  induction cs with
  | nil => rfl
  | cons c cs ih =>
    rw [split]
    split
    · rename_i slash
      simp [slash, ih]
    · rename_i slash
      cases hcs : split k cs with
      | nil => exact absurd hcs (split_ne_nil k cs)
      | cons piece rest =>
        rw [hcs] at ih
        simpa [slash] using ih

def spelled (names : List String) : List UInt8 := names.flatMap fun name => Percent.decode name.toList

def content (piece : List Char) : List UInt8 :=
  if isDoubleDot piece || isDot piece then [] else Percent.decode piece

theorem length_content_le (piece : List Char) :
    (content piece).length ≤ (Utf8.encode piece).length := by
  unfold content
  split
  · exact Nat.zero_le _
  · exact Percent.length_decode_le piece

/-- Pieces bring no more bytes than they have. -/
theorem length_flatMap_content_le (pieces : List (List Char)) :
    (pieces.flatMap content).length ≤ (Utf8.encode pieces.flatten).length := by
  induction pieces with
  | nil => exact Nat.le_refl _
  | cons piece pieces ih =>
    have hpiece := length_content_le piece
    rw [List.flatMap_cons, List.flatten_cons, Utf8.encode_append, List.length_append,
      List.length_append]
    omega

theorem name_web (piece : List Char) :
    name .web piece = String.ofList (Percent.encode Percent.inPath piece) := rfl

theorem decode_name (piece : List Char) :
    Percent.decode (name .web piece).toList = Percent.decode piece := by
  rw [name_web, String.toList_ofList, Percent.decode_encode Percent.transparent_inPath]

theorem follow_plain {piece : List Char} (here : isDot piece = false)
    (higher : isDoubleDot piece = false) (k : Kind) (place : List String) (rest : List (List Char)) :
    follow k place (piece :: rest) = follow k (place ++ [name k piece]) rest := by
  cases rest with
  | nil => simp [follow, here, higher]
  | cons next rest => simp [follow, here, higher]

theorem spelled_append (a b : List String) : spelled (a ++ b) = spelled a ++ spelled b := by
  simp [spelled]

theorem spelled_folder (place : List String) : spelled (place ++ [""]) = spelled place := by
  rw [spelled_append]
  exact List.append_nil _

theorem spelled_push (place : List String) (piece : List Char) :
    spelled (place ++ [name .web piece]) = spelled place ++ Percent.decode piece := by
  have hname : spelled [name .web piece] = Percent.decode piece := by simp [spelled, decode_name]
  rw [spelled_append, hname]

theorem length_spelled_up_le (names : List String) :
    (spelled (up .web names)).length ≤ (spelled names).length := by
  have hup : up .web names = names.dropLast := rfl
  rw [hup, spelled, spelled]
  exact ((List.dropLast_sublist names).flatMap _).length_le

/-- A path holds no more bytes than its place and the pieces that were followed. -/
theorem length_spelled_follow_le (place : List String) (pieces : List (List Char)) :
    (spelled (follow .web place pieces)).length ≤
      (spelled place).length + (pieces.flatMap content).length := by
  fun_induction follow .web place pieces with
  | case1 place => exact Nat.le_refl _
  | case2 place last higher =>
    rw [spelled_folder]
    exact Nat.le_add_right_of_le (length_spelled_up_le place)
  | case3 place last higher here =>
    rw [spelled_folder]
    exact Nat.le_add_right _ _
  | case4 place last higher here =>
    rw [spelled_push]
    simp [content, higher, here]
  | case5 place piece rest more higher ih =>
    have hup := length_spelled_up_le place
    simp only [List.flatMap_cons, List.length_append]
    omega
  | case6 place piece rest more higher here ih =>
    simp only [List.flatMap_cons, List.length_append]
    omega
  | case7 place piece rest more higher here ih =>
    have hcontent : content piece = Percent.decode piece := by simp [content, higher, here]
    rw [spelled_push] at ih
    simp only [List.flatMap_cons, List.length_append, hcontent] at ih ⊢
    omega

/-- A piece that leads to one name and stands for its own bytes. -/
structure Plain (piece : List Char) : Prop where
  still : piece ≠ ['.'] ∧ piece ≠ ['.', '.']
  unmarked : Percent.Unmarked piece

theorem afterDot?_of_unmarked {cs rest : List Char} (unmarked : Percent.Unmarked cs)
    (h : afterDot? cs = some rest) : cs = '.' :: rest := by
  have hnumber : ∀ tail, '%' :: tail = cs → Percent.number? tail = none := by
    intro tail htail
    exact unmarked tail (htail ▸ List.suffix_refl _)
  unfold afterDot? at h
  split at h
  · rw [Option.some.inj h]
  · cases hnumber _ rfl
  · cases hnumber _ rfl
  · cases h

theorem Plain.not_dot {piece : List Char} (h : Plain piece) : isDot piece = false := by
  rw [isDot, beq_eq_false_iff_ne]
  intro hdot
  exact h.still.1 (afterDot?_of_unmarked h.unmarked hdot)

theorem Plain.not_doubleDot {piece : List Char} (h : Plain piece) : isDoubleDot piece = false := by
  rw [isDoubleDot, beq_eq_false_iff_ne]
  intro hdots
  obtain ⟨rest, hfirst, hsecond⟩ := Option.bind_eq_some_iff.mp hdots
  have hpiece := afterDot?_of_unmarked h.unmarked hfirst
  have hrest : Percent.Unmarked rest := (Percent.unmarked_cons.mp (hpiece ▸ h.unmarked)).2
  exact h.still.2 (by rw [hpiece, afterDot?_of_unmarked hrest hsecond])

/-- A piece that brings all of its bytes is plain. -/
theorem plain_of_length_le {piece : List Char}
    (h : (Utf8.encode piece).length ≤ (content piece).length) : Plain piece := by
  unfold content at h
  split at h
  · rename_i dots
    have hempty : Utf8.encode piece = [] := List.eq_nil_of_length_eq_zero (Nat.le_zero.mp h)
    obtain rfl : piece = [] := Utf8.encode_injective hempty
    cases dots
  · rename_i dots
    refine ⟨⟨?_, ?_⟩, Percent.unmarked_of_length_le h⟩
    · rintro rfl
      exact dots rfl
    · rintro rfl
      exact dots rfl

end Path

def pathText (cs : List Char) : List Char := (cutAt '?' (cutAt '#' (clean cs)).1).1

/-- Spaces and controls, which do not count at either end of a reference. -/
def isEdge (c : Char) : Bool := c.toNat ≤ 0x20

theorem isEdge_iff {c : Char} : isEdge c = false ↔ 0x20 < c.toNat := by simp [isEdge]

theorem clean_eq (cs : List Char) :
    clean cs = ((cs.dropWhile isEdge).rdropWhile isEdge).filter fun c =>
      c != '\t' && c != '\n' && c != '\r' := rfl

theorem clean_sublist (cs : List Char) : (clean cs).Sublist cs := by
  rw [clean_eq]
  apply List.filter_sublist.trans
  apply (List.rdropWhile_prefix isEdge _).sublist.trans
  exact List.dropWhile_sublist isEdge

theorem clean_concat {c : Char} (h : isEdge c = true) (cs : List Char) :
    clean (cs ++ [c]) = clean cs := by
  rw [clean_eq, clean_eq, List.dropWhile_append]
  split
  · rename_i hempty
    rw [List.isEmpty_iff.mp hempty, List.dropWhile_cons_of_pos h]
    rfl
  · rw [List.rdropWhile_concat_pos _ _ _ h]

/-- The characters that end a path, and those that a reference is read without. -/
def breaks : List Char := ['?', '#', '\t', '\n', '\r']

theorem pathText_eq (cs : List Char) :
    pathText cs = ((clean cs).takeWhile (· != '#')).takeWhile (· != '?') := by
  rw [pathText, Proofs.cutAt_fst, Proofs.cutAt_fst]

theorem pathText_sublist (cs : List Char) : (pathText cs).Sublist (clean cs) := by
  rw [pathText_eq]
  exact (List.takeWhile_sublist _).trans (List.takeWhile_sublist _)

theorem not_break_of_mem_pathText {cs : List Char} {c : Char} (h : c ∈ pathText cs) :
    c ∉ breaks := by
  have hclean : (c != '\t' && c != '\n' && c != '\r') = true :=
    (List.mem_filter.mp ((pathText_sublist cs).mem h)).2
  rw [pathText_eq] at h
  have hquery := List.mem_takeWhile_imp h
  have hfragment := List.mem_takeWhile_imp ((List.takeWhile_sublist _).mem h)
  simp only [Bool.and_eq_true, bne_iff_ne] at hclean hquery hfragment
  simp [breaks, hclean, hquery, hfragment]

/-- A reference that is a path as it stands. -/
structure Whole (cs : List Char) : Prop where
  first : ∀ c ∈ cs.head?, isEdge c = false
  last : ∀ c ∈ cs.getLast?, isEdge c = false
  unbroken : ∀ c ∈ cs, c ∉ breaks

theorem Whole.clean {cs : List Char} (h : Whole cs) : Url.clean cs = cs := by
  have hfirst : cs.dropWhile isEdge = cs := by
    cases cs with
    | nil => rfl
    | cons c rest => exact List.dropWhile_cons_of_neg (by simp [h.first c rfl])
  have hlast : cs.rdropWhile isEdge = cs := by
    rw [List.rdropWhile_eq_self_iff]
    intro hne
    simp [h.last _ (List.getLast?_eq_some_getLast hne)]
  rw [clean_eq, hfirst, hlast, List.filter_eq_self]
  intro c hc
  have hunbroken := h.unbroken c hc
  simp only [breaks, List.mem_cons, not_or] at hunbroken
  simp [hunbroken]

theorem cutAt_absent {c : Char} {cs : List Char} (h : c ∉ cs) : cutAt c cs = (cs, none) := by
  have hnone : cs.dropWhile (· != c) = [] := by
    rw [List.dropWhile_eq_nil_iff]
    intro x hx
    exact bne_iff_ne.mpr (ne_of_mem_of_not_mem hx h)
  rw [cutAt, hnone]

theorem Whole.cuts {cs : List Char} (h : Whole cs) :
    cutAt '#' (Url.clean cs) = (cs, none) ∧ cutAt '?' cs = (cs, none) := by
  rw [h.clean]
  constructor
  · exact cutAt_absent fun hc => h.unbroken _ hc (by decide)
  · exact cutAt_absent fun hc => h.unbroken _ hc (by decide)

theorem Whole.pathText {cs : List Char} (h : Whole cs) : pathText cs = cs := by
  rw [Url.pathText, h.cuts.1, h.cuts.2]

/-- The path of a reference below a URL of the web. -/
theorem join_web {u : Url} (h : Proofs.Endpoint u) (reference : String) :
    ∃ url, u.join reference = .ok url ∧
      url.path = .segments (Path.follow .web (Proofs.above u)
        (Path.split .web (pathText reference.toList))) ∧
      (Whole reference.toList → url.query = none) := by
  obtain ⟨names, hpath⟩ := h.folder
  refine ⟨_, by rw [join, hpath], ?_, ?_⟩
  · simp only [h.kind, Proofs.above, hpath, pathText]
    rfl
  · intro whole
    simp only [whole.cuts.1, whole.cuts.2]
    rfl

end TxDispatch.Url

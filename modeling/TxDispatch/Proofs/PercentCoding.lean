import TxDispatch.Url

namespace TxDispatch.Url

open Text

namespace Percent

def digit? (cs : List Char) : Option Nat := cs.head?.bind Hex.worth?

def number? (cs : List Char) : Option UInt8 := do
  let high ← digit? cs
  let low ← digit? cs.tail
  return UInt8.ofNat (16 * high + low)

theorem number?_shape {cs : List Char} {b : UInt8} (h : number? cs = some b) :
    ∃ a c tail high low, cs = a :: c :: tail ∧ Hex.worth? a = some high ∧
      Hex.worth? c = some low ∧ UInt8.ofNat (16 * high + low) = b := by
  simp only [number?, Option.bind_eq_bind, Option.bind_eq_some_iff] at h
  obtain ⟨high, hhigh, low, hlow, hb⟩ := h
  match cs with
  | [] => simp [digit?] at hhigh
  | [_] => simp [digit?] at hlow
  | a :: c :: tail => exact ⟨a, c, tail, high, low, rfl, hhigh, hlow, Option.some.inj hb⟩

/-- A text in which no percent sign stands before the number of a byte. -/
def Unmarked (cs : List Char) : Prop := ∀ rest, '%' :: rest <:+ cs → number? rest = none

theorem unmarked_cons {c : Char} {cs : List Char} :
    Unmarked (c :: cs) ↔ (c = '%' → number? cs = none) ∧ Unmarked cs := by
  simp only [Unmarked, List.suffix_cons_iff, List.cons.injEq]
  constructor
  · intro h
    exact ⟨fun hc => h cs (.inl ⟨hc.symm, rfl⟩), fun rest hrest => h rest (.inr hrest)⟩
  · rintro ⟨hhere, hlater⟩ rest (⟨hc, rfl⟩ | hrest)
    · exact hhere hc.symm
    · exact hlater rest hrest

/-- A number behind a percent sign stands for its byte. -/
theorem decode_number {rest : List Char} {b : UInt8} (h : number? rest = some b) :
    decode ('%' :: rest) = b :: decode (rest.drop 2) := by
  obtain ⟨a, c, tail, high, low, rfl, hhigh, hlow, rfl⟩ := number?_shape h
  simp only [decode, hhigh, hlow, List.drop_succ_cons, List.drop_zero]

/-- All other characters stand for themselves. -/
theorem decode_cons {c : Char} {rest : List Char} (h : c = '%' → number? rest = none) :
    decode (c :: rest) = Utf8.encode [c] ++ decode rest := by
  by_cases hc : c = '%'
  · subst hc
    match rest with
    | [] => rfl
    | [_] => rfl
    | a :: b :: tail =>
      rw [decode]
      split
      · rename_i high low hhigh hlow
        have hnumber := h rfl
        simp [number?, digit?, hhigh, hlow] at hnumber
      · rfl
  · rw [decode]
    intro a b tail heq
    exact absurd heq hc

/-- A text is read from its front: a number behind a percent sign, or else one character. The cases of
`decode` itself do not tell these two apart, since a percent sign near the end falls through. -/
@[elab_as_elim]
theorem decode_induction {motive : List Char → Prop} (nil : motive [])
    (number : ∀ rest b, number? rest = some b → motive (rest.drop 2) → motive ('%' :: rest))
    (cons : ∀ c rest, (c = '%' → number? rest = none) → motive rest → motive (c :: rest))
    (cs : List Char) : motive cs := by
  match cs with
  | [] => exact nil
  | c :: rest =>
    by_cases hc : c = '%' ∧ (number? rest).isSome = true
    · obtain ⟨rfl, hsome⟩ := hc
      obtain ⟨b, hb⟩ := Option.isSome_iff_exists.mp hsome
      exact number rest b hb (decode_induction nil number cons (rest.drop 2))
    · refine cons c rest ?_ (decode_induction nil number cons rest)
      intro heq
      simpa [heq] using hc
termination_by cs.length

/-- A number takes up two characters and stands for one byte. -/
theorem length_drop_number {rest : List Char} {b : UInt8} (h : number? rest = some b) :
    (Utf8.encode (rest.drop 2)).length + 2 ≤ (Utf8.encode rest).length := by
  obtain ⟨a, c, tail, _, _, rfl, _⟩ := number?_shape h
  have ha := Char.utf8Size_pos a
  have hc := Char.utf8Size_pos c
  simp only [Utf8.encode, List.drop_succ_cons, List.drop_zero, List.flatMap_cons,
    List.length_append, String.length_utf8EncodeChar]
  omega

/-- A text stands for no more bytes than it has. -/
theorem length_decode_le (cs : List Char) : (decode cs).length ≤ (Utf8.encode cs).length := by
  induction cs using decode_induction with
  | nil => simp [decode]
  | number rest b hnumber ih =>
    have hdrop := length_drop_number hnumber
    rw [decode_number hnumber, Utf8.encode_cons '%' rest, List.length_append, List.length_cons]
    omega
  | cons c rest hc ih =>
    rw [decode_cons hc, Utf8.encode_cons c rest, List.length_append, List.length_append]
    omega

/-- A text that no percent sign marks a byte in stands for its own bytes. -/
theorem decode_of_unmarked {cs : List Char} (h : Unmarked cs) : decode cs = Utf8.encode cs := by
  induction cs with
  | nil => rfl
  | cons c rest ih =>
    obtain ⟨hc, hrest⟩ := unmarked_cons.mp h
    rw [decode_cons hc, Utf8.encode_cons c rest, ih hrest]

/-- No other text stands for as many bytes as it has. -/
theorem unmarked_of_length_le {cs : List Char}
    (h : (Utf8.encode cs).length ≤ (decode cs).length) : Unmarked cs := by
  induction cs using decode_induction with
  | nil => simp [Unmarked]
  | number rest b hnumber ih =>
    have hdrop := length_drop_number hnumber
    have hle := length_decode_le (rest.drop 2)
    rw [decode_number hnumber, Utf8.encode_cons '%' rest, List.length_append, List.length_cons] at h
    omega
  | cons c rest hc ih =>
    rw [decode_cons hc, Utf8.encode_cons c rest, List.length_append, List.length_append] at h
    exact unmarked_cons.mpr ⟨hc, ih (Nat.le_of_add_le_add_left h)⟩

theorem encode_cons (escaped : Char → Bool) (c : Char) (cs : List Char) :
    encode escaped (c :: cs) =
      (if escaped c then (Utf8.encode [c]).flatMap triple else [c]) ++ encode escaped cs := rfl

theorem encode_eq_self {escaped : Char → Bool} {cs : List Char} (h : ∀ c ∈ cs, escaped c = false) :
    encode escaped cs = cs := by
  induction cs with
  | nil => rfl
  | cons c cs ih =>
    obtain ⟨hc, hcs⟩ := List.forall_mem_cons.mp h
    rw [encode_cons, hc, ih hcs]
    rfl

theorem worth?_hexDigit : ∀ n < 16, Hex.worth? (hexDigit n) = some n := by decide

theorem decode_triple (b : UInt8) (rest : List Char) :
    decode (triple b ++ rest) = b :: decode rest := by
  have hhigh := worth?_hexDigit (b.toNat / 16) (by have := b.toNat_lt; omega)
  have hlow := worth?_hexDigit (b.toNat % 16) (by omega)
  have hbyte : UInt8.ofNat (16 * (b.toNat / 16) + b.toNat % 16) = b := by
    rw [Nat.div_add_mod, UInt8.ofNat_toNat]
  have hnumber : number? (hexDigit (b.toNat / 16) :: hexDigit (b.toNat % 16) :: rest) = some b := by
    simp only [number?, digit?, List.head?_cons, List.tail_cons, Option.bind_some, hhigh, hlow]
    exact congrArg some hbyte
  exact decode_number hnumber

theorem decode_triples (bytes : List UInt8) (rest : List Char) :
    decode (bytes.flatMap triple ++ rest) = bytes ++ decode rest := by
  induction bytes with
  | nil => rfl
  | cons b bytes ih =>
    rw [List.flatMap_cons, List.append_assoc, decode_triple, ih]
    rfl

/-- What is escaped leaves percent signs and their digits alone. -/
structure Transparent (escaped : Char → Bool) : Prop where
  percent : escaped '%' = false
  digit : ∀ c n, Hex.worth? c = some n → escaped c = false

variable {escaped : Char → Bool}

theorem Transparent.worth?_eq_none (h : Transparent escaped) {c : Char} (hc : escaped c = true) :
    Hex.worth? c = none := by
  refine Option.eq_none_iff_forall_ne_some.mpr ?_
  intro n hn
  exact absurd hc (by simp [h.digit c n hn])

/-- Bytes are written from a percent sign on. -/
theorem head?_triples (c : Char) (rest : List Char) :
    ((Utf8.encode [c]).flatMap triple ++ rest).head? = some '%' := by
  cases hbytes : Utf8.encode [c] with
  | nil =>
    have hnil : [c] = [] := Utf8.encode_injective hbytes
    cases hnil
  | cons b bytes => rfl

theorem digit?_encode (h : Transparent escaped) (cs : List Char) :
    digit? (encode escaped cs) = digit? cs := by
  cases cs with
  | nil => rfl
  | cons c rest =>
    rw [encode_cons]
    by_cases hc : escaped c = true
    · have hnone : digit? (c :: rest) = none := h.worth?_eq_none hc
      rw [if_pos hc, hnone, digit?, head?_triples]
      rfl
    · rw [if_neg hc]
      rfl

theorem number?_encode (h : Transparent escaped) (cs : List Char) :
    number? (encode escaped cs) = number? cs := by
  cases cs with
  | nil => rfl
  | cons c rest =>
    by_cases hc : escaped c = true
    · have hnone : digit? (c :: rest) = none := h.worth?_eq_none hc
      rw [number?, digit?_encode h, number?, hnone]
      rfl
    · have htail : (encode escaped (c :: rest)).tail = encode escaped rest := by
        rw [encode_cons, if_neg hc]
        rfl
      rw [number?, digit?_encode h, htail, digit?_encode h]
      rfl

theorem drop_encode (h : Transparent escaped) {rest : List Char} {b : UInt8}
    (hnumber : number? rest = some b) :
    (encode escaped rest).drop 2 = encode escaped (rest.drop 2) := by
  obtain ⟨a, c, tail, high, low, rfl, hhigh, hlow, _⟩ := number?_shape hnumber
  simp [encode_cons, h.digit a high hhigh, h.digit c low hlow]

/-- Escaping does not change what a text stands for. -/
theorem decode_encode (h : Transparent escaped) (cs : List Char) :
    decode (encode escaped cs) = decode cs := by
  induction cs using decode_induction with
  | nil => rfl
  | number rest b hnumber ih =>
    have hlater : number? (encode escaped rest) = some b := (number?_encode h rest).trans hnumber
    rw [encode_cons, h.percent, decode_number hnumber, ← ih, ← drop_encode h hnumber]
    exact decode_number hlater
  | cons c rest hc ih =>
    rw [encode_cons, decode_cons hc]
    by_cases hescaped : escaped c = true
    · rw [if_pos hescaped, decode_triples, ih]
    -- A percent sign stays, and what follows it must not become a number by being escaped.
    · rw [if_neg hescaped]
      have hlater : c = '%' → number? (encode escaped rest) = none := by
        rw [number?_encode h]
        exact hc
      exact (decode_cons hlater).trans (congrArg _ ih)

theorem toNat_lt_of_worth? {c : Char} {n : Nat} (h : Hex.worth? c = some n) : c.toNat < 128 := by
  have below (last : Char) (hlast : last.toNat < 128) (hc : c ≤ last) : c.toNat < 128 :=
    Nat.lt_of_le_of_lt hc hlast
  unfold Hex.worth? at h
  split at h
  · rename_i hc
    exact below '9' (by decide) hc.2
  · split at h
    · rename_i hc
      exact below 'f' (by decide) hc.2
    · split at h
      · rename_i hc
        exact below 'F' (by decide) hc.2
      · cases h

theorem transparent_inPath : Transparent inPath where
  percent := by decide
  digit c n h := by
    have hascii : ∀ m < 128, (Hex.worth? (Char.ofNat m)).isSome → inPath (Char.ofNat m) = false := by
      decide
    have hc := hascii c.toNat (toNat_lt_of_worth? h)
    rw [Char.ofNat_toNat, h] at hc
    exact hc rfl

/-- What holds of a byte by its number holds of every byte. -/
theorem forall_byte {p : UInt8 → Prop} (h : ∀ n < 256, p (UInt8.ofNat n)) (b : UInt8) : p b := by
  have hb := h b.toNat b.toNat_lt
  rwa [UInt8.ofNat_toNat] at hb

theorem slash_not_mem_triple : ∀ b, '/' ∉ triple b := forall_byte (by decide +kernel)

/-- Escaping writes no slash. -/
theorem slash_not_mem_encode {cs : List Char} (h : '/' ∉ cs) : '/' ∉ encode escaped cs := by
  intro hmem
  obtain ⟨c, hc, hslash⟩ := List.mem_flatMap.mp hmem
  split at hslash
  · obtain ⟨b, _, hb⟩ := List.mem_flatMap.mp hslash
    exact slash_not_mem_triple b hb
  · exact h (List.mem_singleton.mp hslash ▸ hc)

def formDecode (cs : List Char) : List UInt8 :=
  decode (cs.map fun c => if c = '+' then ' ' else c)

def formByte (b : UInt8) : List Char :=
  if isFormByte b then [Char.ofNat b.toNat] else if b == 0x20 then ['+'] else triple b

theorem formEncode_eq (cs : List Char) : formEncode cs = (Utf8.encode cs).flatMap formByte := rfl

theorem formByte_kept : ∀ b, isFormByte b → Char.ofNat b.toNat ≠ '%' ∧ Char.ofNat b.toNat ≠ '+' ∧
    Utf8.encode [Char.ofNat b.toNat] = [b] :=
  forall_byte (by decide +kernel)

theorem not_mem_formByte : ∀ b, '&' ∉ formByte b ∧ '=' ∉ formByte b :=
  forall_byte (by decide +kernel)

theorem hexDigit_ne_plus : ∀ n < 16, hexDigit n ≠ '+' := by decide

theorem formDecode_formByte (b : UInt8) (rest : List Char) :
    formDecode (formByte b ++ rest) = b :: formDecode rest := by
  unfold formByte
  split
  · rename_i hkept
    obtain ⟨hpercent, hplus, hbyte⟩ := formByte_kept b hkept
    rw [formDecode, List.map_append, List.map_singleton, if_neg hplus, List.singleton_append,
      decode_cons (fun h => absurd h hpercent), hbyte]
    rfl
  · split
    · rename_i hspace
      rw [eq_of_beq hspace, formDecode, List.map_append, List.map_singleton, if_pos rfl,
        List.singleton_append]
      exact decode_cons fun h => absurd h (by decide)
    · have hhigh := hexDigit_ne_plus (b.toNat / 16) (by have := b.toNat_lt; omega)
      have hlow := hexDigit_ne_plus (b.toNat % 16) (by omega)
      have hsame : (triple b).map (fun c => if c = '+' then ' ' else c) = triple b := by
        simp [triple, hhigh, hlow]
      rw [formDecode, List.map_append, hsame, decode_triple]
      rfl

/-- A value that was written for a form is read back as its bytes. -/
theorem formDecode_formEncode (cs : List Char) : formDecode (formEncode cs) = Utf8.encode cs := by
  rw [formEncode_eq]
  induction Utf8.encode cs with
  | nil => rfl
  | cons b bytes ih => rw [List.flatMap_cons, formDecode_formByte, ih]

theorem not_mem_formEncode (cs : List Char) : '&' ∉ formEncode cs ∧ '=' ∉ formEncode cs := by
  simp only [formEncode_eq, List.mem_flatMap, not_exists, not_and]
  exact ⟨fun b _ => (not_mem_formByte b).1, fun b _ => (not_mem_formByte b).2⟩

end Percent

/-- The parameters of a query in bytes: the pieces between ampersands, each with its name before the
first equals sign. -/
def parameters (query : Option String) : List (List UInt8 × List UInt8) :=
  (((query.getD "").toList.splitOn '&').filter (· ≠ [])).map fun piece =>
    (Percent.formDecode (cutAt '=' piece).1, Percent.formDecode ((cutAt '=' piece).2.getD []))

theorem cutAt_append {c : Char} {a : List Char} (h : c ∉ a) (rest : List Char) :
    cutAt c (a ++ c :: rest) = (a, some rest) := by
  have hall : ∀ x ∈ a, (x != c) = true := by
    intro x hx
    exact bne_iff_ne.mpr (ne_of_mem_of_not_mem hx h)
  have hdrop : (a ++ c :: rest).dropWhile (· != c) = c :: rest := by
    rw [List.dropWhile_append_of_pos hall, List.dropWhile_cons_of_neg (by simp)]
  have htake : (a ++ c :: rest).takeWhile (· != c) = a := by
    rw [List.takeWhile_append_of_pos hall, List.takeWhile_cons_of_neg (by simp), List.append_nil]
  rw [cutAt, hdrop]
  exact congrArg (·, some rest) htake

def formPiece (p : String × String) : List Char :=
  Percent.formEncode p.1.toList ++ '=' :: Percent.formEncode p.2.toList

theorem toList_withParameters {u : Url} (h : u.query = none) (ps : List (String × String)) :
    ((u.withParameters ps).query.getD "").toList = ['&'].intercalate (ps.map formPiece) := by
  have hform : ("&".intercalate (ps.map fun p => String.ofList (formPiece p))).toList =
      ['&'].intercalate (ps.map formPiece) := by
    simp [String.toList_intercalate, Function.comp_def]
  have hquery : (u.withParameters ps).query.getD "" =
      "&".intercalate (ps.map fun p => String.ofList (formPiece p)) := by
    simp only [withParameters, h, Option.filter_none, Option.toList_none, List.nil_append]
    split
    · rename_i hempty
      exact (String.isEmpty_iff.mp hempty).symm
    · rfl
  rw [hquery, hform]

theorem not_mem_formPiece (p : String × String) : '&' ∉ formPiece p := by
  have hname := (Percent.not_mem_formEncode p.1.toList).1
  have hvalue := (Percent.not_mem_formEncode p.2.toList).1
  simp [formPiece, hname, hvalue]

/-- The parameters that are added to a URL without a query are its parameters. -/
theorem parameters_withParameters {u : Url} (h : u.query = none) (ps : List (String × String)) :
    parameters (u.withParameters ps).query =
      ps.map fun p => (Utf8.encode p.1.toList, Utf8.encode p.2.toList) := by
  rw [parameters, toList_withParameters h]
  cases ps with
  | nil => rfl
  | cons p ps =>
    have hpieces : ∀ piece ∈ (p :: ps).map formPiece, '&' ∉ piece ∧ piece ≠ [] := by
      intro piece hpiece
      obtain ⟨q, _, rfl⟩ := List.mem_map.mp hpiece
      exact ⟨not_mem_formPiece q, by simp [formPiece]⟩
    rw [List.splitOn_intercalate '&' (fun piece hpiece => (hpieces piece hpiece).1) (by simp),
      List.filter_eq_self.mpr (fun piece hpiece => decide_eq_true (hpieces piece hpiece).2),
      List.map_map]
    apply List.map_congr_left
    intro q _
    have hcut := cutAt_append (Percent.not_mem_formEncode q.1.toList).2
      (Percent.formEncode q.2.toList)
    simp only [Function.comp_apply, formPiece, hcut, Option.getD_some,
      Percent.formDecode_formEncode]

end TxDispatch.Url

import Mathlib.Algebra.Group.Nat.Defs
import Mathlib.Data.List.Forall2
import Mathlib.Data.Nat.Digits.Defs
import TxDispatch.Coin

namespace TxDispatch

open Text

namespace Coin

def Letter (c : Char) : Prop := ('a' ≤ c ∧ c ≤ 'z') ∨ ('A' ≤ c ∧ c ≤ 'Z')

def Numeral (c : Char) : Prop := '0' ≤ c ∧ c ≤ '9'

/-- The characters of a denomination after its first, `[a-zA-Z0-9/:._-]`. -/
def Sign (c : Char) : Prop := Letter c ∨ Numeral c ∨ c ∈ ['/', ':', '.', '_', '-']

/-- The denominations, `[a-zA-Z][a-zA-Z0-9/:._-]{2,127}`. -/
inductive Denomination : List Char → Prop where
  | mk {c cs} (first : Letter c) (rest : ∀ x ∈ cs, Sign x) (least : 2 ≤ cs.length)
      (most : cs.length ≤ 127) : Denomination (c :: cs)

/-- A text falls into digits and a denomination, once the blanks around it are cut off. -/
structure Parts (text digits denom : List Char) : Prop where
  padded : ∃ before after, text = before ++ (digits ++ denom) ++ after ∧
    ∀ c ∈ before ++ after, isBlankChar c = true
  some : digits ≠ []
  numerals : ∀ c ∈ digits, Numeral c
  denomination : Denomination denom

def worth (digits : List Char) : Nat :=
  Nat.ofDigits 10 (digits.reverse.map fun d => d.toNat - '0'.toNat)

/-- A text of a coin: its digits are worth the amount, which may have zeros in front, and what comes
after them is the denomination. -/
def Reads (text : List Char) (c : Coin) : Prop :=
  ∃ digits, Parts text digits c.denom.toList ∧ worth digits = c.amount.toNat

theorem value_reverse (ds : List Char) :
    Digits.value ds.reverse = Nat.ofDigits 10 (ds.map fun d => d.toNat - '0'.toNat) := by
  induction ds with
  | nil => rfl
  | cons d ds ih =>
    rw [List.reverse_cons, Digits.value_concat, ih, List.map_cons, Nat.ofDigits_cons, Nat.add_comm]
    rfl

theorem worth_eq (digits : List Char) : worth digits = Digits.value digits := by
  rw [worth, ← value_reverse, List.reverse_reverse]

theorem isAlpha_iff (c : Char) : c.isAlpha = true ↔ Letter c := by
  have hupper : c.isUpper = true ↔ 'A' ≤ c ∧ c ≤ 'Z' := decide_eq_true_iff
  have hlower : c.isLower = true ↔ 'a' ≤ c ∧ c ≤ 'z' :=
    Bool.and_eq_true_iff.trans (and_congr decide_eq_true_iff decide_eq_true_iff)
  exact Bool.or_eq_true_iff.trans ((or_congr hupper hlower).trans or_comm)

theorem isDigit_iff (c : Char) : c.isDigit = true ↔ Numeral c := by
  simp [Char.isDigit, Numeral, Char.le_def]

theorem isDenomChar_iff (c : Char) : isDenomChar c = true ↔ Sign c := by
  simp [isDenomChar, Char.isAlphanum, isAlpha_iff, isDigit_iff, Sign, or_assoc]

theorem isDenom_iff (cs : List Char) : isDenom cs = true ↔ Denomination cs := by
  constructor
  · intro h
    cases cs with
    | nil => cases h
    | cons c cs =>
      simp only [isDenom, Bool.and_eq_true, decide_eq_true_eq, List.all_eq_true] at h
      obtain ⟨⟨⟨hfirst, hleast⟩, hmost⟩, hrest⟩ := h
      exact .mk ((isAlpha_iff c).mp hfirst) (fun x hx => (isDenomChar_iff x).mp (hrest x hx))
        (by omega) (by omega)
  · rintro ⟨first, rest, least, most⟩
    simp only [isDenom, Bool.and_eq_true, decide_eq_true_eq, List.all_eq_true]
    exact ⟨⟨⟨(isAlpha_iff _).mpr first, by omega⟩, by omega⟩,
      fun x hx => (isDenomChar_iff x).mpr (rest x hx)⟩

theorem Letter.not_numeral {c : Char} (h : Letter c) : ¬ Numeral c := by
  change (97 ≤ c.toNat ∧ c.toNat ≤ 122) ∨ (65 ≤ c.toNat ∧ c.toNat ≤ 90) at h
  change ¬ (48 ≤ c.toNat ∧ c.toNat ≤ 57)
  omega

theorem Sign.bounds {c : Char} (h : Sign c) : 44 < c.toNat ∧ c.toNat < 127 := by
  rcases h with h | h | h
  · change (97 ≤ c.toNat ∧ c.toNat ≤ 122) ∨ (65 ≤ c.toNat ∧ c.toNat ≤ 90) at h
    omega
  · change 48 ≤ c.toNat ∧ c.toNat ≤ 57 at h
    omega
  · simp only [List.mem_cons, List.not_mem_nil, or_false] at h
    rcases h with rfl | rfl | rfl | rfl | rfl <;> decide

theorem Sign.not_blank {c : Char} (h : Sign c) : isBlankChar c = false :=
  isBlankChar_of_visible (Nat.lt_trans (by decide) h.bounds.1) h.bounds.2

theorem Sign.ne_comma {c : Char} (h : Sign c) : c ≠ ',' := by
  rintro rfl
  exact absurd h.bounds.1 (by decide)

theorem Denomination.sign {cs : List Char} (h : Denomination cs) : ∀ c ∈ cs, Sign c := by
  obtain ⟨first, rest, _, _⟩ := h
  exact List.forall_mem_cons.mpr ⟨.inl first, rest⟩

/-- The digits in front of a denomination are all the digits there are. -/
theorem Denomination.span {digits denom : List Char} (h : Denomination denom)
    (numerals : ∀ c ∈ digits, Numeral c) :
    (digits ++ denom).takeWhile Char.isDigit = digits ∧
      (digits ++ denom).dropWhile Char.isDigit = denom := by
  obtain ⟨first, _, _, _⟩ := h
  refine Digits.span_digits (fun c hc => (isDigit_iff c).mpr (numerals c hc)) fun c hc => ?_
  cases hc
  exact Bool.eq_false_iff.mpr (mt (isDigit_iff _).mp first.not_numeral)

namespace Parts

variable {text digits denom : List Char}

theorem sign (h : Parts text digits denom) : ∀ c ∈ digits ++ denom, Sign c := by
  intro c hc
  rcases List.mem_append.mp hc with hdigit | hdenom
  · exact .inr (.inl (h.numerals c hdigit))
  · exact h.denomination.sign c hdenom

theorem trim_eq (h : Parts text digits denom) : trim text = digits ++ denom := by
  obtain ⟨before, after, rfl, hblank⟩ := h.padded
  exact trim_padded hblank fun c hc => (h.sign c hc).not_blank

/-- A text falls into its parts in one way only. -/
theorem unique {digits' denom' : List Char} (h : Parts text digits denom)
    (h' : Parts text digits' denom') : digits = digits' ∧ denom = denom' := by
  obtain ⟨htake, hdrop⟩ := h.denomination.span h.numerals
  obtain ⟨htake', hdrop'⟩ := h'.denomination.span h'.numerals
  have hjoin : digits ++ denom = digits' ++ denom' := h.trim_eq.symm.trans h'.trim_eq
  rw [hjoin] at htake hdrop
  exact ⟨htake.symm.trans htake', hdrop.symm.trans hdrop'⟩

end Parts

theorem parseChars_ok {cs : List Char} {c : Coin} (h : Reads cs c) : parseChars cs = .ok c := by
  obtain ⟨digits, hparts, hvalue⟩ := h
  obtain ⟨htake, hdrop⟩ := hparts.denomination.span hparts.numerals
  have hdenom := (isDenom_iff _).mpr hparts.denomination
  have hsome : c.denom.toList ≠ [] := by
    intro hnil
    rw [hnil] at hdenom
    cases hdenom
  have hword : Digits.toWord128? (Digits.value digits) = some c.amount :=
    Digits.toWord128?_eq_some_iff.mpr ((worth_eq digits).symm.trans hvalue)
  simp [parseChars, hparts.trim_eq, htake, hdrop, hdenom, hsome, hparts.some, hword]

theorem reads_of_parseChars {cs : List Char} {c : Coin} (h : parseChars cs = .ok c) :
    Reads cs c := by
  obtain ⟨before, after, hcs, hblank⟩ := exists_trim cs
  have hspan := List.takeWhile_append_dropWhile (p := Char.isDigit) (l := trim cs)
  simp only [parseChars] at h
  split at h
  · cases h
  split at h
  · cases h
  split at h
  · cases h
  rename_i _ hdigits hdenom
  split at h
  · cases h
  rename_i amount hword
  cases h
  refine ⟨(trim cs).takeWhile Char.isDigit, ⟨⟨before, after, ?_, hblank⟩, ?_, ?_, ?_⟩, ?_⟩
  · rw [String.toList_ofList, hspan, ← hcs]
  · simpa using hdigits
  · exact fun c hc => (isDigit_iff c).mp (List.all_eq_true.mp List.all_takeWhile c hc)
  · simpa [isDenom_iff] using hdenom
  · rw [worth_eq]
    exact Digits.toWord128?_eq_some_iff.mp hword

/-- Reading accepts the texts of a coin and no others. -/
theorem parse_eq_ok_iff {s : String} {c : Coin} : parse s = .ok c ↔ Reads s.toList c :=
  ⟨reads_of_parseChars, parseChars_ok⟩

/-- Some coin is read off every text that has the parts of one and an amount of 128 bits. -/
theorem exists_parse_ok_iff {s : String} : (∃ c, parse s = .ok c) ↔
    ∃ digits denom, Parts s.toList digits denom ∧ worth digits ≤ 2 ^ 128 - 1 := by
  constructor
  · rintro ⟨c, h⟩
    obtain ⟨digits, hparts, hvalue⟩ := parse_eq_ok_iff.mp h
    have hamount := c.amount.isLt
    exact ⟨digits, c.denom.toList, hparts, by omega⟩
  · rintro ⟨digits, denom, hparts, hvalue⟩
    refine ⟨⟨.ofNat 128 (worth digits), .ofList denom⟩, parse_eq_ok_iff.mpr ⟨digits, ?_, ?_⟩⟩
    · rwa [String.toList_ofList]
    · rw [BitVec.toNat_ofNat, Nat.mod_eq_of_lt (by omega)]

/-- The compact notation of a coin is one of its texts. -/
theorem parts_chars {c : Coin} (h : Denomination c.denom.toList) :
    Parts c.chars (Digits.ofNat c.amount.toNat) c.denom.toList where
  padded := ⟨[], [], by simp [chars], by simp⟩
  some := Digits.lowest_ne_nil _ _
  numerals _ hd := (isDigit_iff _).mp (Digits.isDigit_of_mem_ofNat hd)
  denomination := h

theorem reads_chars {c : Coin} (h : Denomination c.denom.toList) : Reads c.chars c :=
  ⟨Digits.ofNat c.amount.toNat, parts_chars h, by rw [worth_eq, Digits.value_ofNat]⟩

theorem sign_of_mem_chars {c : Coin} (h : Denomination c.denom.toList) : ∀ x ∈ c.chars, Sign x :=
  (parts_chars h).sign

/-- After a leading zero comes the denomination. -/
theorem chars_lean {c : Coin} (h : Denomination c.denom.toList) {x : Char} {cs : List Char}
    (zero : c.chars = '0' :: x :: cs) : ¬ Numeral x := by
  obtain ⟨d, ds, hdigits, _, hsingle⟩ := Digits.ofNat_eq_cons c.amount.toNat
  rw [chars, hdigits, List.cons_append, List.cons.injEq] at zero
  obtain ⟨hd, hrest⟩ := zero
  rw [hsingle hd, List.nil_append] at hrest
  rw [hrest] at h
  obtain ⟨first, _, _, _⟩ := h
  exact first.not_numeral

end Coin

open Coin (Denomination Numeral Parts Reads)

section Items

variable {ε α β : Type} {read : α → Except ε β} {x : α} {xs : List α}

theorem mapM_cons_of_error {e : ε} (h : read x = .error e) : (x :: xs).mapM read = .error e := by
  simp [List.mapM_cons, h, bind, Except.bind]

theorem mapM_cons_of_ok {y : β} (h : read x = .ok y) :
    (x :: xs).mapM read = (xs.mapM read).map (y :: ·) := by
  cases hxs : xs.mapM read <;>
    simp [List.mapM_cons, h, hxs, bind, Except.bind, pure, Except.pure, Except.map]

/-- A list is read if each of its items is. -/
theorem mapM_eq_ok_iff {ys : List β} :
    xs.mapM read = .ok ys ↔ List.Forall₂ (fun x y => read x = .ok y) xs ys := by
  induction xs generalizing ys with
  | nil => simp [pure, Except.pure, eq_comm]
  | cons x xs ih =>
    rw [List.forall₂_cons_left_iff]
    simp only [← ih]
    cases hx : read x with
    | error e => simp [mapM_cons_of_error hx]
    | ok y => cases h : xs.mapM read <;> simp [mapM_cons_of_ok hx, h, Except.map, eq_comm]

/-- A list is refused for the first of its items that is. -/
theorem mapM_eq_error_iff {e : ε} :
    xs.mapM read = .error e ↔ ∃ before bad after, xs = before ++ bad :: after ∧
      (∀ x ∈ before, ∃ y, read x = .ok y) ∧ read bad = .error e := by
  constructor
  · intro h
    induction xs with
    | nil => cases h
    | cons x xs ih =>
      cases hx : read x with
      | error e' =>
        rw [mapM_cons_of_error hx] at h
        exact ⟨[], x, xs, rfl, by simp, hx.trans (congrArg _ (Except.error.inj h))⟩
      | ok y =>
        have hrest : xs.mapM read = .error e := by
          rw [mapM_cons_of_ok hx] at h
          cases hxs : xs.mapM read with
          | error e' =>
            rw [hxs] at h
            exact congrArg _ (Except.error.inj h)
          | ok ys =>
            rw [hxs] at h
            cases h
        obtain ⟨before, bad, after, rfl, hall, hbad⟩ := ih hrest
        exact ⟨x :: before, bad, after, rfl, List.forall_mem_cons.mpr ⟨⟨y, hx⟩, hall⟩, hbad⟩
  · rintro ⟨before, bad, after, rfl, hall, hbad⟩
    induction before with
    | nil => exact mapM_cons_of_error hbad
    | cons x before ih =>
      obtain ⟨⟨y, hx⟩, hrest⟩ := List.forall_mem_cons.mp hall
      rw [List.cons_append, mapM_cons_of_ok hx, ih hrest]
      rfl

end Items

namespace Coins

structure Separated (text : List Char) (ps : List (List Char)) : Prop where
  joined : text = [','].intercalate ps
  some : ps ≠ []
  whole : ∀ p ∈ ps, ',' ∉ p

theorem separated_iff {text : List Char} {ps : List (List Char)} :
    Separated text ps ↔ pieces text = ps := by
  constructor
  · rintro ⟨rfl, some, whole⟩
    rw [pieces_eq_splitOn, List.splitOn_intercalate ',' whole some]
  · rintro rfl
    refine ⟨?_, pieces_ne_nil text, fun p hp => comma_not_mem_of_mem_pieces hp⟩
    rw [pieces_eq_splitOn, List.intercalate_splitOn]

/-- A normal form: no blanks, and no zero in front of the other digits of an amount. -/
structure Normal (text : List Char) : Prop where
  dense : ∀ c ∈ text, isBlankChar c = false
  lean : ∀ ps, Separated text ps → ∀ p ∈ ps, ∀ c cs, p = '0' :: c :: cs → ¬ Numeral c

theorem isBlank_iff (s : String) : isBlank s = true ↔ ∀ c ∈ s.toList, isBlankChar c = true :=
  List.all_eq_true

section Read

variable {s : String}

theorem parse_of_not_blank (h : ¬ ∀ c ∈ s.toList, isBlankChar c = true) :
    parse s = (pieces s.toList).mapM Coin.parseChars := by
  rw [← isBlank_iff] at h
  simp [parse, h]

theorem parse_ok_iff (h : ¬ ∀ c ∈ s.toList, isBlankChar c = true) {coins : List Coin} :
    parse s = .ok coins ↔
      List.Forall₂ (fun p c => Coin.parseChars p = .ok c) (pieces s.toList) coins := by
  rw [parse_of_not_blank h, mapM_eq_ok_iff]

theorem parse_nil_iff : parse s = .ok [] ↔ ∀ c ∈ s.toList, isBlankChar c = true := by
  constructor
  · intro hnil
    by_contra h
    exact pieces_ne_nil s.toList (List.forall₂_nil_right_iff.mp ((parse_ok_iff h).mp hnil))
  · intro h
    exact parse_of_isBlank ((isBlank_iff s).mpr h)

/-- Whatever is read has denominations of the grammar. -/
theorem denomination_of_parse {coins : List Coin} (h : parse s = .ok coins) :
    ∀ c ∈ coins, Denomination c.denom.toList := by
  by_cases hblank : ∀ c ∈ s.toList, isBlankChar c = true
  · rw [parse_nil_iff.mpr hblank] at h
    cases h
    simp
  · have hall := (parse_ok_iff hblank).mp h
    generalize pieces s.toList = ps at hall
    clear h
    induction hall with
    | nil => simp
    | cons hc _ ih =>
      obtain ⟨_, hparts, _⟩ := Coin.reads_of_parseChars hc
      exact List.forall_mem_cons.mpr ⟨hparts.denomination, ih⟩

end Read

section Written

variable {coins : List Coin}

theorem toList_text (coins : List Coin) :
    (text coins).toList = [','].intercalate (coins.map Coin.chars) := by
  rw [text, String.toList_ofList, Json.separate_eq_intercalate]

theorem separated_text (some : coins ≠ []) (valid : ∀ c ∈ coins, Denomination c.denom.toList) :
    Separated (text coins).toList (coins.map Coin.chars) where
  joined := toList_text coins
  some := by simpa using some
  whole p hp hcomma := by
    obtain ⟨c, hc, rfl⟩ := List.mem_map.mp hp
    exact (Coin.sign_of_mem_chars (valid c hc) ',' hcomma).ne_comma rfl

/-- The text of coins holds no blanks. -/
theorem text_dense (valid : ∀ c ∈ coins, Denomination c.denom.toList) :
    ∀ x ∈ (text coins).toList, isBlankChar x = false := by
  intro x hx
  rw [text, String.toList_ofList] at hx
  rcases Json.mem_separate hx with rfl | ⟨p, hp, hxp⟩
  · rfl
  · obtain ⟨c, hc, rfl⟩ := List.mem_map.mp hp
    exact (Coin.sign_of_mem_chars (valid c hc) x hxp).not_blank

/-- Coins with denominations of the grammar are read back from their text. -/
theorem parse_text (valid : ∀ c ∈ coins, Denomination c.denom.toList) :
    parse (text coins) = .ok coins := by
  cases coins with
  | nil => rfl
  | cons c cs =>
    have hsep := separated_iff.mp (separated_text (List.cons_ne_nil c cs) valid)
    have hall : List.Forall₂ (fun p c => Coin.parseChars p = .ok c) (pieces (text (c :: cs)).toList)
        (c :: cs) := by
      rw [hsep]
      exact List.forall₂_map_left_iff.mpr (List.forall₂_same.mpr fun x hx =>
        Coin.parseChars_ok (Coin.reads_chars (valid x hx)))
    have hsome : ¬ ∀ x ∈ (text (c :: cs)).toList, isBlankChar x = true := by
      intro hblank
      have hnil : (text (c :: cs)).toList = [] := by
        refine List.eq_nil_iff_forall_not_mem.mpr fun x hx => ?_
        cases (text_dense valid x hx).symm.trans (hblank x hx)
      -- the one piece of an empty text is empty, and that is no coin
      rw [hnil] at hall
      obtain ⟨⟩ | ⟨hread, _⟩ := hall
      cases hread
    exact (parse_ok_iff hsome).mpr hall

theorem text_normal (valid : ∀ c ∈ coins, Denomination c.denom.toList) :
    Normal (text coins).toList where
  dense := text_dense valid
  lean ps hps p hp x cs hzero := by
    cases coins with
    | nil =>
      obtain rfl := separated_iff.mp hps
      obtain rfl := List.mem_singleton.mp hp
      cases hzero
    | cons d ds =>
      obtain rfl := (separated_iff.mp hps).symm.trans
        (separated_iff.mp (separated_text (List.cons_ne_nil d ds) valid))
      obtain ⟨c, hc, rfl⟩ := List.mem_map.mp hp
      exact Coin.chars_lean (valid c hc) hzero

end Written

end Coins

namespace Proofs

open Coins (Separated Normal)

/-- What the compact notation makes of a text: as one coin, as the list of coins between its commas,
and as the text these are written in. -/
structure Compact (s : String) : Prop where
  coin : ∀ c, Coin.parse s = .ok c ↔ Reads s.toList c
  bounded : (∃ c, Coin.parse s = .ok c) ↔
    ∃ digits denom, Parts s.toList digits denom ∧ Coin.worth digits ≤ 2 ^ 128 - 1
  parts : ∀ digits denom digits' denom', Parts s.toList digits denom →
    Parts s.toList digits' denom' → digits = digits' ∧ denom = denom'
  none : Coins.parse s = .ok [] ↔ ∀ c ∈ s.toList, isBlankChar c = true
  list : ¬ (∀ c ∈ s.toList, isBlankChar c = true) → ∀ coins, Coins.parse s = .ok coins ↔
    ∃ ps, Separated s.toList ps ∧
      List.Forall₂ (fun p c => Coin.parse (.ofList p) = .ok c) ps coins
  refused : ¬ (∀ c ∈ s.toList, isBlankChar c = true) → ∀ e, Coins.parse s = .error e ↔
    ∃ before bad after, Separated s.toList (before ++ bad :: after) ∧
      (∀ p ∈ before, ∃ c, Coin.parse (.ofList p) = .ok c) ∧ Coin.parse (.ofList bad) = .error e
  normal : ∀ coins, Coins.parse s = .ok coins →
    Normal (Coins.text coins).toList ∧ Coins.parse (Coins.text coins) = .ok coins

theorem parse_ofList (p : List Char) : Coin.parse (.ofList p) = Coin.parseChars p := by
  rw [Coin.parse, String.toList_ofList]

theorem compact (s : String) : Compact s where
  coin _ := Coin.parse_eq_ok_iff
  bounded := Coin.exists_parse_ok_iff
  parts _ _ _ _ h h' := h.unique h'
  none := Coins.parse_nil_iff
  list h coins := by
    simp only [parse_ofList, Coins.separated_iff, exists_eq_left', Coins.parse_ok_iff h]
  refused h e := by
    simp only [parse_ofList, Coins.separated_iff, Coins.parse_of_not_blank h, mapM_eq_error_iff]
  normal coins h := by
    have hvalid := Coins.denomination_of_parse h
    exact ⟨Coins.text_normal hvalid, Coins.parse_text hvalid⟩

/-- The compact notation reads what its grammar describes, and coins with denominations of the
grammar are read back from the text they are written in. -/
theorem compact_coins (s : String) (coins : List Coin) :
    Compact s ∧ ((∀ c ∈ coins, Denomination c.denom.toList) →
      Coins.parse (Coins.text coins) = .ok coins) :=
  ⟨compact s, Coins.parse_text⟩

/-- Coins with blanks around them and zeros in front, and how they are written. -/
theorem compact_coins_padded :
    let s := "\t007uluna\u3000,340282366920938463463374607431768211455ibc/a:b"
    let coins : List Coin := [⟨7, "uluna"⟩, ⟨.allOnes 128, "ibc/a:b"⟩]
    Coins.parse s = .ok coins ∧ (∀ c ∈ coins, Denomination c.denom.toList) ∧
    (¬ ∀ c ∈ s.toList, isBlankChar c = true) ∧
    Coins.text coins = "7uluna,340282366920938463463374607431768211455ibc/a:b" ∧
    Coins.parse (Coins.text coins) = .ok coins ∧ Normal (Coins.text coins).toList ∧
    ∃ ps, Separated s.toList ps ∧
      List.Forall₂ (fun p c => Coin.parse (.ofList p) = .ok c) ps coins := by
  intro s coins
  obtain ⟨h, hback⟩ := compact_coins s coins
  have hread : Coins.parse s = .ok coins := by decide +kernel
  have hvalid : ∀ c ∈ coins, Denomination c.denom.toList := by
    simp only [← Coin.isDenom_iff]
    decide
  have hsome : ¬ ∀ c ∈ s.toList, isBlankChar c = true := by
    rw [← Coins.isBlank_iff]
    decide
  exact ⟨hread, hvalid, hsome, by decide +kernel, hback hvalid, (h.normal coins hread).1,
    (h.list hsome coins).mp hread⟩

end Proofs

end TxDispatch

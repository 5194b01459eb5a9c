import TxDispatch.Json.Grammar

namespace TxDispatch.Json.Grammar

open Text Reader

theorem isGap_iff {c : Char} : isGap c = true ↔ c ∈ [' ', '\t', '\n', '\r'] := by
  simp [isGap, or_assoc]

theorem skipGaps_gap {before : List Char} (h : Gap before) (rest : List Char) :
    skipGaps (before ++ rest) = skipGaps rest :=
  List.dropWhile_append_of_pos fun c hc => isGap_iff.mpr (h c hc)

theorem skipGaps_cons {c : Char} {cs : List Char} (h : isGap c = false) :
    skipGaps (c :: cs) = c :: cs := by
  simp [skipGaps, h]

theorem exists_skipGaps (cs : List Char) : ∃ gap, Gap gap ∧ cs = gap ++ skipGaps cs := by
  refine ⟨cs.takeWhile isGap, ?_, List.takeWhile_append_dropWhile.symm⟩
  intro c hc
  exact isGap_iff.mp (List.all_eq_true.mp List.all_takeWhile c hc)

theorem skipGaps_skipGaps (cs : List Char) : skipGaps (skipGaps cs) = skipGaps cs := by
  obtain ⟨gap, hgap, hcs⟩ := exists_skipGaps cs
  rw [← skipGaps_gap hgap (skipGaps cs), ← hcs]

theorem shortEscape?_eq_some_iff {e c : Char} :
    shortEscape? e = some c ↔ (e, c) ∈ shortEscapes := by
  constructor
  · intro h
    unfold shortEscape? at h
    split at h
    · rename_i hself
      cases h
      simp only [Bool.or_eq_true, beq_iff_eq] at hself
      rcases hself with (rfl | rfl) | rfl <;> simp [shortEscapes]
    · repeat' split at h
      all_goals cases h <;> simp_all [shortEscapes]
  · intro h
    simp only [shortEscapes, List.mem_cons, Prod.mk.injEq, List.not_mem_nil, or_false] at h
    rcases h with ⟨rfl, rfl⟩ | ⟨rfl, rfl⟩ | ⟨rfl, rfl⟩ | ⟨rfl, rfl⟩ | ⟨rfl, rfl⟩ | ⟨rfl, rfl⟩ |
      ⟨rfl, rfl⟩ | ⟨rfl, rfl⟩ <;> rfl

theorem fourDigits?_eq_some_iff {a b c d : Char} {n : Nat} :
    fourDigits? a b c d = some n ↔ PieceText (.unit n) ['\\', 'u', a, b, c, d] := by
  constructor
  · intro h
    simp only [fourDigits?, Option.pure_def, Option.bind_eq_bind, Option.bind_eq_some_iff,
      Option.some.injEq] at h
    obtain ⟨i, hi, j, hj, k, hk, l, hl, rfl⟩ := h
    have hn : (i * 16 + j) * 256 + k * 16 + l = 4096 * i + 256 * j + 16 * k + l := by omega
    rw [hn]
    exact .numbered hi hj hk hl
  · intro h
    cases h with
    | numbered hi hj hk hl =>
      simp only [fourDigits?, hi, hj, hk, hl, Option.pure_def, Option.bind_eq_bind,
        Option.bind_some, Option.some.injEq]
      omega

/-- A piece is read as it is written, whatever follows. -/
theorem pieces_append {p : Piece} {cs : List Char} (h : PieceText p cs) (rest : List Char) :
    pieces (cs ++ rest) = (pieces rest).map fun r => (p :: r.1, r.2) := by
  cases h with
  | @plain c quote backslash visible =>
    have hlt : ¬ c.toNat < 0x20 := by omega
    rw [List.cons_append, List.nil_append, pieces]
    · simp [hlt, backslash]
    · exact fun h => quote h
    · rintro _ _ _ _ _ rfl
      exact absurd rfl backslash
    · rintro _ _ rfl
      exact absurd rfl backslash
  | @short e c listed =>
    have hshort := shortEscape?_eq_some_iff.mpr listed
    have hu : e ≠ 'u' := by
      rintro rfl
      simp [shortEscape?] at hshort
    rw [List.cons_append, List.cons_append, List.nil_append, pieces]
    · rw [hshort]
    · rintro _ _ _ _ _ rfl
      exact absurd rfl hu
  | numbered hi hj hk hl =>
    have hfour := fourDigits?_eq_some_iff.mpr (.numbered hi hj hk hl)
    simp only [List.cons_append, List.nil_append]
    rw [pieces, hfour]

theorem pieces_of_texts {ps : List Piece} {cs : List Char} (h : PieceTexts ps cs)
    (rest : List Char) : pieces (cs ++ '\x22' :: rest) = some (ps, rest) := by
  induction h with
  | nil => rfl
  | cons first _ ih => rw [List.append_assoc, pieces_append first, ih, Option.map_some]

theorem texts_of_pieces {cs rest : List Char} {ps : List Piece} (h : pieces cs = some (ps, rest)) :
    ∃ text, cs = text ++ '\x22' :: rest ∧ PieceTexts ps text := by
  fun_induction pieces cs generalizing ps rest with
  | case1 | case3 | case5 | case7 => cases h
  | case2 rest' =>
    cases h
    exact ⟨[], rfl, .nil⟩
  | case4 a b c d rest' n hn ih =>
    obtain ⟨⟨qs, tail⟩, hqs, hr⟩ := Option.map_eq_some_iff.mp h
    cases hr
    obtain ⟨text, rfl, htext⟩ := ih hqs
    exact ⟨_, rfl, .cons (fourDigits?_eq_some_iff.mp hn) htext⟩
  | case6 e rest' _ c hc ih =>
    obtain ⟨⟨qs, tail⟩, hqs, hr⟩ := Option.map_eq_some_iff.mp h
    cases hr
    obtain ⟨text, rfl, htext⟩ := ih hqs
    exact ⟨_, rfl, .cons (.short (shortEscape?_eq_some_iff.mp hc)) htext⟩
  | case8 c rest' quote _ _ plain ih =>
    obtain ⟨⟨qs, tail⟩, hqs, hr⟩ := Option.map_eq_some_iff.mp h
    cases hr
    obtain ⟨text, rfl, htext⟩ := ih hqs
    simp only [Bool.or_eq_true, decide_eq_true_eq, beq_iff_eq, not_or, Nat.not_lt] at plain
    exact ⟨_, rfl, .cons (.plain quote plain.2 plain.1) htext⟩

theorem isHighHalf_iff {n : Nat} : isHighHalf n = true ↔ 0xD800 ≤ n ∧ n < 0xDC00 := by
  simp [isHighHalf]

theorem isLowHalf_iff {n : Nat} : isLowHalf n = true ↔ 0xDC00 ≤ n ∧ n < 0xE000 := by
  simp [isLowHalf]

theorem join_unit {n : Nat} (whole : n < 0xD800 ∨ 0xE000 ≤ n) (ps : List Piece) :
    join (.unit n :: ps) = (join ps).map (Char.ofNat n :: ·) := by
  have hhigh : isHighHalf n = false := by
    rw [Bool.eq_false_iff, Ne, isHighHalf_iff]
    omega
  have hlow : isLowHalf n = false := by
    rw [Bool.eq_false_iff, Ne, isLowHalf_iff]
    omega
  cases ps with
  | nil => simp [join, hhigh, hlow]
  | cons p ps => cases p <;> simp [join, hhigh, hlow]

/-- Joining the pieces gives the characters that they spell, if they spell any. -/
theorem join_eq_some_iff {ps : List Piece} {cs : List Char} : join ps = some cs ↔ Spells ps cs := by
  constructor
  · intro h
    fun_induction join ps generalizing cs with
    | case1 =>
      cases h
      exact .nil
    | case2 c rest ih =>
      obtain ⟨ds, hds, rfl⟩ := Option.map_eq_some_iff.mp h
      exact .char c (ih hds)
    | case3 m n rest hm hn ih =>
      obtain ⟨ds, hds, rfl⟩ := Option.map_eq_some_iff.mp h
      exact .pair (isHighHalf_iff.mp hm) (isLowHalf_iff.mp hn) (ih hds)
    | case4 | case5 | case7 => cases h
    | case6 m n rest hm hlow ih =>
      obtain ⟨ds, hds, rfl⟩ := Option.map_eq_some_iff.mp h
      rw [isHighHalf_iff] at hm
      rw [isLowHalf_iff] at hlow
      exact .unit (by omega) (ih hds)
    | case8 n rest _ hn ih =>
      obtain ⟨ds, hds, rfl⟩ := Option.map_eq_some_iff.mp h
      simp only [Bool.or_eq_true, isHighHalf_iff, isLowHalf_iff] at hn
      exact .unit (by omega) (ih hds)
  · intro h
    induction h with
    | nil => rfl
    | char c _ ih => rw [join, ih, Option.map_some]
    | unit whole _ ih => rw [join_unit whole, ih, Option.map_some]
    | pair high low _ ih =>
      rw [join, if_pos (isHighHalf_iff.mpr high), if_pos (isLowHalf_iff.mpr low), ih, Option.map_some]

/-- A string is read up to its closing quote. -/
theorem string_eq_some_iff {s : Option String} {cs rest : List Char} :
    Reader.string cs = some (s, rest) ↔ ∃ text, cs = text ++ '\x22' :: rest ∧ StringText s text := by
  constructor
  · intro h
    obtain ⟨⟨ps, tail⟩, hps, hr⟩ := Option.map_eq_some_iff.mp h
    cases hr
    obtain ⟨text, hcs, htext⟩ := texts_of_pieces hps
    refine ⟨text, hcs, ?_⟩
    cases hjoin : join ps with
    | none =>
      refine .broken htext ?_
      intro ds hds
      rw [join_eq_some_iff.mpr hds] at hjoin
      cases hjoin
    | some ds => exact .whole htext (join_eq_some_iff.mp hjoin)
  · intro ⟨text, hcs, htext⟩
    subst hcs
    cases htext with
    | whole written spelled =>
      simp [Reader.string, pieces_of_texts written, join_eq_some_iff.mpr spelled]
    | @broken ps _ written unspelled =>
      have hjoin : join ps = none := by
        cases hj : join ps with
        | none => rfl
        | some ds => exact absurd (join_eq_some_iff.mp hj) (unspelled ds)
      simp [Reader.string, pieces_of_texts written, hjoin]

/-- Nothing at the front of a text goes on with a number before it. -/
def EndsNumber (rest : List Char) : Prop :=
  ∀ c ∈ rest.head?, c.isDigit = false ∧ c ≠ '.' ∧ c ≠ 'e' ∧ c ≠ 'E'

theorem ne_of_isDigit {c d : Char} (h : c.isDigit = true) (other : d.isDigit = false) : c ≠ d := by
  rintro rfl
  rw [h] at other
  cases other

theorem digits_append {ds rest : List Char} (all : ∀ c ∈ ds, c.isDigit = true)
    (stop : ∀ c ∈ rest.head?, c.isDigit = false) : digits (ds ++ rest) = (ds, rest) := by
  obtain ⟨htake, hdrop⟩ := Digits.span_digits all stop
  rw [digits, htake, hdrop]

theorem digits_eq {cs ds rest : List Char} (h : digits cs = (ds, rest)) :
    cs = ds ++ rest ∧ ∀ c ∈ ds, c.isDigit = true := by
  cases h
  exact ⟨List.takeWhile_append_dropWhile.symm,
    fun c hc => List.all_eq_true.mp List.all_takeWhile c hc⟩

theorem fraction_append {ds text rest : List Char} (h : FractionText ds text)
    (stop : ∀ c ∈ rest.head?, c.isDigit = false ∧ c ≠ '.') :
    fraction (text ++ rest) = some (ds, rest) := by
  cases h with
  | none =>
    unfold fraction
    split
    · exact absurd rfl (stop '.' (by simp_all)).2
    · rfl
  | some nonempty hds =>
    have hread := digits_append hds fun c hc => (stop c hc).1
    simp [fraction, hread, nonempty]

theorem text_of_fraction {cs ds rest : List Char} (h : fraction cs = some (ds, rest)) :
    ∃ text, cs = text ++ rest ∧ FractionText ds text := by
  unfold fraction at h
  split at h
  · rename_i cs'
    cases hread : digits cs' with
    | mk ds' rest' =>
      obtain ⟨rfl, hds⟩ := digits_eq hread
      cases hempty : ds'.isEmpty with
      | true => simp [hread, hempty] at h
      | false =>
        simp only [hread, hempty] at h
        cases h
        exact ⟨_, rfl, .some (by simpa using hempty) hds⟩
  · cases h
    exact ⟨[], rfl, .none⟩

theorem power_append {p : Option (Bool × List Char)} {text rest : List Char} (h : PowerText p text)
    (stop : EndsNumber rest) : power (text ++ rest) = some (p, rest) := by
  have hstop : ∀ c ∈ rest.head?, c.isDigit = false := fun c hc => (stop c hc).1
  cases h with
  | none =>
    cases rest with
    | nil => rfl
    | cons c cs =>
      obtain ⟨_, _, he, hE⟩ := stop c (by simp)
      simp [power, he, hE]
  | @up e sign ds he hsign nonempty hds =>
    have hread := digits_append hds hstop
    rcases hsign with rfl | rfl
    · cases ds with
      | nil => exact absurd rfl nonempty
      | cons c ds =>
        have hminus : c ≠ '-' := ne_of_isDigit (hds c List.mem_cons_self) (by decide)
        have hplus : c ≠ '+' := ne_of_isDigit (hds c List.mem_cons_self) (by decide)
        simp only [List.cons_append] at hread
        simp [power, he, hread, hminus, hplus]
    · simp [power, he, hread, nonempty]
  | @down e ds he nonempty hds =>
    have hread := digits_append hds hstop
    simp [power, he, hread, nonempty]

theorem text_of_power {p : Option (Bool × List Char)} {cs rest : List Char}
    (h : power cs = some (p, rest)) : ∃ text, cs = text ++ rest ∧ PowerText p text := by
  unfold power at h
  split at h
  · rename_i e cs'
    split at h
    · rename_i he
      simp only [Bool.or_eq_true, beq_iff_eq] at he
      split at h
      rename_i down tail hsign
      cases hread : digits tail with
      | mk ds rest' =>
        obtain ⟨rfl, hds⟩ := digits_eq hread
        cases hempty : ds.isEmpty with
        | true => simp [hread, hempty] at h
        | false =>
          have nonempty : ds ≠ [] := by simpa using hempty
          simp only [hread, hempty] at h
          cases h
          split at hsign
          · cases hsign
            exact ⟨_, rfl, .down he nonempty hds⟩
          · cases hsign
            exact ⟨_, rfl, .up he (.inr rfl) nonempty hds⟩
          · cases hsign
            exact ⟨_, rfl, .up he (.inl rfl) nonempty hds⟩
    · cases h
      exact ⟨[], rfl, .none⟩
  · cases h
    exact ⟨[], rfl, .none⟩

theorem fractionText_head {ds text rest : List Char} (h : FractionText ds text)
    (stop : ∀ c ∈ rest.head?, c.isDigit = false) : ∀ c ∈ (text ++ rest).head?, c.isDigit = false := by
  cases h with
  | none => exact stop
  | some _ _ =>
    intro c hc
    obtain rfl : '.' = c := by simpa using hc
    rfl

theorem powerText_head {p : Option (Bool × List Char)} {text rest : List Char} (h : PowerText p text)
    (stop : EndsNumber rest) : ∀ c ∈ (text ++ rest).head?, c.isDigit = false ∧ c ≠ '.' := by
  cases h with
  | none => exact fun c hc => ⟨(stop c hc).1, (stop c hc).2.1⟩
  | up he _ _ _ | down he _ _ =>
    intro c hc
    simp only [List.cons_append, List.head?_cons, Option.mem_def, Option.some.injEq] at hc
    subst hc
    rcases he with rfl | rfl <;> decide

def minus : List Char → Bool × List Char
  | '-' :: cs => (true, cs)
  | cs => (false, cs)

def whole : List Char → Option (List Char × List Char)
  | '0' :: cs => some (['0'], cs)
  | cs => if (digits cs).1.isEmpty then none else some (digits cs)

theorem literal_eq (cs : List Char) : literal cs = (whole (minus cs).2).bind fun w =>
    (fraction w.2).bind fun f => (power f.2).bind fun p =>
      some (⟨(minus cs).1, w.1, f.1, p.1⟩, p.2) := by
  unfold literal
  split
  rename_i negative tail hminus
  have hsigned : minus cs = (negative, tail) := hminus
  rw [hsigned]
  split
  case h_1 => rfl
  case h_2 nonzero =>
    rw [whole.eq_2 tail nonzero]
    split <;> rfl

theorem minus_append (negative : Bool) {cs : List Char} (h : ∀ c ∈ cs.head?, c ≠ '-') :
    minus ((if negative then ['-'] else []) ++ cs) = (negative, cs) := by
  cases negative with
  | true => rfl
  | false =>
    cases cs with
    | nil => rfl
    | cons c cs =>
      have hc : c ≠ '-' := h c rfl
      simp [minus, hc]

theorem text_of_minus (cs : List Char) :
    cs = (if (minus cs).1 then ['-'] else []) ++ (minus cs).2 := by
  unfold minus
  split <;> rfl

theorem whole_append {ds rest : List Char} (h : WholeText ds)
    (stop : ∀ c ∈ rest.head?, c.isDigit = false) : whole (ds ++ rest) = some (ds, rest) := by
  have hread := digits_append h.digits stop
  cases ds with
  | nil => exact absurd rfl h.nonempty
  | cons c cs =>
    by_cases hzero : c = '0'
    · subst hzero
      obtain rfl : cs = [] := by simpa using h.lean rfl
      rfl
    · simp only [List.cons_append] at hread
      simp [whole, hzero, hread]

theorem text_of_whole {cs ds rest : List Char} (h : whole cs = some (ds, rest)) :
    cs = ds ++ rest ∧ WholeText ds := by
  unfold whole at h
  split at h
  case h_1 =>
    cases h
    exact ⟨rfl, by simp, by simp, by simp⟩
  case h_2 nonzero =>
    cases hread : digits cs with
    | mk ds' rest' =>
      obtain ⟨rfl, hdigits⟩ := digits_eq hread
      cases hempty : ds'.isEmpty with
      | true => simp [hread, hempty] at h
      | false =>
        simp only [hread, hempty] at h
        cases h
        refine ⟨rfl, by simpa using hempty, hdigits, ?_⟩
        intro hhead
        cases ds with
        | nil => cases hhead
        | cons c cs =>
          obtain rfl : c = '0' := by simpa using hhead
          exact absurd rfl (nonzero _)

/-- A number is read as it is written. -/
theorem literal_append {n : Literal} {text rest : List Char} (h : NumberText n text)
    (stop : EndsNumber rest) : literal (text ++ rest) = some (n, rest) := by
  cases h with
  | @mk negative ds _ fractionText powerText _ hwhole hfraction hpower =>
    have hpowerHead := powerText_head hpower stop
    have hwholeRead := whole_append hwhole
      (fractionText_head hfraction fun c hc => (hpowerHead c hc).1)
    have hminus : ∀ c ∈ (ds ++ (fractionText ++ (powerText ++ rest))).head?, c ≠ '-' := by
      intro c hc
      cases ds with
      | nil => exact absurd rfl hwhole.nonempty
      | cons d ds =>
        obtain rfl : d = c := by simpa using hc
        exact ne_of_isDigit (hwhole.digits d List.mem_cons_self) (by decide)
    simp only [List.append_assoc, literal_eq, minus_append negative hminus, hwholeRead,
      fraction_append hfraction hpowerHead, power_append hpower stop, Option.bind_some]

theorem text_of_literal {n : Literal} {cs rest : List Char} (h : literal cs = some (n, rest)) :
    ∃ text, cs = text ++ rest ∧ NumberText n text := by
  simp only [literal_eq, Option.bind_eq_some_iff, Option.some.injEq, Prod.mk.injEq,
    Prod.exists] at h
  obtain ⟨ds, after, hwhole, fraction, after', hfraction, power, rest, hpower, rfl, rfl⟩ := h
  obtain ⟨htext, hwholeText⟩ := text_of_whole hwhole
  obtain ⟨fractionText, rfl, hfractionText⟩ := text_of_fraction hfraction
  obtain ⟨powerText, rfl, hpowerText⟩ := text_of_power hpower
  have hcs := text_of_minus cs
  rw [htext] at hcs
  exact ⟨_, hcs.trans (by simp), .mk hwholeText hfractionText hpowerText⟩

theorem Gap.nil : Gap [] := by
  intro c hc
  cases hc

theorem Gap.append {xs ys : List Char} (hx : Gap xs) (hy : Gap ys) : Gap (xs ++ ys) := by
  intro c hc
  rcases List.mem_append.mp hc with hmem | hmem
  · exact hx c hmem
  · exact hy c hmem

theorem ValueText.document {t : Tree} {cs : List Char} (h : ValueText t cs) : Document t cs := by
  have hdocument := Document.mk Gap.nil h Gap.nil
  rwa [List.append_nil] at hdocument

theorem Document.prepend {t : Tree} {gap cs : List Char} (hgap : Gap gap) (h : Document t cs) :
    Document t (gap ++ cs) := by
  cases h with
  | mk hbefore hvalue hafter =>
    rw [← List.append_assoc]
    exact .mk (hgap.append hbefore) hvalue hafter

theorem ItemTexts.prepend {xs : List Tree} {gap cs : List Char} (hgap : Gap gap)
    (h : ItemTexts xs cs) : ItemTexts xs (gap ++ cs) := by
  cases h with
  | last hx => exact .last (hx.prepend hgap)
  | more hx hxs =>
    rw [← List.append_assoc]
    exact .more (hx.prepend hgap) hxs

theorem NameText.prepend {k : Option String} {gap cs : List Char} (hgap : Gap gap)
    (h : NameText k cs) : NameText k (gap ++ cs) := by
  cases h with
  | mk hbefore hk hafter =>
    rw [← List.append_assoc]
    exact .mk (hgap.append hbefore) hk hafter

theorem MemberTexts.prepend {ms : List (Option String × Tree)} {gap cs : List Char}
    (hgap : Gap gap) (h : MemberTexts ms cs) : MemberTexts ms (gap ++ cs) := by
  cases h with
  | last hk hx =>
    rw [← List.append_assoc]
    exact .last (hk.prepend hgap) hx
  | more hk hx hms =>
    rw [← List.append_assoc]
    exact .more (hk.prepend hgap) hx hms

theorem isGap_of_number {c : Char} (h : c.isDigit = true ∨ c = '-') : isGap c = false := by
  cases hgap : isGap c with
  | false => rfl
  | true =>
    simp only [isGap, Bool.or_eq_true, beq_iff_eq] at hgap
    rcases hgap with ((rfl | rfl) | rfl) | rfl <;> simp at h

theorem NumberText.cons {n : Literal} {cs : List Char} (h : NumberText n cs) :
    ∃ c rest, cs = c :: rest ∧ (c.isDigit = true ∨ c = '-') := by
  cases h with
  | @mk negative whole _ _ _ _ hwhole _ _ =>
    cases whole with
    | nil => exact absurd rfl hwhole.nonempty
    | cons c cs =>
      cases negative with
      | true => exact ⟨'-', _, rfl, .inr rfl⟩
      | false => exact ⟨c, _, rfl, .inl (hwhole.digits c List.mem_cons_self)⟩

/-- A value starts with a character of its own. -/
theorem ValueText.cons {t : Tree} {cs : List Char} (h : ValueText t cs) :
    ∃ c rest, cs = c :: rest ∧ isGap c = false ∧ c ≠ ']' := by
  cases h with
  | number h =>
    obtain ⟨c, rest, hcs, hc⟩ := h.cons
    refine ⟨c, rest, hcs, isGap_of_number hc, ?_⟩
    rintro rfl
    simp at hc
  | _ => exact ⟨_, _, rfl, rfl, by decide⟩

theorem Document.skipGaps {t : Tree} {cs : List Char} (h : Document t cs) (rest : List Char) :
    ∃ c tail, Reader.skipGaps (cs ++ rest) = c :: tail ∧ c ≠ ']' := by
  cases h with
  | mk hbefore hvalue hafter =>
    obtain ⟨c, cs, rfl, hgap, hc⟩ := hvalue.cons
    rw [List.append_assoc, skipGaps_gap hbefore]
    exact ⟨c, _, skipGaps_cons hgap, hc⟩

theorem ItemTexts.skipGaps {xs : List Tree} {cs : List Char} (h : ItemTexts xs cs)
    (rest : List Char) : ∃ c tail, Reader.skipGaps (cs ++ rest) = c :: tail ∧ c ≠ ']' := by
  cases h with
  | last hx => exact hx.skipGaps rest
  | more hx _ =>
    rw [List.append_assoc]
    exact hx.skipGaps _

theorem value_skipGaps (fuel : Nat) (cs : List Char) :
    value fuel (Reader.skipGaps cs) = value fuel cs := by
  cases fuel with
  | zero => rfl
  | succ fuel => rw [value, value, skipGaps_skipGaps]

theorem items_skipGaps (fuel : Nat) (cs : List Char) :
    items fuel (Reader.skipGaps cs) = items fuel cs := by
  cases fuel with
  | zero => rfl
  | succ fuel => rw [items, items, value_skipGaps]

theorem members_skipGaps (fuel : Nat) (cs : List Char) :
    members fuel (Reader.skipGaps cs) = members fuel cs := by
  cases fuel with
  | zero => rfl
  | succ fuel => rw [members, members, skipGaps_skipGaps]

theorem value_gap {before : List Char} (h : Gap before) (fuel : Nat) (cs : List Char) :
    value fuel (before ++ cs) = value fuel cs := by
  rw [← value_skipGaps, skipGaps_gap h, value_skipGaps]

/-- A value that starts like a number is one. -/
theorem value_literal {c : Char} {cs : List Char} (fuel : Nat) (h : c.isDigit = true ∨ c = '-') :
    value (fuel + 1) (c :: cs) = (literal (c :: cs)).map fun r => (.num r.1, r.2) := by
  rw [value, skipGaps_cons (isGap_of_number h)]
  split
  case h_7 => rfl
  all_goals
    rename_i heq
    obtain ⟨rfl, _⟩ := List.cons.inj heq
    simp at h

theorem value_items {c : Char} {cs tail : List Char} (fuel : Nat)
    (h : Reader.skipGaps cs = c :: tail) (more : c ≠ ']') :
    value (fuel + 1) ('[' :: cs) = (items fuel cs).map fun r => (.arr r.1, r.2) := by
  rw [← items_skipGaps fuel cs]
  simp [value, skipGaps_cons (show isGap '[' = false from rfl), h, more]

theorem value_members {cs tail : List Char} (fuel : Nat) (h : Reader.skipGaps cs = '\x22' :: tail) :
    value (fuel + 1) ('\x7b' :: cs) = (members fuel cs).map fun r => (.obj r.1, r.2) := by
  rw [← members_skipGaps fuel cs]
  simp [value, skipGaps_cons (show isGap '\x7b' = false from rfl), h]

theorem endsNumber_gap {after : List Char} (h : Gap after) {rest : List Char}
    (stop : EndsNumber rest) : EndsNumber (after ++ rest) := by
  cases after with
  | nil => exact stop
  | cons c cs =>
    intro d hd
    obtain rfl : c = d := by simpa using hd
    have hc := h c List.mem_cons_self
    simp only [List.mem_cons, List.not_mem_nil, or_false] at hc
    rcases hc with rfl | rfl | rfl | rfl <;> decide

theorem endsNumber_cons {c : Char} (rest : List Char)
    (h : c.isDigit = false ∧ c ≠ '.' ∧ c ≠ 'e' ∧ c ≠ 'E') : EndsNumber (c :: rest) := by
  intro d hd
  obtain rfl : c = d := by simpa using hd
  exact h

theorem items_last {fuel : Nat} {cs after rest : List Char} {x : Tree} (hafter : Gap after)
    (h : value fuel cs = some (x, after ++ ']' :: rest)) :
    items (fuel + 1) cs = some ([x], rest) := by
  simp only [items, h, skipGaps_gap hafter, skipGaps_cons (show isGap ']' = false from rfl)]

theorem items_more {fuel : Nat} {cs after rest : List Char} {x : Tree} (hafter : Gap after)
    (h : value fuel cs = some (x, after ++ ',' :: rest)) :
    items (fuel + 1) cs = (items fuel rest).map fun r => (x :: r.1, r.2) := by
  simp only [items, h, skipGaps_gap hafter, skipGaps_cons (show isGap ',' = false from rfl)]

/-- The name of a member is read up to the colon behind it. -/
theorem NameText.read {k : Option String} {name : List Char} (h : NameText k name)
    (rest : List Char) : ∃ tail after, Reader.skipGaps (name ++ ':' :: rest) = '\x22' :: tail ∧
      Reader.string tail = some (k, after) ∧ Reader.skipGaps after = ':' :: rest := by
  cases h with
  | @mk before cs after hbefore hk hafter =>
    refine ⟨cs ++ '\x22' :: (after ++ ':' :: rest), after ++ ':' :: rest, ?_, ?_, ?_⟩
    · rw [List.append_assoc, skipGaps_gap hbefore]
      simp [skipGaps_cons (show isGap '\x22' = false from rfl)]
    · exact string_eq_some_iff.mpr ⟨cs, rfl, hk⟩
    · rw [skipGaps_gap hafter, skipGaps_cons (by rfl)]

theorem members_last {fuel : Nat} {k : Option String} {name cs after rest : List Char} {x : Tree}
    (hk : NameText k name) (hafter : Gap after)
    (hx : value fuel cs = some (x, after ++ '\x7d' :: rest)) :
    members (fuel + 1) (name ++ ':' :: cs) = some ([(k, x)], rest) := by
  obtain ⟨tail, after', hname, hstring, hcolon⟩ := hk.read cs
  simp only [members, hname, hstring, hcolon, hx, skipGaps_gap hafter,
    skipGaps_cons (show isGap '\x7d' = false from rfl)]

theorem members_more {fuel : Nat} {k : Option String} {name cs after rest : List Char} {x : Tree}
    (hk : NameText k name) (hafter : Gap after)
    (hx : value fuel cs = some (x, after ++ ',' :: rest)) :
    members (fuel + 1) (name ++ ':' :: cs) =
      (members fuel rest).map fun r => ((k, x) :: r.1, r.2) := by
  obtain ⟨tail, after', hname, hstring, hcolon⟩ := hk.read cs
  simp only [members, hname, hstring, hcolon, hx, skipGaps_gap hafter,
    skipGaps_cons (show isGap ',' = false from rfl)]

theorem MemberTexts.skipGaps {ms : List (Option String × Tree)} {cs : List Char}
    (h : MemberTexts ms cs) (rest : List Char) :
    ∃ tail, Reader.skipGaps (cs ++ rest) = '\x22' :: tail := by
  cases h with
  | last hk _ =>
    rw [List.append_assoc]
    obtain ⟨tail, _, hname, _⟩ := hk.read _
    exact ⟨tail, hname⟩
  | more hk _ _ =>
    rw [List.append_assoc]
    obtain ⟨tail, _, hname, _⟩ := hk.read _
    exact ⟨tail, hname⟩

mutual

theorem value_append {t : Tree} {cs : List Char} : ValueText t cs → ∀ (fuel : Nat) (rest : List Char),
    2 * cs.length ≤ fuel + 1 → EndsNumber rest → value (fuel + 1) (cs ++ rest) = some (t, rest)
  | .null, _, _, _, _ => rfl
  | .yes, _, _, _, _ => rfl
  | .no, _, _, _, _ => rfl
  | .number h, fuel, rest, _, stop => by
    have hread := literal_append h stop
    obtain ⟨c, tail, rfl, hc⟩ := h.cons
    simp only [List.cons_append] at hread ⊢
    rw [value_literal fuel hc, hread, Option.map_some]
  | @ValueText.string s cs h, fuel, rest, _, _ => by
    have hread : Reader.string (cs ++ '\x22' :: rest) = some (s, rest) :=
      string_eq_some_iff.mpr ⟨cs, rfl, h⟩
    simp [value, skipGaps_cons (show isGap '\x22' = false from rfl), hread]
  | .emptyArray h, fuel, rest, _, _ => by
    simp [value, skipGaps_cons (show isGap '[' = false from rfl), skipGaps_gap h,
      skipGaps_cons (show isGap ']' = false from rfl)]
  | .array h, fuel, rest, bound, _ => by
    simp only [List.length_cons, List.length_append, List.length_nil] at bound
    obtain ⟨f, rfl⟩ : ∃ f, fuel = f + 2 := ⟨fuel - 2, by omega⟩
    obtain ⟨c, tail, hskip, hc⟩ := h.skipGaps (']' :: rest)
    simp only [List.cons_append, List.append_assoc, List.nil_append]
    rw [value_items _ hskip hc, items_append h f rest (by omega), Option.map_some]
  | .emptyObject h, fuel, rest, _, _ => by
    simp [value, skipGaps_cons (show isGap '\x7b' = false from rfl), skipGaps_gap h,
      skipGaps_cons (show isGap '\x7d' = false from rfl)]
  | .object h, fuel, rest, bound, _ => by
    simp only [List.length_cons, List.length_append, List.length_nil] at bound
    obtain ⟨f, rfl⟩ : ∃ f, fuel = f + 2 := ⟨fuel - 2, by omega⟩
    obtain ⟨tail, hskip⟩ := h.skipGaps ('\x7d' :: rest)
    simp only [List.cons_append, List.append_assoc, List.nil_append]
    rw [value_members _ hskip, members_append h f rest (by omega), Option.map_some]

theorem document_append {t : Tree} {cs : List Char} : Document t cs → ∀ (fuel : Nat)
    (rest : List Char), 2 * cs.length ≤ fuel + 1 → EndsNumber rest →
    ∃ after, Gap after ∧ value (fuel + 1) (cs ++ rest) = some (t, after ++ rest)
  | @Document.mk _ _ _ after hbefore h hafter, fuel, rest, bound, stop => by
    refine ⟨after, hafter, ?_⟩
    simp only [List.length_append] at bound
    rw [List.append_assoc, List.append_assoc, value_gap hbefore]
    exact value_append h fuel _ (by omega) (endsNumber_gap hafter stop)

theorem items_append {xs : List Tree} {cs : List Char} : ItemTexts xs cs → ∀ (fuel : Nat)
    (rest : List Char), 2 * cs.length ≤ fuel + 1 →
    items (fuel + 2) (cs ++ ']' :: rest) = some (xs, rest)
  | .last hx, fuel, rest, bound => by
    obtain ⟨after, hafter, hread⟩ := document_append hx fuel (']' :: rest) bound
      (endsNumber_cons rest (by decide))
    exact items_last hafter hread
  | @ItemTexts.more _ _ _ tail hx hxs, fuel, rest, bound => by
    simp only [List.length_append, List.length_cons] at bound
    obtain ⟨f, rfl⟩ : ∃ f, fuel = f + 1 := ⟨fuel - 1, by omega⟩
    obtain ⟨after, hafter, hread⟩ := document_append hx (f + 1) (',' :: (tail ++ ']' :: rest))
      (by omega) (endsNumber_cons _ (by decide))
    rw [List.append_assoc, List.cons_append, items_more hafter hread,
      items_append hxs f rest (by omega), Option.map_some]

theorem members_append {ms : List (Option String × Tree)} {cs : List Char} : MemberTexts ms cs →
    ∀ (fuel : Nat) (rest : List Char), 2 * cs.length ≤ fuel + 1 →
    members (fuel + 2) (cs ++ '\x7d' :: rest) = some (ms, rest)
  | .last hk hx, fuel, rest, bound => by
    simp only [List.length_append, List.length_cons] at bound
    obtain ⟨after, hafter, hread⟩ := document_append hx fuel ('\x7d' :: rest) (by omega)
      (endsNumber_cons rest (by decide))
    rw [List.append_assoc, List.cons_append]
    exact members_last hk hafter hread
  | @MemberTexts.more _ _ _ _ _ tail hk hx hms, fuel, rest, bound => by
    simp only [List.length_append, List.length_cons] at bound
    obtain ⟨f, rfl⟩ : ∃ f, fuel = f + 1 := ⟨fuel - 1, by omega⟩
    obtain ⟨after, hafter, hread⟩ := document_append hx (f + 1) (',' :: (tail ++ '\x7d' :: rest))
      (by omega) (endsNumber_cons _ (by decide))
    simp only [List.append_assoc, List.cons_append]
    rw [members_more hk hafter hread, members_append hms f rest (by omega), Option.map_some]

end

mutual

theorem text_of_value : ∀ (fuel : Nat) {cs rest : List Char} {t : Tree},
    value fuel cs = some (t, rest) →
    ∃ before text, cs = before ++ (text ++ rest) ∧ Gap before ∧ ValueText t text
  | 0, _, _, _, h => by cases h
  | fuel + 1, cs, rest, t, h => by
    obtain ⟨before, hbefore, hcs⟩ := exists_skipGaps cs
    rw [value] at h
    -- whatever stands behind the gap is the text, and the gap goes in front of it
    suffices hsuff : ∃ text, skipGaps cs = text ++ rest ∧ ValueText t text by
      obtain ⟨text, htext, hvalue⟩ := hsuff
      exact ⟨before, text, hcs.trans (congrArg (before ++ ·) htext), hbefore, hvalue⟩
    split at h
    case h_1 heq => cases h; exact ⟨_, heq, .null⟩
    case h_2 heq => cases h; exact ⟨_, heq, .yes⟩
    case h_3 heq => cases h; exact ⟨_, heq, .no⟩
    case h_4 tail heq =>
      obtain ⟨⟨s, rest'⟩, hs, hr⟩ := Option.map_eq_some_iff.mp h
      cases hr
      obtain ⟨text, rfl, htext⟩ := string_eq_some_iff.mp hs
      exact ⟨_, by rw [heq]; simp, .string htext⟩
    case h_5 tail heq =>
      obtain ⟨gap, hgap, htail⟩ := exists_skipGaps tail
      split at h
      case h_1 tail' hclose =>
        cases h
        rw [hclose] at htail
        exact ⟨_, by rw [heq, htail]; simp, .emptyArray hgap⟩
      case h_2 =>
        obtain ⟨⟨xs, rest'⟩, hxs, hr⟩ := Option.map_eq_some_iff.mp h
        cases hr
        rw [items_skipGaps] at hxs
        obtain ⟨text, rfl, htext⟩ := texts_of_items fuel hxs
        exact ⟨_, by rw [heq]; simp, .array htext⟩
    case h_6 tail heq =>
      obtain ⟨gap, hgap, htail⟩ := exists_skipGaps tail
      split at h
      case h_1 tail' hclose =>
        cases h
        rw [hclose] at htail
        exact ⟨_, by rw [heq, htail]; simp, .emptyObject hgap⟩
      case h_2 =>
        obtain ⟨⟨ms, rest'⟩, hms, hr⟩ := Option.map_eq_some_iff.mp h
        cases hr
        rw [members_skipGaps] at hms
        obtain ⟨text, rfl, htext⟩ := texts_of_members fuel hms
        exact ⟨_, by rw [heq]; simp, .object htext⟩
    case h_7 =>
      obtain ⟨⟨n, rest'⟩, hn, hr⟩ := Option.map_eq_some_iff.mp h
      cases hr
      obtain ⟨text, htext, hnumber⟩ := text_of_literal hn
      exact ⟨text, htext, .number hnumber⟩

theorem texts_of_items : ∀ (fuel : Nat) {cs rest : List Char} {xs : List Tree},
    items fuel cs = some (xs, rest) → ∃ text, cs = text ++ ']' :: rest ∧ ItemTexts xs text
  | 0, _, _, _, h => by cases h
  | fuel + 1, cs, rest, xs, h => by
    rw [items] at h
    split at h
    case h_1 => cases h
    case h_2 x tail hx =>
      obtain ⟨before, text, rfl, hbefore, htext⟩ := text_of_value fuel hx
      obtain ⟨after, hafter, htail⟩ := exists_skipGaps tail
      have hdocument := Document.mk hbefore htext hafter
      split at h
      case h_1 tail' hcomma =>
        obtain ⟨⟨ys, rest'⟩, hys, hr⟩ := Option.map_eq_some_iff.mp h
        cases hr
        obtain ⟨text', rfl, htext'⟩ := texts_of_items fuel hys
        rw [hcomma] at htail
        exact ⟨_, by rw [htail]; simp, .more hdocument htext'⟩
      case h_2 tail' hclose =>
        cases h
        rw [hclose] at htail
        exact ⟨_, by rw [htail]; simp, .last hdocument⟩
      case h_3 => cases h

theorem texts_of_members : ∀ (fuel : Nat) {cs rest : List Char} {ms : List (Option String × Tree)},
    members fuel cs = some (ms, rest) → ∃ text, cs = text ++ '\x7d' :: rest ∧ MemberTexts ms text
  | 0, _, _, _, h => by cases h
  | fuel + 1, cs, rest, ms, h => by
    obtain ⟨before, hbefore, hcs⟩ := exists_skipGaps cs
    rw [members] at h
    split at h
    case h_2 => cases h
    case h_1 tail hquote =>
      rw [hquote] at hcs
      split at h
      case h_1 => cases h
      case h_2 k tail' hk =>
        obtain ⟨name, rfl, hname⟩ := string_eq_some_iff.mp hk
        obtain ⟨after, hafter, htail'⟩ := exists_skipGaps tail'
        have hkey := NameText.mk hbefore hname hafter
        split at h
        case h_2 => cases h
        case h_1 tail₂ hcolon =>
          rw [hcolon] at htail'
          split at h
          case h_1 => cases h
          case h_2 x tail₃ hx =>
            obtain ⟨before', text, rfl, hbefore', htext⟩ := text_of_value fuel hx
            obtain ⟨after', hafter', htail₃⟩ := exists_skipGaps tail₃
            have hdocument := Document.mk hbefore' htext hafter'
            split at h
            case h_1 tail₄ hcomma =>
              obtain ⟨⟨ns, rest'⟩, hns, hr⟩ := Option.map_eq_some_iff.mp h
              cases hr
              obtain ⟨text', rfl, htext'⟩ := texts_of_members fuel hns
              rw [hcomma] at htail₃
              exact ⟨_, by rw [hcs, htail', htail₃]; simp, .more hkey hdocument htext'⟩
            case h_2 tail₄ hclose =>
              cases h
              rw [hclose] at htail₃
              exact ⟨_, by rw [hcs, htail', htail₃]; simp, .last hkey hdocument⟩
            case h_3 => cases h

end

/-- The reader takes the texts of the grammar and no others, each for the tree that it is the text
of. -/
theorem tree?_eq_some_iff {cs : List Char} {t : Tree} : tree? cs = some t ↔ Document t cs := by
  constructor
  · intro h
    unfold tree? at h
    split at h
    case h_1 t' rest hvalue =>
      obtain ⟨before, text, rfl, hbefore, htext⟩ := text_of_value _ hvalue
      obtain ⟨after, hafter, hrest⟩ := exists_skipGaps rest
      split at h
      case isTrue hempty =>
        cases h
        rw [List.isEmpty_iff.mp hempty, List.append_nil] at hrest
        subst hrest
        exact .mk hbefore htext hafter
      case isFalse => cases h
    case h_2 => cases h
  · intro h
    have stop : EndsNumber [] := by
      intro c hc
      cases hc
    obtain ⟨after, hafter, hread⟩ := document_append h (2 * cs.length + 1) [] (by omega) stop
    rw [List.append_nil, List.append_nil] at hread
    have hskip : skipGaps after = [] := by
      rw [← List.append_nil after, skipGaps_gap hafter]
      rfl
    unfold tree?
    rw [hread]
    simp [hskip]

end TxDispatch.Json.Grammar

import TxDispatch.Json.Printer
import TxDispatch.Proofs.JsonTexts

namespace TxDispatch.Json

open Text Reader Grammar

def Literal.ofInt (n : Int) : Literal := ⟨n < 0, Digits.ofNat n.natAbs, [], none⟩

def Literal.ofDecimal (negative : Bool) (d : Decimal) : Literal :=
  let d := d.normal
  let ds := Digits.ofNat d.digits
  let lead : Int := d.exponent + (ds.length : Int) - 1
  if lead < positional.least ∨ positional.beyond ≤ lead then
    ⟨negative, ds.take 1, ds.drop 1, some (lead < 0, Digits.ofNat lead.natAbs)⟩
  else if lead < 0 then ⟨negative, ['0'], List.replicate (lead.natAbs - 1) '0' ++ ds, none⟩
  else if 0 ≤ d.exponent then
    ⟨negative, ds ++ List.replicate d.exponent.toNat '0', ['0'], none⟩
  else ⟨negative, ds.take (lead.toNat + 1), ds.drop (lead.toNat + 1), none⟩

def Literal.ofDouble (x : Double) : Literal :=
  if x.significand == 0 then ⟨x.negative, ['0'], ['0'], none⟩
  else .ofDecimal x.negative (Decimal.shortest x)

mutual

def isWhole : Json → Bool
  | double _ => false
  | arr items => itemsWhole items
  | obj members => membersWhole members
  | _ => true

def itemsWhole : List Json → Bool
  | [] => true
  | x :: xs => isWhole x && itemsWhole xs

def membersWhole : List (String × Json) → Bool
  | [] => true
  | (_, v) :: rest => isWhole v && membersWhole rest

end

mutual

def tree : Json → Tree
  | null => .null
  | bool b => .bool b
  | int n => .num (.ofInt n)
  | double x => .num (.ofDouble x)
  | str s => .str (some s)
  | arr items => .arr (itemTrees items)
  | obj members => .obj (memberTrees members)

def itemTrees : List Json → List Tree
  | [] => []
  | x :: xs => tree x :: itemTrees xs

def memberTrees : List (String × Json) → List (Option String × Tree)
  | [] => []
  | (k, v) :: rest => (some k, tree v) :: memberTrees rest

end

theorem itemsWhole_eq_all (xs : List Json) : itemsWhole xs = xs.all isWhole := by
  induction xs with
  | nil => rfl
  | cons x xs ih => rw [itemsWhole, ih, List.all_cons]

theorem itemTrees_eq_map (xs : List Json) : itemTrees xs = xs.map tree := by
  induction xs with
  | nil => rfl
  | cons x xs ih => rw [itemTrees, ih, List.map_cons]

theorem memberTrees_eq_map (ms : List (String × Json)) :
    memberTrees ms = ms.map fun m => (some m.1, m.2.tree) := by
  induction ms with
  | nil => rfl
  | cons m ms ih => rw [memberTrees, ih, List.map_cons]

theorem worth?_hexDigit : ∀ n < 16, Hex.worth? (Quoted.hexDigit n) = some n := by decide

/-- A character is printed as a short escape, as a numbered one or as itself. -/
theorem escape_shape (c : Char) :
    (∃ e, (e, c) ∈ shortEscapes ∧ escape c = ['\\', e]) ∨
    (c.toNat < 0x20 ∧ escape c =
      ['\\', 'u', '0', '0', Quoted.hexDigit (c.toNat / 16), Quoted.hexDigit (c.toNat % 16)]) ∨
    (c ≠ '\x22' ∧ c ≠ '\\' ∧ 0x20 ≤ c.toNat ∧ escape c = [c]) := by
  unfold escape
  iterate 7
    split
    · exact .inl ⟨_, by simp_all [shortEscapes], rfl⟩
  split
  · exact .inr (.inl ⟨‹_›, rfl⟩)
  · exact .inr (.inr ⟨by simp_all, by simp_all, by omega, rfl⟩)

/-- A printed character is one piece of a string and spells itself. -/
theorem pieceText_escape (c : Char) :
    ∃ p, PieceText p (escape c) ∧ ∀ ps cs, Spells ps cs → Spells (p :: ps) (c :: cs) := by
  rcases escape_shape c with ⟨e, he, hc⟩ | ⟨hlt, hc⟩ | ⟨quote, backslash, visible, hc⟩
  · exact ⟨.char c, hc ▸ .short he, fun _ _ h => .char c h⟩
  · have hzero : Hex.worth? '0' = some 0 := rfl
    have hunit := PieceText.numbered hzero hzero (worth?_hexDigit (c.toNat / 16) (by omega))
      (worth?_hexDigit (c.toNat % 16) (by omega))
    have hn : 4096 * 0 + 256 * 0 + 16 * (c.toNat / 16) + c.toNat % 16 = c.toNat := by omega
    rw [hn] at hunit
    refine ⟨.unit c.toNat, hc ▸ hunit, ?_⟩
    intro ps cs h
    have hspelled := Spells.unit (.inl (by omega : c.toNat < 0xD800)) h
    rwa [Char.ofNat_toNat] at hspelled
  · exact ⟨.char c, hc ▸ .plain quote backslash visible, fun _ _ h => .char c h⟩

theorem pieceTexts_escape (cs : List Char) :
    ∃ ps, PieceTexts ps (cs.flatMap escape) ∧ Spells ps cs := by
  induction cs with
  | nil => exact ⟨[], .nil, .nil⟩
  | cons c cs ih =>
    obtain ⟨ps, hps, hspelled⟩ := ih
    obtain ⟨p, hp, hc⟩ := pieceText_escape c
    exact ⟨p :: ps, .cons hp hps, hc ps cs hspelled⟩

theorem stringText_escape (s : String) : StringText (some s) (s.toList.flatMap escape) := by
  obtain ⟨ps, hps, hspelled⟩ := pieceTexts_escape s.toList
  have htext := StringText.whole hps hspelled
  rwa [String.ofList_toList] at htext

theorem wholeText_ofNat (n : Nat) : WholeText (Digits.ofNat n) := by
  obtain ⟨c, cs, hn, _, hsingle⟩ := Digits.ofNat_eq_cons n
  refine ⟨by simp [hn], fun c hc => Digits.isDigit_of_mem_ofNat hc, ?_⟩
  intro hhead
  rw [hn] at hhead ⊢
  obtain rfl : c = '0' := by simpa using hhead
  rw [hsingle rfl]

theorem numberText_renderInt (n : Int) : NumberText (.ofInt n) (renderInt n) := by
  have htext := @NumberText.mk (n < 0) _ _ _ _ _ (wholeText_ofNat n.natAbs) .none .none
  by_cases hneg : n < 0 <;> simpa [Literal.ofInt, renderInt, hneg] using htext

theorem wholeText_take {ds : List Char} (h : WholeText ds) (n : Nat) :
    WholeText (ds.take (n + 1)) := by
  cases ds with
  | nil => exact absurd rfl h.nonempty
  | cons c cs =>
    refine ⟨by simp, fun d hd => h.digits d (List.mem_of_mem_take hd), ?_⟩
    intro hhead
    have hsingle : c :: cs = ['0'] := h.lean (by simpa using hhead)
    rw [hsingle]
    simp

theorem wholeText_zeros {n k : Nat} (h : n = 0 → k = 0) :
    WholeText (Digits.ofNat n ++ List.replicate k '0') := by
  by_cases hn : n = 0
  · rw [h hn, List.replicate_zero, List.append_nil]
    exact wholeText_ofNat n
  · obtain ⟨c, cs, hcs, hc, _⟩ := Digits.ofNat_eq_cons n
    refine ⟨by simp [hcs], ?_, ?_⟩
    · intro d hd
      rcases List.mem_append.mp hd with hd | hd
      · exact Digits.isDigit_of_mem_ofNat hd
      · obtain rfl := List.eq_of_mem_replicate hd
        rfl
    · intro hhead
      have hzero : (Digits.ofNat n).head? = some '0' := by simpa [hcs] using hhead
      exact absurd (Digits.eq_zero_of_head?_lowest (Nat.le_refl n) hzero) hn

theorem isDigit_replicate {k : Nat} {c : Char} (h : c ∈ List.replicate k '0') :
    c.isDigit = true := by
  obtain rfl := List.eq_of_mem_replicate h
  rfl

/-- Digits that may be none, with a point in front if there are any. -/
theorem fractionText_of_digits {ds : List Char} (h : ∀ c ∈ ds, c.isDigit = true) :
    FractionText ds (if ds.isEmpty then [] else '.' :: ds) := by
  cases ds with
  | nil => exact .none
  | cons c cs => exact .some (by simp) h

theorem powerText_ofInt (p : Int) : PowerText (some (p < 0, Digits.ofNat p.natAbs))
    ('e' :: (if p < 0 then '-' else '+') :: Digits.ofNat p.natAbs) := by
  have hdigits := wholeText_ofNat p.natAbs
  by_cases hneg : p < 0
  · simpa [hneg] using PowerText.down (.inl rfl) hdigits.nonempty hdigits.digits
  · simpa [hneg] using PowerText.up (.inl rfl) (.inr rfl) hdigits.nonempty hdigits.digits

/-- A decimal is written as its literal, if a zero comes without a power of ten. -/
theorem numberText_renderDecimal (negative : Bool) {d : Decimal}
    (grounded : d.normal.digits = 0 → d.normal.exponent = 0) :
    NumberText (.ofDecimal negative d)
      ((if negative then ['-'] else []) ++ renderDecimal d) := by
  have hwhole := wholeText_ofNat d.normal.digits
  simp only [Literal.ofDecimal, renderDecimal]
  generalize hlead : d.normal.exponent + ((Digits.ofNat d.normal.digits).length : Int) - 1 = lead
  split
  case isTrue =>
    have hdrop : ∀ c ∈ (Digits.ofNat d.normal.digits).drop 1, c.isDigit = true :=
      fun c hc => hwhole.digits c (List.mem_of_mem_drop hc)
    have htext := @NumberText.mk negative _ _ _ _ _ (wholeText_take hwhole 0)
      (fractionText_of_digits hdrop) (powerText_ofInt lead)
    simpa only [List.append_assoc] using htext
  case isFalse =>
    split
    case isTrue =>
      have hplaces : FractionText
          (List.replicate (lead.natAbs - 1) '0' ++ Digits.ofNat d.normal.digits)
          ('.' :: (List.replicate (lead.natAbs - 1) '0' ++ Digits.ofNat d.normal.digits)) := by
        refine .some (by simp [hwhole.nonempty]) ?_
        intro c hc
        rcases List.mem_append.mp hc with hc | hc
        · exact isDigit_replicate hc
        · exact hwhole.digits c hc
      have hzero : WholeText ['0'] := wholeText_ofNat 0
      have htext := @NumberText.mk negative _ _ _ _ _ hzero hplaces .none
      simpa only [List.append_nil, List.cons_append, List.nil_append] using htext
    case isFalse =>
      split
      case isTrue =>
        have hzeros : WholeText
            (Digits.ofNat d.normal.digits ++ List.replicate d.normal.exponent.toNat '0') :=
          wholeText_zeros fun h => by rw [grounded h]; rfl
        have hpoint : FractionText ['0'] ['.', '0'] := .some (by simp) (by simp)
        have htext := @NumberText.mk negative _ _ _ _ _ hzeros hpoint .none
        simpa only [List.append_nil] using htext
      case isFalse =>
        have hmore : List.drop (lead.toNat + 1) (Digits.ofNat d.normal.digits) ≠ [] := by
          simp only [ne_eq, List.drop_eq_nil_iff]
          omega
        have hplaces := FractionText.some hmore fun c hc =>
          hwhole.digits c (List.mem_of_mem_drop hc)
        have htext := @NumberText.mk negative _ _ _ _ _ (wholeText_take hwhole lead.toNat) hplaces
          .none
        simpa only [List.append_nil] using htext

theorem numberText_renderDouble (x : Double) : NumberText (.ofDouble x) (renderDouble x) := by
  have htext : NumberText (.ofDouble x) ((if x.negative then ['-'] else []) ++
      if x.significand == 0 then ['0', '.', '0'] else renderDecimal (Decimal.shortest x)) := by
    unfold Literal.ofDouble
    split
    case isTrue =>
      have hpoint : FractionText ['0'] ['.', '0'] := .some (by simp) (by simp)
      exact .mk (wholeText_ofNat 0) hpoint .none
    case isFalse hpos =>
      exact numberText_renderDecimal _ (Decimal.grounded_shortest (by simpa using hpos))
  cases hneg : x.negative <;> simpa [renderDouble, hneg] using htext

theorem nameText_render (k : String) : NameText (some k) (renderString k) := by
  have hname := NameText.mk (Gap.nil) (stringText_escape k) Gap.nil
  simpa [renderString] using hname

mutual

/-- The text of a value is JSON, for the tree of the value. -/
theorem valueText_render : ∀ v : Json, ValueText v.tree v.render
  | null => .null
  | bool true => .yes
  | bool false => .no
  | int n => .number (numberText_renderInt n)
  | double x => .number (numberText_renderDouble x)
  | str s => .string (stringText_escape s)
  | arr [] => .emptyArray Gap.nil
  | arr (x :: xs) => .array (itemTexts_render (x :: xs) (by simp))
  | obj [] => .emptyObject Gap.nil
  | obj (m :: ms) => .object (memberTexts_render (m :: ms) (by simp))

theorem itemTexts_render : ∀ xs : List Json, xs ≠ [] →
    ItemTexts (itemTrees xs) (separate (renderItems xs))
  | [], nonempty => absurd rfl nonempty
  | [x], _ => .last (valueText_render x).document
  | x :: y :: ys, _ => .more (valueText_render x).document (itemTexts_render (y :: ys) (by simp))

theorem memberTexts_render : ∀ ms : List (String × Json), ms ≠ [] →
    MemberTexts (memberTrees ms) (separate (renderMembers ms))
  | [], nonempty => absurd rfl nonempty
  | [(k, v)], _ => .last (nameText_render k) (valueText_render v).document
  | (k, v) :: m :: ms, _ => by
    have hmore := MemberTexts.more (nameText_render k) (valueText_render v).document
      (memberTexts_render (m :: ms) (by simp))
    rw [memberTrees, renderMembers, renderMembers, separate, List.append_assoc]
    exact hmore

end

/-- The text of a value is read as the tree of the value. -/
theorem tree?_render (v : Json) : Reader.tree? v.render = some v.tree :=
  tree?_eq_some_iff.mpr (valueText_render v).document

theorem ofText?_text (v : Json) : Tree.ofText? v.text = some v.tree := by
  rw [Tree.ofText?, text, String.toList_ofList, tree?_render v]

theorem Literal.ofInt_injective {m n : Int} (h : Literal.ofInt m = Literal.ofInt n) : m = n := by
  simp only [Literal.ofInt, Literal.mk.injEq, decide_eq_decide, and_true] at h
  obtain ⟨hsign, hdigits⟩ := h
  have habs := Digits.ofNat_injective hdigits
  omega

mutual

/-- Values whose numbers are whole are told apart by their trees. -/
theorem tree_injective : ∀ (v w : Json), v.isWhole = true → w.isWhole = true → v.tree = w.tree →
    v = w
  | null, w, _, _, h => by cases w <;> simp [tree] at h ⊢
  | bool a, w, _, _, h => by cases w <;> simp_all [tree]
  | int m, w, _, hw, h => by
    cases w with
    | int n => rw [Literal.ofInt_injective (Tree.num.inj h)]
    | double x => simp [isWhole] at hw
    | _ => simp [tree] at h
  | double x, _, hv, _, _ => by simp [isWhole] at hv
  | str s, w, _, _, h => by cases w <;> simp_all [tree]
  | arr xs, w, hv, hw, h => by
    cases w with
    | arr ys => rw [itemTrees_injective xs ys hv hw (Tree.arr.inj h)]
    | _ => simp [tree] at h
  | obj ms, w, hv, hw, h => by
    cases w with
    | obj ns => rw [memberTrees_injective ms ns hv hw (Tree.obj.inj h)]
    | _ => simp [tree] at h

theorem itemTrees_injective : ∀ (xs ys : List Json), itemsWhole xs = true → itemsWhole ys = true →
    itemTrees xs = itemTrees ys → xs = ys
  | [], [], _, _, _ => rfl
  | [], _ :: _, _, _, h | _ :: _, [], _, _, h => by simp [itemTrees] at h
  | x :: xs, y :: ys, hx, hy, h => by
    simp only [itemsWhole, Bool.and_eq_true] at hx hy
    simp only [itemTrees, List.cons.injEq] at h
    rw [tree_injective x y hx.1 hy.1 h.1, itemTrees_injective xs ys hx.2 hy.2 h.2]

theorem memberTrees_injective : ∀ (ms ns : List (String × Json)), membersWhole ms = true →
    membersWhole ns = true → memberTrees ms = memberTrees ns → ms = ns
  | [], [], _, _, _ => rfl
  | [], _ :: _, _, _, h | _ :: _, [], _, _, h => by simp [memberTrees] at h
  | (k, v) :: ms, (k', v') :: ns, hm, hn, h => by
    simp only [membersWhole, Bool.and_eq_true] at hm hn
    simp only [memberTrees, List.cons.injEq, Prod.mk.injEq, Option.some.injEq] at h
    rw [h.1.1, tree_injective v v' hm.1 hn.1 h.1.2, memberTrees_injective ms ns hm.2 hn.2 h.2]

end

/-- Values whose numbers are whole are told apart by their texts. -/
theorem render_injective {v w : Json} (hv : v.isWhole = true) (hw : w.isWhole = true)
    (h : v.render = w.render) : v = w := by
  apply tree_injective v w hv hw
  apply Option.some.inj
  rw [← tree?_render v, ← tree?_render w, h]

end TxDispatch.Json

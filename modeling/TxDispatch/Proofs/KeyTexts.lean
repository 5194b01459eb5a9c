import Mathlib.Algebra.Group.Nat.Defs
import Mathlib.Data.Nat.Digits.Defs
import TxDispatch.Proofs.PercentCoding
import TxDispatch.Wallet

namespace TxDispatch

open Text Crypto

namespace Text.Hex

def Digit (c : Char) (n : Nat) : Prop :=
  "0123456789abcdef".toList[n]? = some c ∨ "0123456789ABCDEF".toList[n]? = some c

instance (c : Char) (n : Nat) : Decidable (Digit c n) := inferInstanceAs (Decidable (_ ∨ _))

theorem Digit.lt {c : Char} {n : Nat} (h : Digit c n) : n < 16 := by
  rcases h with h | h
  all_goals
    obtain ⟨hlt, _⟩ := List.getElem?_eq_some_iff.mp h
    exact hlt

theorem digit_iff {c : Char} {n : Nat} : Digit c n ↔ worth? c = some n := by
  constructor
  · intro h
    have hlower : ∀ p ∈ "0123456789abcdef".toList.zipIdx, worth? p.1 = some p.2 := by decide
    have hupper : ∀ p ∈ "0123456789ABCDEF".toList.zipIdx, worth? p.1 = some p.2 := by decide
    exact h.elim (fun h => hlower (c, n) (List.mk_mem_zipIdx_iff_getElem?.mpr h))
      fun h => hupper (c, n) (List.mk_mem_zipIdx_iff_getElem?.mpr h)
  · intro h
    have hascii : ∀ m < 128, ∀ n ∈ worth? (Char.ofNat m), Digit (Char.ofNat m) n := by decide
    have hc := hascii c.toNat (Url.Percent.toNat_lt_of_worth? h)
    rw [Char.ofNat_toNat] at hc
    exact hc n h

def Run (ds : List (Char × Nat)) : Prop := ∀ d ∈ ds, Digit d.1 d.2

theorem run_cons {d : Char × Nat} {ds : List (Char × Nat)} :
    Run (d :: ds) ↔ Digit d.1 d.2 ∧ Run ds := List.forall_mem_cons

/-- A text of hexadecimal digits is a run of them. -/
theorem exists_digits {cs : List Char} (h : ∀ c ∈ cs, (worth? c).isSome) :
    ∃ ds, Run ds ∧ ds.map Prod.fst = cs := by
  induction cs with
  | nil => exact ⟨[], by simp [Run], rfl⟩
  | cons c cs ih =>
    obtain ⟨hc, hcs⟩ := List.forall_mem_cons.mp h
    obtain ⟨n, hn⟩ := Option.isSome_iff_exists.mp hc
    obtain ⟨ds, hds, rfl⟩ := ih hcs
    exact ⟨(c, n) :: ds, run_cons.mpr ⟨digit_iff.mpr hn, hds⟩, rfl⟩

/-- What a run of digits is worth, the first of which weighs most. -/
def worth (ds : List (Char × Nat)) : Nat := Nat.ofDigits 16 (ds.map Prod.snd).reverse

theorem ofDigits_reverse (vs : List Nat) :
    Nat.ofDigits 16 vs.reverse = vs.foldl (fun n v => 16 * n + v) 0 := by
  suffices h : ∀ vs : List Nat, Nat.ofDigits 16 vs = vs.reverse.foldl (fun n v => 16 * n + v) 0 by
    rw [h, List.reverse_reverse]
  intro vs
  induction vs with
  | nil => rfl
  | cons v vs ih =>
    rw [Nat.ofDigits_cons, ih, List.reverse_cons, List.foldl_append, Nat.add_comm]
    rfl

/-- Digits are read two by two as bytes, which are worth the same. -/
theorem decode?_digits : ∀ ds : List (Char × Nat), Run ds → ds.length % 2 = 0 →
    ∃ bytes, decode? (ds.map Prod.fst) = some bytes ∧ ∀ n,
      bytes.foldl (fun n b => 256 * n + b.toNat) n =
        (ds.map Prod.snd).foldl (fun n v => 16 * n + v) n
  | [], _, _ => ⟨[], rfl, fun _ => rfl⟩
  | [_], _, even => by simp at even
  | (a, i) :: (b, j) :: ds, h, even => by
    obtain ⟨ha, hb, hds⟩ := run_cons.mp h |>.imp_right run_cons.mp
    have heven : ds.length % 2 = 0 := by
      simp only [List.length_cons] at even
      omega
    obtain ⟨bytes, hbytes, hvalue⟩ := decode?_digits ds hds heven
    refine ⟨UInt8.ofNat (16 * i + j) :: bytes, ?_, ?_⟩
    · simp [decode?, digit_iff.mp ha, digit_iff.mp hb, hbytes]
    · intro n
      have hi := ha.lt
      have hj := hb.lt
      have hbyte : 256 * n + (UInt8.ofNat (16 * i + j)).toNat = 16 * (16 * n + i) + j := by
        simp only at hi hj
        rw [UInt8.toNat_ofNat', Nat.mod_eq_of_lt (by omega)]
        omega
      simp only [List.map_cons, List.foldl_cons, hbyte, hvalue]

theorem natOfBytes_digits {ds : List (Char × Nat)} (h : Run ds) (even : ds.length % 2 = 0) :
    natOfBytes ((decode? (ds.map Prod.fst)).getD []) = worth ds := by
  obtain ⟨bytes, hbytes, hvalue⟩ := decode?_digits ds h even
  rw [hbytes, worth, ofDigits_reverse]
  exact hvalue 0

end Text.Hex

namespace Key

open Text.Hex (Digit Run worth worth? digit_iff)

theorem firstInvalid?_eq_none_iff {bytes : List UInt8} :
    firstInvalid? bytes = none ↔ ∀ b ∈ bytes, (worth? (Char.ofNat b.toNat)).isSome := by
  rw [firstInvalid?, List.find?_eq_none]
  constructor
  · intro h b hb
    obtain ⟨i, hi⟩ := List.getElem?_of_mem (List.mem_map_of_mem hb)
    simpa [Option.isSome_iff_ne_none] using h _ (List.mk_mem_zipIdx_iff_getElem?.mpr hi)
  · rintro h ⟨c, i⟩ hc
    obtain ⟨b, hb, rfl⟩ := List.mem_map.mp (List.fst_mem_of_mem_zipIdx hc)
    simpa [Option.isSome_iff_ne_none] using h b hb

theorem utf8EncodeChar_ascii {c : Char} (h : c.toNat < 128) :
    String.utf8EncodeChar c = [UInt8.ofNat c.toNat] := by
  have hascii : ∀ m < 128,
      String.utf8EncodeChar (Char.ofNat m) = [UInt8.ofNat (Char.ofNat m).toNat] := by decide +kernel
  have hc := hascii c.toNat h
  rwa [Char.ofNat_toNat] at hc

theorem exists_byte_of_not_ascii {c : Char} (h : 128 ≤ c.toNat) :
    ∃ b ∈ String.utf8EncodeChar c, 128 ≤ b.toNat := by
  have hlarge : 128 ≤ c.val.toNat := h
  unfold String.utf8EncodeChar
  generalize c.val.toNat = n at hlarge
  simp only
  repeat' split
  · omega
  all_goals
    refine ⟨_, List.mem_cons_self, ?_⟩
    simp only [UInt8.toNat_ofNat']
    omega

/-- Each digit is one byte. -/
theorem encode_run {ds : List (Char × Nat)} (h : Run ds) :
    Utf8.encode (ds.map Prod.fst) = ds.map fun d => UInt8.ofNat d.1.toNat := by
  induction ds with
  | nil => rfl
  | cons d ds ih =>
    obtain ⟨hd, hds⟩ := Hex.run_cons.mp h
    have hchar := utf8EncodeChar_ascii (Url.Percent.toNat_lt_of_worth? (digit_iff.mp hd))
    rw [List.map_cons, Utf8.encode_cons, ih hds, List.map_cons]
    simp [Utf8.encode, hchar]

/-- A character is a digit if its bytes are those of digits: if it is not ASCII, one is not. -/
theorem isSome_worth?_of_bytes {c : Char}
    (h : ∀ b ∈ String.utf8EncodeChar c, (worth? (Char.ofNat b.toNat)).isSome) :
    (worth? c).isSome := by
  rcases Nat.lt_or_ge c.toNat 128 with hascii | hlarge
  · have hc := h _ (utf8EncodeChar_ascii hascii ▸ List.mem_cons_self)
    rwa [UInt8.toNat_ofNat', Nat.mod_eq_of_lt (by omega), Char.ofNat_toNat] at hc
  · obtain ⟨b, hb, hlarge⟩ := exists_byte_of_not_ascii hlarge
    have hhigh : ∀ b : UInt8, 128 ≤ b.toNat → (worth? (Char.ofNat b.toNat)).isSome = false :=
      Url.Percent.forall_byte (by decide +kernel)
    exact absurd (h b hb) (by simp [hhigh b hlarge])

theorem firstInvalid?_run {ds : List (Char × Nat)} (h : Run ds) :
    firstInvalid? (Utf8.encode (ds.map Prod.fst)) = none := by
  rw [firstInvalid?_eq_none_iff, encode_run h]
  intro b hb
  obtain ⟨d, hd, rfl⟩ := List.mem_map.mp hb
  have hworth := digit_iff.mp (h d hd)
  have hascii := Url.Percent.toNat_lt_of_worth? hworth
  rw [UInt8.toNat_ofNat', Nat.mod_eq_of_lt (by omega), Char.ofNat_toNat, hworth]
  rfl

/-- Digits are read from exactly the texts of 64 hexadecimal digits. -/
theorem digits?_run {ds : List (Char × Nat)} (h : Run ds) (length : ds.length = 64) :
    digits? (ds.map Prod.fst) = .ok ((Hex.decode? (ds.map Prod.fst)).getD []) := by
  have hbytes : (Utf8.encode (ds.map Prod.fst)).length = 64 := by
    rw [encode_run h, List.length_map, length]
  simp [digits?, hbytes, firstInvalid?_run h]

theorem run_of_digits? {cs : List Char} {bytes : List UInt8} (h : digits? cs = .ok bytes) :
    ∃ ds, Run ds ∧ ds.length = 64 ∧ ds.map Prod.fst = cs := by
  simp only [digits?] at h
  split at h
  · cases h
  · split at h
    · cases h
    · rename_i hlength
      split at h
      · cases h
      · rename_i hvalid
        have hcs : ∀ c ∈ cs, (worth? c).isSome := fun c hc => isSome_worth?_of_bytes fun b hb =>
          firstInvalid?_eq_none_iff.mp hvalid b (List.mem_flatMap.mpr ⟨c, hc, hb⟩)
        obtain ⟨ds, hds, rfl⟩ := Hex.exists_digits hcs
        refine ⟨ds, hds, ?_, rfl⟩
        simpa [encode_run hds] using hlength

def markers : List String := ["", "0x", "0X", "0x0x", "0x0X"]

def unmarked (cs : List Char) : List Char := stripEitherMarker (stripMarker cs)

theorem exists_marker (cs : List Char) : ∃ m ∈ markers, cs = m.toList ++ unmarked cs := by
  have hfirst : ∀ cs, cs = stripMarker cs ∨ cs = '0' :: 'x' :: stripMarker cs := by
    intro cs
    unfold stripMarker
    split
    · exact .inr rfl
    · exact .inl rfl
  have hsecond : ∀ cs, cs = stripEitherMarker cs ∨ cs = '0' :: 'x' :: stripEitherMarker cs ∨
      cs = '0' :: 'X' :: stripEitherMarker cs := by
    intro cs
    unfold stripEitherMarker
    split
    · exact .inr (.inl rfl)
    · exact .inr (.inr rfl)
    · exact .inl rfl
  have hafter := hsecond (stripMarker cs)
  rw [← unmarked] at hafter
  rcases hfirst cs with hcs | hcs
  · rw [← hcs] at hafter
    rcases hafter with h | h | h
    · exact ⟨"", by decide, h⟩
    · exact ⟨"0x", by decide, h⟩
    · exact ⟨"0X", by decide, h⟩
  · rcases hafter with h | h | h
    · exact ⟨"0x", by decide, by rw [← h]; exact hcs⟩
    · exact ⟨"0x0x", by decide, hcs.trans (congrArg ('0' :: 'x' :: ·) h)⟩
    · exact ⟨"0x0X", by decide, hcs.trans (congrArg ('0' :: 'x' :: ·) h)⟩

/-- Digits do not begin with a marker, as neither letter of one is a digit. -/
theorem unmarked_run {m : String} (known : m ∈ markers) {ds : List (Char × Nat)} (h : Run ds) :
    unmarked (m.toList ++ ds.map Prod.fst) = ds.map Prod.fst := by
  have hdigits : ∀ c ∈ ds.map Prod.fst, (worth? c).isSome := by
    intro c hc
    obtain ⟨d, hd, rfl⟩ := List.mem_map.mp hc
    simp [digit_iff.mp (h d hd)]
  generalize ds.map Prod.fst = cs at hdigits
  have hfirst : stripMarker cs = cs := by
    unfold stripMarker
    split
    · exact absurd (hdigits 'x' (by simp)) (by decide)
    · rfl
  have hsecond : stripEitherMarker cs = cs := by
    unfold stripEitherMarker
    split
    · exact absurd (hdigits 'x' (by simp)) (by decide)
    · exact absurd (hdigits 'X' (by simp)) (by decide)
    · rfl
  simp only [markers, List.mem_cons, List.not_mem_nil, or_false] at known
  rcases known with rfl | rfl | rfl | rfl | rfl
  · change stripEitherMarker (stripMarker cs) = cs
    rw [hfirst, hsecond]
  · exact hsecond
  · rfl
  · rfl
  · rfl

end Key

/-- A text of a key: a marker and 64 hexadecimal digits, which are worth a scalar of the curve. -/
inductive KeyText : String → Nat → Prop where
  | mk {marker : String} {digits : List (Char × Nat)} (known : marker ∈ Key.markers)
    (run : Hex.Run digits) (length : digits.length = 64) (pos : 0 < Hex.worth digits)
    (lt : Hex.worth digits < Secp256k1.order) :
    KeyText (marker ++ String.ofList (digits.map Prod.fst)) (Hex.worth digits)

namespace Key

theorem parse_text {text : String} {n : Nat} (h : KeyText text n) :
    ∃ k, parse text = .ok k ∧ k.scalar = n := by
  obtain ⟨known, run, length, pos, lt⟩ := h
  have hvalue := Hex.natOfBytes_digits run (by rw [length])
  refine ⟨⟨_, pos, lt⟩, ?_, rfl⟩
  rw [parse, String.toList_append, String.toList_ofList, ← unmarked, unmarked_run known run,
    digits?_run run length]
  simp [hvalue, pos, lt]

theorem text_of_parse {text : String} {k : Key} (h : parse text = .ok k) :
    KeyText text k.scalar := by
  obtain ⟨m, known, hmarked⟩ := exists_marker text.toList
  rw [parse, ← unmarked] at h
  split at h
  · cases h
  · rename_i bytes hdigits
    obtain ⟨ds, run, length, hds⟩ := run_of_digits? hdigits
    have hbytes : (Hex.decode? (ds.map Prod.fst)).getD [] = bytes := by
      rw [← hds, digits?_run run length] at hdigits
      exact Except.ok.inj hdigits
    have hvalue : natOfBytes bytes = Hex.worth ds := by
      rw [← hbytes, Hex.natOfBytes_digits run (by rw [length])]
    have htext : text = m ++ String.ofList (ds.map Prod.fst) := by
      rw [← String.toList_inj, hmarked, String.toList_append, String.toList_ofList, hds]
    split at h
    · rename_i hrange
      cases h
      rw [hvalue] at hrange
      have hkey := KeyText.mk known run length hrange.1 hrange.2
      rwa [← htext, ← hvalue] at hkey
    · cases h

theorem parse_iff {text : String} {n : Nat} :
    (∃ k, parse text = .ok k ∧ k.scalar = n) ↔ KeyText text n := by
  constructor
  · rintro ⟨k, hk, rfl⟩
    exact text_of_parse hk
  · exact parse_text

theorem eq_of_scalar {k k' : Key} (h : k.scalar = k'.scalar) : k = k' := by
  cases k
  cases k'
  cases h
  rfl

end Key

theorem Wallet.ofKeyText_eq_ok_iff {text chainId : String} {w : Wallet} :
    Wallet.ofKeyText text chainId = .ok w ↔
      ∃ k, Key.parse text = .ok k ∧ w = { key := k, account := k.address, chainId } := by
  unfold Wallet.ofKeyText
  cases Key.parse text with
  | error e => simp
  | ok k => simp [eq_comm]

namespace Proofs

/-- A wallet is made of exactly the texts of keys; all others are refused because the text has no
key. A new wallet is at the start of its account, and texts of the same scalar give wallets of the
same account, public key and signatures. -/
theorem ofKeyText_texts (text chainId : String) :
    (∀ n, (∃ w, Wallet.ofKeyText text chainId = .ok w ∧ w.key.scalar = n) ↔ KeyText text n) ∧
    ((¬ ∃ n, KeyText text n) → ∃ e : KeyError, Wallet.ofKeyText text chainId =
      .error (.wallet ("Invalid private key format: " ++ e.message))) ∧
    (∀ w, Wallet.ofKeyText text chainId = .ok w → w.account = w.key.address ∧
      w.chainId = chainId ∧ w.sequence = 0 ∧ w.accountNumber = 0) ∧
    ∀ n, KeyText text n → ∀ text', KeyText text' n → ∀ chainId',
      ∃ w w', Wallet.ofKeyText text chainId = .ok w ∧ Wallet.ofKeyText text' chainId' = .ok w' ∧
        w.account = w'.account ∧ w.key.publicKey = w'.key.publicKey ∧
        ∀ digest, w.key.sign digest = w'.key.sign digest := by
  refine ⟨fun n => ?_, fun none => ?_, fun w hw => ?_, fun n known text' known' chainId' => ?_⟩
  · rw [← Key.parse_iff]
    constructor
    · rintro ⟨w, hw, hn⟩
      obtain ⟨k, hk, rfl⟩ := Wallet.ofKeyText_eq_ok_iff.mp hw
      exact ⟨k, hk, hn⟩
    · rintro ⟨k, hk, hn⟩
      exact ⟨_, Wallet.ofKeyText_eq_ok_iff.mpr ⟨k, hk, rfl⟩, hn⟩
  · cases hparse : Key.parse text with
    | ok k => exact absurd ⟨k.scalar, Key.text_of_parse hparse⟩ none
    | error e => exact ⟨e, by rw [Wallet.ofKeyText, hparse]⟩
  · obtain ⟨k, _, rfl⟩ := Wallet.ofKeyText_eq_ok_iff.mp hw
    exact ⟨rfl, rfl, rfl, rfl⟩
  · obtain ⟨k, hk, rfl⟩ := Key.parse_text known
    obtain ⟨k', hk', hsame⟩ := Key.parse_text known'
    obtain rfl := Key.eq_of_scalar hsame
    exact ⟨_, _, Wallet.ofKeyText_eq_ok_iff.mpr ⟨_, hk, rfl⟩,
      Wallet.ofKeyText_eq_ok_iff.mpr ⟨_, hk', rfl⟩, rfl, rfl, fun _ => rfl⟩

def lowerText : String := "0x0xac0974bec39a17e36ba4a6b4d238ff944bacb478cbed5efcae784d7bf4f2ff80"

def upperText : String := "0XAC0974BEC39A17E36BA4A6B4D238FF944BACB478CBED5EFCAE784D7BF4F2FF80"

def textsScalar : Nat := 0xac0974bec39a17e36ba4a6b4d238ff944bacb478cbed5efcae784d7bf4f2ff80

def overmarkedText : String :=
  "0X0xac0974bec39a17e36ba4a6b4d238ff944bacb478cbed5efcae784d7bf4f2ff80"

theorem marked_parse : ∀ t ∈ [lowerText, upperText],
    (Key.parse t).toOption.map Key.scalar = some textsScalar := by decide +kernel

theorem overmarked_parse :
    (Key.parse overmarkedText).map Key.scalar = .error .wrongLength := by decide +kernel

/-- Two texts of a scalar give one account, and a text with a marker too many gives none. -/
theorem ofKeyText_texts_marked :
    KeyText lowerText textsScalar ∧ KeyText upperText textsScalar ∧
    (∃ w w', Wallet.ofKeyText lowerText "a" = .ok w ∧ Wallet.ofKeyText upperText "b" = .ok w' ∧
      w.account = w'.account ∧ w.sequence = 0) ∧
    (¬ ∃ n, KeyText overmarkedText n) ∧
    ∃ e : KeyError, Wallet.ofKeyText overmarkedText "a" =
      .error (.wallet ("Invalid private key format: " ++ e.message)) := by
  have hmarked : ∀ t ∈ [lowerText, upperText], KeyText t textsScalar := by
    intro t ht
    have hscalar := marked_parse t ht
    cases hparse : Key.parse t with
    | error e => simp [hparse, Except.toOption] at hscalar
    | ok k =>
      have hk : k.scalar = textsScalar := by simpa [hparse, Except.toOption] using hscalar
      exact hk ▸ Key.text_of_parse hparse
  have hlower := hmarked lowerText (by simp)
  have hupper := hmarked upperText (by simp)
  have hnone : ¬ ∃ n, KeyText overmarkedText n := by
    rintro ⟨n, h⟩
    obtain ⟨k, hk, _⟩ := Key.parse_text h
    have hrefused := overmarked_parse
    rw [hk] at hrefused
    cases hrefused
  obtain ⟨w, w', hw, hw', haccount, _⟩ :=
    (ofKeyText_texts lowerText "a").2.2.2 textsScalar hlower upperText hupper "b"
  have hstart := (ofKeyText_texts lowerText "a").2.2.1 w hw
  exact ⟨hlower, hupper, ⟨w, w', hw, hw', haccount, hstart.2.2.1⟩, hnone,
    (ofKeyText_texts overmarkedText "a").2.1 hnone⟩

end Proofs

end TxDispatch

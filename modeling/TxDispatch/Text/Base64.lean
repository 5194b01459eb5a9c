namespace TxDispatch.Text.Base64

def letter (n : Nat) : Char :=
  if n < 26 then Char.ofNat (65 + n)
  else if n < 52 then Char.ofNat (71 + n)
  else if n < 62 then Char.ofNat (n - 4)
  else if n == 62 then '+'
  else '/'

/-- Three bytes become four characters; a shorter last group is padded. -/
def encode : List UInt8 → List Char
  | [] => []
  | [a] =>
    let n := a.toNat * 16
    [letter (n / 64), letter (n % 64), '=', '=']
  | [a, b] =>
    let n := (a.toNat * 256 + b.toNat) * 4
    [letter (n / 4096), letter (n / 64 % 64), letter (n % 64), '=']
  | a :: b :: c :: rest =>
    let n := (a.toNat * 256 + b.toNat) * 256 + c.toNat
    letter (n / 262144) :: letter (n / 4096 % 64) :: letter (n / 64 % 64) :: letter (n % 64) ::
      encode rest

def text (bytes : List UInt8) : String := String.ofList (encode bytes)

theorem letter_injective : ∀ m < 64, ∀ n < 64, letter m = letter n → m = n := by decide

theorem letter_ne_pad : ∀ n < 64, letter n ≠ '=' := by decide

/-- Bytes are told apart by their text: padding tells how many there are, and letters which. -/
theorem encode_injective {xs ys : List UInt8} (h : encode xs = encode ys) : xs = ys := by
  induction xs using encode.induct generalizing ys with
  | case1 =>
    match ys with
    | [] => rfl
    | [_] | [_, _] | _ :: _ :: _ :: _ => simp [encode] at h
  | case2 a =>
    have ha := a.toNat_lt
    match ys with
    | [] => simp [encode] at h
    | [a'] =>
      have ha' := a'.toNat_lt
      simp only [encode, List.cons.injEq, and_true] at h
      have h₁ := letter_injective _ (by omega) _ (by omega) h.1
      have h₂ := letter_injective _ (by omega) _ (by omega) h.2
      rw [UInt8.toNat_inj.mp (show a.toNat = a'.toNat by omega)]
    | [_, _] | _ :: _ :: _ :: _ =>
      simp only [encode, List.cons.injEq] at h
      exact absurd h.2.2.1.symm (letter_ne_pad _ (by omega))
  | case3 a b =>
    have ha := a.toNat_lt
    have hb := b.toNat_lt
    match ys with
    | [] => simp [encode] at h
    | [_] =>
      simp only [encode, List.cons.injEq] at h
      exact absurd h.2.2.1 (letter_ne_pad _ (by omega))
    | [a', b'] =>
      have ha' := a'.toNat_lt
      have hb' := b'.toNat_lt
      simp only [encode, List.cons.injEq, and_true] at h
      have h₁ := letter_injective _ (by omega) _ (by omega) h.1
      have h₂ := letter_injective _ (by omega) _ (by omega) h.2.1
      have h₃ := letter_injective _ (by omega) _ (by omega) h.2.2
      rw [UInt8.toNat_inj.mp (show a.toNat = a'.toNat by omega),
        UInt8.toNat_inj.mp (show b.toNat = b'.toNat by omega)]
    | _ :: _ :: _ :: _ =>
      simp only [encode, List.cons.injEq] at h
      exact absurd h.2.2.2.1.symm (letter_ne_pad _ (by omega))
  | case4 a b c rest ih =>
    have ha := a.toNat_lt
    have hb := b.toNat_lt
    have hc := c.toNat_lt
    match ys with
    | [] => simp [encode] at h
    | [_] | [_, _] =>
      simp only [encode, List.cons.injEq] at h
      exact absurd h.2.2.2.1 (letter_ne_pad _ (by omega))
    | a' :: b' :: c' :: rest' =>
      have ha' := a'.toNat_lt
      have hb' := b'.toNat_lt
      have hc' := c'.toNat_lt
      simp only [encode, List.cons.injEq] at h
      have h₁ := letter_injective _ (by omega) _ (by omega) h.1
      have h₂ := letter_injective _ (by omega) _ (by omega) h.2.1
      have h₃ := letter_injective _ (by omega) _ (by omega) h.2.2.1
      have h₄ := letter_injective _ (by omega) _ (by omega) h.2.2.2.1
      rw [UInt8.toNat_inj.mp (show a.toNat = a'.toNat by omega),
        UInt8.toNat_inj.mp (show b.toNat = b'.toNat by omega),
        UInt8.toNat_inj.mp (show c.toNat = c'.toNat by omega), ih h.2.2.2.2]

theorem text_injective {xs ys : List UInt8} (h : text xs = text ys) : xs = ys :=
  encode_injective (String.ofList_inj.mp h)

end TxDispatch.Text.Base64

namespace TxDispatch.Text.Digits

def digit (n : Nat) : Char := Char.ofNat (48 + n)

def worth (c : Char) : Nat := c.toNat - 48

def value (cs : List Char) : Nat := cs.foldl (fun n c => 10 * n + worth c) 0

/-- The digits of `n`, cut to its lowest `size + 1`. -/
def lowest : (size n : Nat) → List Char
  | 0, n => [digit (n % 10)]
  | size + 1, n => if n < 10 then [digit n] else lowest size (n / 10) ++ [digit (n % 10)]

/-- The decimal digits of a number, without leading zeros: no number has more digits than units. -/
def ofNat (n : Nat) : List Char := lowest n n

def text (n : Nat) : String := String.ofList (ofNat n)

def read? (cs : List Char) : Option Nat :=
  if cs ≠ [] ∧ cs.all Char.isDigit then some (value cs) else none

def readSigned? : List Char → Option Nat
  | '+' :: cs => read? cs
  | cs => read? cs

def toWord32? (n : Nat) : Option UInt32 :=
  if h : n < UInt32.size then some (UInt32.ofNatLT n h) else none

def toWord64? (n : Nat) : Option UInt64 :=
  if h : n < UInt64.size then some (UInt64.ofNatLT n h) else none

def toWord128? (n : Nat) : Option (BitVec 128) :=
  if h : n < 2 ^ 128 then some (BitVec.ofNatLT n h) else none

theorem worth_digit : ∀ n < 10, worth (digit n) = n := by decide

theorem isDigit_digit : ∀ n < 10, (digit n).isDigit = true := by decide

theorem eq_zero_of_digit : ∀ n < 10, digit n = '0' → n = 0 := by decide

theorem value_concat (cs : List Char) (c : Char) : value (cs ++ [c]) = 10 * value cs + worth c := by
  simp [value]

theorem lowest_ne_nil (size n : Nat) : lowest size n ≠ [] := by
  cases size with
  | zero => simp [lowest]
  | succ size =>
    rw [lowest]
    split <;> simp

theorem value_lowest {size n : Nat} (h : n ≤ size) : value (lowest size n) = n := by
  induction size generalizing n with
  | zero =>
    obtain rfl : n = 0 := by omega
    rfl
  | succ size ih =>
    rw [lowest]
    split
    · rename_i hlt
      simp [value, worth_digit n hlt]
    · rw [value_concat, ih (by omega), worth_digit (n % 10) (by omega)]
      omega

theorem isDigit_of_mem_lowest {size n : Nat} {c : Char} (h : c ∈ lowest size n) :
    c.isDigit = true := by
  induction size generalizing n with
  | zero =>
    obtain rfl := List.mem_singleton.mp h
    exact isDigit_digit _ (by omega)
  | succ size ih =>
    rw [lowest] at h
    split at h
    · obtain rfl := List.mem_singleton.mp h
      exact isDigit_digit _ ‹_›
    · rcases List.mem_append.mp h with hmem | hmem
      · exact ih hmem
      · obtain rfl := List.mem_singleton.mp hmem
        exact isDigit_digit _ (by omega)

/-- Only zero is written with a zero in front. -/
theorem eq_zero_of_head?_lowest {size n : Nat} (h : n ≤ size)
    (zero : (lowest size n).head? = some '0') : n = 0 := by
  induction size generalizing n with
  | zero => omega
  | succ size ih =>
    rw [lowest] at zero
    split at zero
    · exact eq_zero_of_digit n ‹_› (by simpa using zero)
    · cases hl : lowest size (n / 10) with
      | nil => exact absurd hl (lowest_ne_nil _ _)
      | cons c cs =>
        have hzero : n / 10 = 0 := ih (by omega) (by simpa [hl] using zero)
        omega

theorem value_ofNat (n : Nat) : value (ofNat n) = n := value_lowest (Nat.le_refl n)

theorem isDigit_of_mem_ofNat {n : Nat} {c : Char} (h : c ∈ ofNat n) : c.isDigit = true :=
  isDigit_of_mem_lowest h

/-- A run of digits ends at the first character that is none. -/
theorem span_digits {ds rest : List Char} (all : ∀ c ∈ ds, c.isDigit = true)
    (stop : ∀ c ∈ rest.head?, c.isDigit = false) :
    (ds ++ rest).takeWhile Char.isDigit = ds ∧ (ds ++ rest).dropWhile Char.isDigit = rest := by
  rw [List.takeWhile_append_of_pos all, List.dropWhile_append_of_pos all]
  cases rest with
  | nil => simp
  | cons c cs => simp [stop c (by simp)]

/-- The digits of a number start with a digit, which is a zero only if it is the one digit. -/
theorem ofNat_eq_cons (n : Nat) :
    ∃ c cs, ofNat n = c :: cs ∧ c.isDigit = true ∧ (c = '0' → cs = []) := by
  cases h : ofNat n with
  | nil => exact absurd h (lowest_ne_nil n n)
  | cons c cs =>
    refine ⟨c, cs, rfl, isDigit_of_mem_ofNat (by rw [h]; simp), ?_⟩
    rintro rfl
    obtain rfl : n = 0 := eq_zero_of_head?_lowest (Nat.le_refl n) (by rw [← ofNat, h]; rfl)
    exact (List.cons.inj h).2.symm

theorem ofNat_injective {m n : Nat} (h : ofNat m = ofNat n) : m = n := by
  rw [← value_ofNat m, h, value_ofNat]

theorem text_injective {m n : Nat} (h : text m = text n) : m = n :=
  ofNat_injective (String.ofList_inj.mp h)

theorem toWord128?_eq_some_iff {n : Nat} {w : BitVec 128} : toWord128? n = some w ↔ n = w.toNat := by
  unfold toWord128?
  constructor
  · intro h
    split at h
    · rw [← Option.some.inj h, BitVec.toNat_ofNatLT]
    · cases h
  · rintro rfl
    simp [w.isLt]

theorem toWord64?_eq_some_iff {n : Nat} {w : UInt64} :
    toWord64? n = some w ↔ n = w.toNat := by
  unfold toWord64?
  constructor
  · intro h
    split at h
    · rw [← Option.some.inj h, UInt64.toNat_ofNatLT]
    · cases h
  · rintro rfl
    simp [w.toNat_lt_size]

theorem read?_eq_some_iff {cs : List Char} {n : Nat} :
    read? cs = some n ↔ cs ≠ [] ∧ (∀ c ∈ cs, c.isDigit = true) ∧ value cs = n := by
  simp [read?, and_assoc]

theorem readSigned?_eq_some_iff {cs : List Char} {n : Nat} :
    readSigned? cs = some n ↔ ∃ sign ds, (sign = [] ∨ sign = ['+']) ∧ cs = sign ++ ds ∧
      ds ≠ [] ∧ (∀ c ∈ ds, c.isDigit = true) ∧ value ds = n := by
  constructor
  · intro h
    unfold readSigned? at h
    split at h
    case h_1 ds => exact ⟨['+'], ds, .inr rfl, rfl, read?_eq_some_iff.mp h⟩
    case h_2 => exact ⟨[], cs, .inl rfl, rfl, read?_eq_some_iff.mp h⟩
  · intro ⟨sign, ds, plus, hcs, hread⟩
    rw [hcs]
    rcases plus with rfl | rfl
    · cases ds with
      | nil => exact absurd rfl hread.1
      | cons c ds =>
        have hplus : c ≠ '+' := by
          rintro rfl
          have hdigit := hread.2.1 '+' List.mem_cons_self
          cases hdigit
        rw [List.nil_append, readSigned?]
        · exact read?_eq_some_iff.mpr hread
        · rintro _ same
          exact hplus (List.cons.inj same).1
    · exact read?_eq_some_iff.mpr hread

/-- The digits of a number are read back as the number, without a sign. -/
theorem readSigned?_ofNat (n : Nat) : readSigned? (ofNat n) = some n :=
  readSigned?_eq_some_iff.mpr ⟨[], ofNat n, .inl rfl, rfl, lowest_ne_nil n n,
    fun _ h => isDigit_of_mem_ofNat h, value_ofNat n⟩

theorem toWord32?_toNat (w : UInt32) : toWord32? w.toNat = some w := by
  simp [toWord32?, UInt32.toNat_lt_size]

end TxDispatch.Text.Digits

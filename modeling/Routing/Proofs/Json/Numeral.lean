import Routing.Json.Tree

/-!
Numbers that are read back. A whole number is written as its digits, after a minus if it is
negative; these are read as a numeral without a fraction and without an exponent, which denotes the
number again if it fits into 64 bits.

    -70 , ...     numeral  minus, digits 7 0     number  -70     and  , ...  is left

A numeral goes on as long as digits, a point or an exponent come, so none of these may follow.
-/

namespace Routing.Json

open Text

/-- A whole number, taken apart. -/
def Numeral.ofInt (n : Int) : Numeral := ⟨n < 0, Nat.toDigits 10 n.natAbs, none, none⟩

namespace Tree

/-- The text does not go on with a number. -/
def EndsNumber (rest : List Char) : Prop :=
  ∀ c ∈ rest.head?, isAsciiDigit c = false ∧ c ≠ '.' ∧ c ≠ 'e' ∧ c ≠ 'E'

theorem isAsciiDigit_of_mem_toDigits {n : Nat} {c : Char} (h : c ∈ Nat.toDigits 10 n) :
    isAsciiDigit c = true := by
  have hdigit := Nat.isDigit_of_mem_toDigits (b := 10) (by decide) (by decide) h
  simpa [Char.isDigit, isAsciiDigit, Char.le_def] using hdigit

/-- Only the number zero starts with a zero. -/
theorem toDigits_head (n : Nat) (hn : 0 < n) : (Nat.toDigits 10 n).head? ≠ some '0' := by
  induction n using Nat.strongRecOn with
  | ind n ih =>
    rw [Nat.toDigits_eq_if (by decide)]
    split
    next hlt =>
      have hdigit : ∀ n < 10, 0 < n → n.digitChar ≠ '0' := by decide
      simpa using hdigit n hlt hn
    next hge =>
      have hhead := ih (n / 10) (by omega) (by omega)
      rw [List.head?_append]
      cases h : (Nat.toDigits 10 (n / 10)).head? with
      | none => exact absurd (List.head?_eq_none_iff.1 h) Nat.toDigits_ne_nil
      | some c => rwa [h] at hhead

theorem takeDigits_append {ds rest : List Char} (hds : ∀ c ∈ ds, isAsciiDigit c = true)
    (hrest : EndsNumber rest) : takeDigits (ds ++ rest) = (ds, rest) := by
  have hstop : rest.takeWhile isAsciiDigit = [] ∧ rest.dropWhile isAsciiDigit = rest := by
    cases rest with
    | nil => exact ⟨rfl, rfl⟩
    | cons c rest => simp [(hrest c rfl).1]
  rw [takeDigits, List.takeWhile_append_of_pos hds, List.dropWhile_append_of_pos hds, hstop.1,
    hstop.2, List.append_nil]

theorem readFraction_none {rest : List Char} (h : EndsNumber rest) :
    readFraction rest = some (none, rest) := by
  unfold readFraction
  split
  · next c => exact absurd rfl (h '.' rfl).2.1
  · rfl

theorem readExponent_none {rest : List Char} (h : EndsNumber rest) :
    readExponent rest = some (none, rest) := by
  cases rest with
  | nil => rfl
  | cons c rest =>
    obtain ⟨-, -, he, hE⟩ := h c rfl
    simp [readExponent, he, hE]

/-- A whole number is written as its digits, after a minus if it is negative. -/
theorem text_whole (n : Int) : (Number.whole n).text.toList =
    (if n < 0 then ['-'] else []) ++ Nat.toDigits 10 n.natAbs := by
  cases n with
  | ofNat n =>
    have htext : (Number.whole (.ofNat n)).text = n.repr := rfl
    have hsign : ¬ Int.ofNat n < 0 := by simp
    rw [htext, Nat.toList_repr, if_neg hsign]
    rfl
  | negSucc n =>
    have htext : (Number.whole (.negSucc n)).text = "-" ++ n.succ.repr := rfl
    rw [htext, String.toList_append, Nat.toList_repr, if_pos (Int.negSucc_lt_zero n)]
    rfl

/-- Digits that denote no number with a zero in front are read up to their end. -/
theorem readNumeral_digits (negative : Bool) {ds rest : List Char} (hne : ds ≠ [])
    (hds : ∀ c ∈ ds, isAsciiDigit c = true) (hzero : ∀ d more, ds ≠ '0' :: d :: more)
    (hrest : EndsNumber rest) :
    readNumeral ((if negative then ['-'] else []) ++ ds ++ rest) =
      some (⟨negative, ds, none, none⟩, rest) := by
  unfold readNumeral
  split
  next negative' cs heq =>
    obtain ⟨rfl, rfl⟩ : negative = negative' ∧ ds ++ rest = cs := by
      cases negative with
      | true => simpa using heq
      | false =>
        cases ds with
        | nil => exact absurd rfl hne
        | cons d ds =>
          have hminus : d ≠ '-' := by
            rintro rfl
            exact absurd (hds _ (.head _)) (by decide)
          simpa [hminus] using heq
    rw [takeDigits_append hds hrest]
    split
    next heq => exact absurd (congrArg Prod.fst heq) hne
    next heq => exact absurd (congrArg Prod.fst heq) (hzero _ _)
    next heq =>
      obtain ⟨rfl, rfl⟩ := Prod.mk.inj heq
      simp [readFraction_none hrest, readExponent_none hrest]

/-- A whole number is read back. -/
theorem readNumeral_whole (n : Int) {rest : List Char} (hrest : EndsNumber rest) :
    readNumeral ((Number.whole n).text.toList ++ rest) = some (.ofInt n, rest) := by
  have hzero : ∀ d more, Nat.toDigits 10 n.natAbs ≠ '0' :: d :: more := by
    intro d more heq
    rcases Nat.eq_zero_or_pos n.natAbs with h | h
    · rw [h] at heq
      simp at heq
    · exact toDigits_head _ h (by rw [heq]; rfl)
  have hread := readNumeral_digits (n < 0) Nat.toDigits_ne_nil
    (fun _ => isAsciiDigit_of_mem_toDigits) hzero hrest
  simpa [text_whole, Numeral.ofInt] using hread

/-- The text of a whole number starts with a minus or a digit. -/
theorem text_start (n : Int) : ∃ c cs, (Number.whole n).text.toList = c :: cs ∧
    (c = '-' ∨ isAsciiDigit c = true) := by
  rw [text_whole]
  by_cases hneg : n < 0
  · exact ⟨'-', _, by rw [if_pos hneg]; rfl, .inl rfl⟩
  · rw [if_neg hneg, List.nil_append]
    cases hds : Nat.toDigits 10 n.natAbs with
    | nil => exact absurd hds Nat.toDigits_ne_nil
    | cons d ds =>
      exact ⟨d, ds, rfl, .inr (isAsciiDigit_of_mem_toDigits (hds ▸ List.mem_cons_self))⟩

end Tree

/-! ### What a numeral denotes -/

namespace Numeral

/-- The number that digits denote, after those that have been read. -/
def digitsValue (n : Nat) (ds : List Char) : Nat := ds.foldl (fun n c => n * 10 + hexValue c) n

theorem le_digitsValue (n : Nat) (ds : List Char) : n ≤ digitsValue n ds := by
  induction ds generalizing n with
  | nil => exact Nat.le_refl n
  | cons d ds ih => exact Nat.le_trans (by omega) (ih (n * 10 + hexValue d))

/-- Digits are all taken if they denote a number of 64 bits. -/
theorem absorb_eq : ∀ (ds : List Char) (n count : Nat), digitsValue n ds < 0x10000000000000000 →
    absorb n count ds = (digitsValue n ds, count + ds.length, [])
  | [], _, _, _ => rfl
  | d :: ds, n, count, h => by
    have hless : n * 10 + hexValue d < 0x10000000000000000 :=
      Nat.lt_of_le_of_lt (le_digitsValue _ ds) h
    rw [absorb, if_pos hless, absorb_eq ds _ _ h, List.length_cons, Nat.add_assoc, Nat.add_comm 1]
    rfl

theorem digitsValue_toDigits (n : Nat) : digitsValue 0 (Nat.toDigits 10 n) = n := by
  have hvalue : ∀ (ds : List Char) (k : Nat), (∀ c ∈ ds, isAsciiDigit c = true) →
      digitsValue k ds = Nat.ofDigitChars 10 ds k := by
    intro ds
    induction ds with
    | nil => exact fun _ _ => rfl
    | cons d ds ih =>
      intro k hds
      obtain ⟨hd, hds⟩ := List.forall_mem_cons.1 hds
      have hdigit : hexValue d = d.toNat - '0'.toNat := by
        rw [hexValue, if_pos (by simpa [isAsciiDigit] using hd)]
      rw [digitsValue, List.foldl_cons, hdigit, Nat.mul_comm]
      exact ih _ hds
  rw [hvalue _ _ fun _ => Tree.isAsciiDigit_of_mem_toDigits, Nat.ofDigitChars_ten_toDigits]

/-- A whole number that fits into 64 bits, with a sign if it is negative, is denoted by its
numeral. -/
theorem toNumber?_ofInt {n : Int} (hlo : -0x8000000000000000 ≤ n) (hhi : n < 0x10000000000000000) :
    (ofInt n).toNumber? = some (.whole n) := by
  have hdigits : absorb 0 0 (Nat.toDigits 10 n.natAbs) =
      (n.natAbs, 0 + (Nat.toDigits 10 n.natAbs).length, []) := by
    have hvalue := digitsValue_toDigits n.natAbs
    rw [absorb_eq _ _ _ (by omega), hvalue]
  rw [toNumber?, ofInt]
  simp only [hdigits]
  by_cases hneg : n < 0
  · have hfits : ¬ (n = 0 ∨ 0x8000000000000000 < n.natAbs) := by omega
    have habs : -(n.natAbs : Int) = n := by omega
    simp only [hneg, habs, decide_true, Bool.not_true, Option.isSome_none, List.isEmpty_nil]
    simpa using fun h => absurd h hfits
  · have habs : (n.natAbs : Int) = n := by omega
    simp [hneg, habs]

end Numeral

end Routing.Json

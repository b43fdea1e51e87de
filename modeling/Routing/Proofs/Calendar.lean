import Routing.Calendar

/-!
The texts of years, months and days. A number is told by its digits, whatever zeros stand before
them, and a year by its digits and its sign. So no two dates are written with the same parts.

    year      sign      digits
    2024      (none)    2024
    -5        -         0005
    10000     +         10000
-/

namespace Routing

namespace Decimal

theorem toList_padded (width n : Nat) : (padded width n).toList =
    List.replicate (width - (Nat.toDigits 10 n).length) '0' ++ Nat.toDigits 10 n :=
  String.toList_ofList

theorem isDigit_of_mem_padded {width n : Nat} {c : Char} (h : c ∈ (padded width n).toList) :
    c.isDigit = true := by
  rw [toList_padded, List.mem_append] at h
  rcases h with h | h
  · rw [List.eq_of_mem_replicate h]
    rfl
  · exact Nat.isDigit_of_mem_toDigits (by decide) (by decide) h

theorem exists_mem_padded (width n : Nat) : ∃ c, c ∈ (padded width n).toList := by
  rw [toList_padded]
  obtain ⟨c, hc⟩ := List.exists_mem_of_ne_nil _ (Nat.toDigits_ne_nil (b := 10) (n := n))
  exact ⟨c, List.mem_append_right _ hc⟩

/-- Zeros before a number do not count. -/
theorem ofDigitChars_padded (width n : Nat) :
    Nat.ofDigitChars 10 (padded width n).toList 0 = n := by
  rw [toList_padded, Nat.ofDigitChars_append, Nat.ofDigitChars_replicate_zero, Nat.mul_zero]
  exact Nat.ofDigitChars_ten_toDigits

theorem padded_injective {width m n : Nat} (h : (padded width m).toList = (padded width n).toList) :
    m = n := by
  rw [← ofDigitChars_padded width m, h, ofDigitChars_padded]

end Decimal

namespace Date

open Decimal

/-- The sign of a year. -/
def sign (year : Int) : List Char :=
  if year < 0 then ['-'] else if year ≤ 9999 then [] else ['+']

theorem toList_yearText (year : Int) :
    (yearText year).toList = sign year ++ (padded 4 year.natAbs).toList := by
  rw [yearText, String.toList_append, sign]
  split
  · rfl
  · split <;> rfl

theorem mem_sign {year : Int} {c : Char} (h : c ∈ sign year) : c = '-' ∨ c = '+' := by
  unfold sign at h
  split at h
  · exact .inl (List.mem_singleton.1 h)
  · split at h
    · exact absurd h List.not_mem_nil
    · exact .inr (List.mem_singleton.1 h)

theorem not_isDigit_of_mem_sign {year : Int} {c : Char} (h : c ∈ sign year) :
    c.isDigit = false := by
  rcases mem_sign h with rfl | rfl <;> rfl

/-- The sign ends where the digits start. -/
theorem yearText_injective {y y' : Int} (h : yearText y = yearText y') : y = y' := by
  have hsign : ∀ y : Int, (yearText y).toList.takeWhile (fun c => !c.isDigit) = sign y := by
    intro y
    rw [toList_yearText, List.takeWhile_append_of_pos fun c hc => by
      simp [not_isDigit_of_mem_sign hc]]
    cases hdigits : (padded 4 y.natAbs).toList with
    | nil => simp
    | cons c cs =>
      have hc : c.isDigit = true := isDigit_of_mem_padded (hdigits ▸ List.mem_cons_self)
      simp [hc]
  have hsame : sign y = sign y' := by rw [← hsign, ← hsign, h]
  have hlist := congrArg String.toList h
  rw [toList_yearText, toList_yearText, hsame] at hlist
  have habs := padded_injective (List.append_cancel_left hlist)
  have hneg : ∀ y : Int, sign y = ['-'] ↔ y < 0 := by
    intro y
    unfold sign
    split
    next h => simp [h]
    next h => split <;> simp [h]
  have hboth : y < 0 ↔ y' < 0 := by rw [← hneg, ← hneg, hsame]
  omega

end Date

end Routing

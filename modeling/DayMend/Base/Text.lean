import Mathlib.Data.String.Basic
import Mathlib.Data.List.Basic

/-!
# Numerals inside identifiers

Identifiers are built from texts and numerals separated by colons. A numeral can
be read back off the front of what follows it, because what follows does not
begin with a digit; so two identifiers with the same text up to the numeral are
different when the numerals are (`numeral_inj`, `numeral_colon_inj`). In the same way
a name without a colon can be read back off the front (`name_colon_inj`).
-/

namespace DayMend.Base

theorem isDigit_of_mem_toString {n : ℕ} {c : Char} (h : c ∈ (toString n).toList) : c.isDigit := by
  rw [Nat.toString_eq_ofList_toDigits, String.toList_ofList] at h
  exact Nat.isDigit_of_mem_toDigits (by decide) (by decide) h

/-- Different numbers have different numerals. -/
theorem numeral_inj {n m : ℕ} (h : toString n = toString m) : n = m := by
  rw [Nat.toString_eq_ofList_toDigits, Nat.toString_eq_ofList_toDigits, String.ofList_inj] at h
  rw [← Nat.ofDigitChars_ten_toDigits (n := n), h, Nat.ofDigitChars_ten_toDigits]

/-- The digits at the front of a numeral followed by a colon are the numeral. -/
theorem takeWhile_numeral (n : ℕ) (t : String) :
    (toString n ++ ":" ++ t).toList.takeWhile Char.isDigit = (toString n).toList := by
  rw [String.toList_append, String.toList_append, List.append_assoc,
    List.takeWhile_append_of_pos fun c hc => isDigit_of_mem_toString hc]
  simp

/-- A numeral before a colon can be read back, whatever follows. -/
theorem numeral_colon_inj {n m : ℕ} {s t : String} (h : toString n ++ ":" ++ s = toString m ++ ":" ++ t) :
    n = m := by
  apply numeral_inj
  rw [← String.toList_inj, ← takeWhile_numeral n s, h, takeWhile_numeral]

theorem append_left_cancel {s t u : String} (h : s ++ t = s ++ u) : t = u := by
  rw [← String.toList_inj, String.toList_append, String.toList_append] at h
  exact String.toList_inj.mp (List.append_cancel_left h)

/-- What stands before the first colon, when it has none itself. -/
theorem takeWhile_name {name : String} (h : ':' ∉ name.toList) (t : String) :
    (name ++ ":" ++ t).toList.takeWhile (· ≠ ':') = name.toList := by
  rw [String.toList_append, String.toList_append, List.append_assoc, List.takeWhile_append_of_pos fun c hc => ?_]
  · simp
  · exact decide_eq_true fun hcolon => h (hcolon ▸ hc)

/-- A name before the first colon can be read back, and so can what follows it. -/
theorem name_colon_inj {m n s t : String} (hm : ':' ∉ m.toList) (hn : ':' ∉ n.toList)
    (h : m ++ ":" ++ s = n ++ ":" ++ t) : m = n ∧ s = t := by
  have hname : m = n := by rw [← String.toList_inj, ← takeWhile_name hm s, h, takeWhile_name hn]
  subst hname
  exact ⟨rfl, append_left_cancel h⟩

/-- What stands after the last colon can be read back, and so can what precedes it. -/
theorem colon_name_inj {m n s t : String} (hm : ':' ∉ m.toList) (hn : ':' ∉ n.toList)
    (h : s ++ ":" ++ m = t ++ ":" ++ n) : s = t ∧ m = n := by
  have hreverse := congrArg (fun text : String => String.ofList text.toList.reverse) h
  simp only [String.toList_append, List.reverse_append, String.ofList_append] at hreverse
  have hcolon : String.ofList (":".toList).reverse = ":" := rfl
  rw [hcolon, ← String.append_assoc, ← String.append_assoc] at hreverse
  have hm' : ':' ∉ (String.ofList m.toList.reverse).toList := by simpa using hm
  have hn' : ':' ∉ (String.ofList n.toList.reverse).toList := by simpa using hn
  obtain ⟨hname, hrest⟩ := name_colon_inj hm' hn' hreverse
  rw [String.ofList_inj, List.reverse_inj, String.toList_inj] at hname hrest
  exact ⟨hrest, hname⟩

theorem colon_notMem_numeral (n : ℕ) : ':' ∉ (toString n).toList := by
  intro h
  exact absurd (isDigit_of_mem_toString h) (by decide)

/-- A numeral may have a sign. -/
theorem toString_negSucc (n : ℕ) : toString (Int.negSucc n) = "-" ++ toString (n + 1) := rfl

theorem toString_ofNat (n : ℕ) : toString (Int.ofNat n) = toString n := rfl

theorem colon_notMem_signed (z : ℤ) : ':' ∉ (toString z).toList := by
  cases z with
  | ofNat n =>
    rw [toString_ofNat]
    exact colon_notMem_numeral n
  | negSucc n =>
    rw [toString_negSucc, String.toList_append, List.mem_append]
    rintro (h | h)
    · exact absurd h (by decide)
    · exact colon_notMem_numeral (n + 1) h

/-- Different integers have different numerals. -/
theorem signed_inj {y z : ℤ} (h : toString y = toString z) : y = z := by
  have hsign : ∀ m n : ℕ, toString (Int.ofNat m) ≠ toString (Int.negSucc n) := by
    intro m n he
    rw [toString_ofNat, toString_negSucc] at he
    have hmem : '-' ∈ (toString m).toList := by
      rw [he, String.toList_append]
      exact List.mem_append_left _ (by decide)
    exact absurd (isDigit_of_mem_toString hmem) (by decide)
  cases y with
  | ofNat m =>
    cases z with
    | ofNat n => exact congrArg Int.ofNat (numeral_inj h)
    | negSucc n => exact absurd h (hsign m n)
  | negSucc m =>
    cases z with
    | ofNat n => exact absurd h.symm (hsign n m)
    | negSucc n =>
      rw [toString_negSucc, toString_negSucc] at h
      have hsame : m + 1 = n + 1 := numeral_inj (append_left_cancel h)
      rw [Nat.succ_injective hsame]

end DayMend.Base

import SwiftConnections.Text

namespace SwiftConnections

namespace Text

theorem isDigit_of_mem_ofNat {n : Nat} {c : Char} (h : c ∈ ofNat n) : c.isDigit = true :=
  Nat.isDigit_of_mem_toDigits (by decide) (by decide) h

theorem toNat?_ofNat (n : Nat) : (ofNat n).toNat? = some n := by
  have hne : ofNat n ≠ [] := Nat.toDigits_ne_nil
  have hdigits : (ofNat n).all Char.isDigit = true := List.all_eq_true.mpr fun _ => isDigit_of_mem_ofNat
  have hvalue : (ofNat n).foldl (fun n c => 10 * n + (c.toNat - 48)) 0 = n := Nat.ofDigitChars_ten_toDigits
  simp [toNat?, hne, hdigits, hvalue]

theorem ofNat_inj {m n : Nat} : ofNat m = ofNat n ↔ m = n := by
  refine ⟨fun h => ?_, congrArg ofNat⟩
  have hread := congrArg toNat? h
  rw [toNat?_ofNat, toNat?_ofNat] at hread
  exact Option.some.inj hread

theorem takeWhile_isDigit_ofNat {n : Nat} {c : Char} {rest : Text} (hc : c.isDigit = false) :
    (ofNat n ++ c :: rest).takeWhile Char.isDigit = ofNat n := by
  rw [List.takeWhile_append_of_pos fun _ => isDigit_of_mem_ofNat, List.takeWhile_cons_of_neg (by simp [hc]),
    List.append_nil]

theorem dropWhile_isDigit_ofNat {n : Nat} {c : Char} {rest : Text} (hc : c.isDigit = false) :
    (ofNat n ++ c :: rest).dropWhile Char.isDigit = c :: rest := by
  rw [List.dropWhile_append_of_pos fun _ => isDigit_of_mem_ofNat, List.dropWhile_cons_of_neg (by simp [hc])]

end Text

end SwiftConnections

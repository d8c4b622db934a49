/-!
# Hexadecimal digits

The digits from `0` to `9` and the letters from `a` to `f` in either case. `hexDigit?_lt` bounds what
a digit stands for.
-/

namespace IssueSteward.Text

/-- The value of a hexadecimal digit. -/
def hexDigit? (c : Char) : Option Nat :=
  if '0' ≤ c ∧ c ≤ '9' then some (c.toNat - '0'.toNat)
  else if 'a' ≤ c ∧ c ≤ 'f' then some (c.toNat - 'a'.toNat + 10)
  else if 'A' ≤ c ∧ c ≤ 'F' then some (c.toNat - 'A'.toNat + 10)
  else none

/-- A hexadecimal digit stands for a number below sixteen. -/
theorem hexDigit?_lt {c : Char} {n : Nat} (h : hexDigit? c = some n) : n < 16 := by
  simp only [hexDigit?, Char.le_def, UInt32.le_iff_toNat_le, Char.toNat] at h
  split at h
  · rename_i hc
    cases h
    have h9 : ('9' : Char).val.toNat = 57 := rfl
    have h0 : ('0' : Char).val.toNat = 48 := rfl
    omega
  · split at h
    · rename_i hc
      cases h
      have hf : ('f' : Char).val.toNat = 102 := rfl
      have ha : ('a' : Char).val.toNat = 97 := rfl
      omega
    · split at h
      · rename_i hc
        cases h
        have hf : ('F' : Char).val.toNat = 70 := rfl
        have ha : ('A' : Char).val.toNat = 65 := rfl
        omega
      · cases h

end IssueSteward.Text

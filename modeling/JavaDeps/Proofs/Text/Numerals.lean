import Mathlib.Tactic.IntervalCases

/-!
# Decimal numerals

A number is written with the digits that stand for it and no others: **there is no zero in front of
them, unless it is the only one** (`head?_toDigits_ne_zero`). Readers that refuse such a zero thus
read every number that was written.
-/

namespace JavaDeps

theorem toList_toString_nat (n : Nat) : (toString n).toList = Nat.toDigits 10 n := by
  show n.repr.toList = _
  rw [Nat.repr, String.toList_ofList]

theorem isDigit_of_mem_toDigits {n : Nat} {c : Char} (h : c ∈ Nat.toDigits 10 n) :
    c.isDigit = true :=
  Nat.isDigit_of_mem_toDigits (by decide) (by decide) h

theorem digitChar_ne_zero {d : Nat} (hpos : 0 < d) (hd : d < 10) : Nat.digitChar d ≠ '0' := by
  interval_cases d <;> decide

/-- A written number has no zero in front, unless it is zero. -/
theorem head?_toDigits_ne_zero {n : Nat} (hn : 0 < n) : (Nat.toDigits 10 n).head? ≠ some '0' := by
  induction n using Nat.strongRecOn with
  | ind n ih =>
    by_cases hsmall : n < 10
    · rw [Nat.toDigits_of_lt_base hsmall, List.head?_cons]
      exact fun h ↦ digitChar_ne_zero hn hsmall (Option.some.inj h)
    · have hlarge : 10 ≤ n := Nat.le_of_not_lt hsmall
      have hhead := ih (n / 10) (Nat.div_lt_self hn (by decide)) (Nat.div_pos hlarge (by decide))
      obtain ⟨d, ds, hds⟩ :=
        List.exists_cons_of_ne_nil (Nat.toDigits_ne_nil (n := n / 10) (b := 10))
      rw [Nat.toDigits_of_base_le (by decide) hlarge, hds]
      rwa [hds] at hhead

/-- A written number of several digits starts with another digit than zero. -/
theorem length_toDigits_eq_one_or (n : Nat) :
    (Nat.toDigits 10 n).length = 1 ∨ (Nat.toDigits 10 n).head? ≠ some '0' := by
  rcases Nat.eq_zero_or_pos n with rfl | hpos
  · exact .inl rfl
  · exact .inr (head?_toDigits_ne_zero hpos)

end JavaDeps

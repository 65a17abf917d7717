import Mathlib.Data.Nat.Basic

/-!
A counter behind two registers: the part below a base, and the number of whole
bases. The counter runs on between the access to the one and that to the other.
-/

namespace Lan865x.SplitCounter

variable {base : Nat}

/-- How often the low part overflows while the counter advances by `steps`. -/
def carries (base low steps : Nat) : Nat := (low + steps) / base

theorem carries_spent (base low steps : Nat) :
    (low + steps) % base + carries base low steps * base = low + steps :=
  Nat.mod_add_div' _ _

theorem carries_below {low : Nat} (small : low < base) (steps : Nat) :
    carries base low steps ≤ steps / base + 1 := by
  have positive : 0 < base := by omega
  have step : low + steps ≤ steps + base := by omega
  calc carries base low steps ≤ (steps + base) / base := Nat.div_le_div_right step
    _ = steps / base + 1 := Nat.add_div_right _ positive

/-- The low part written first: the counter is behind by the carries that the
write of the high part undoes. -/
theorem late_store (base value steps : Nat) :
    value / base * base + (value % base + steps) % base +
      carries base (value % base) steps * base = value + steps := by
  have spent := carries_spent base (value % base) steps
  have whole := Nat.mod_add_div' value base
  omega

end Lan865x.SplitCounter

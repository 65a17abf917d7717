import Mathlib.Data.List.Basic

/-!
A register of sticky bits. A bit stays set while an event behind it is pending;
writing ones clears the bits written, and with them all events behind them.
-/

namespace Lan865x.StickyBits

structure Event where
  bit : Nat
  serial : Nat
  deriving DecidableEq

/-- What a read of the register returns. -/
def word (pending : List Event) : BitVec 32 :=
  pending.foldr (fun event value => BitVec.twoPow 32 event.bit ||| value) 0#32

theorem word_bit (pending : List Event) (i : Nat) (inside : i < 32) :
    (word pending).getLsbD i = pending.any fun event => event.bit == i := by
  induction pending with
  | nil => simp [word]
  | cons event rest ih =>
      have step : word (event :: rest) = BitVec.twoPow 32 event.bit ||| word rest := rfl
      rw [step, BitVec.getLsbD_or, ih, List.any_cons, BitVec.getLsbD_twoPow]
      by_cases same : event.bit = i
      · simp [same, inside]
      · simp [same]

theorem word_bit_of_mem (pending : List Event) (event : Event) (member : event ∈ pending)
    (inside : event.bit < 32) : (word pending).getLsbD event.bit = true := by
  rw [word_bit pending event.bit inside]
  exact List.any_eq_true.mpr ⟨event, member, by simp⟩

/-- The events that a write of `value` clears, and those it leaves. -/
def cleared (value : BitVec 32) (pending : List Event) : List Event :=
  pending.filter fun event => value.getLsbD event.bit

def left (value : BitVec 32) (pending : List Event) : List Event :=
  pending.filter fun event => !value.getLsbD event.bit

theorem cleared_iff (value : BitVec 32) (pending : List Event) (event : Event) :
    event ∈ cleared value pending ↔ event ∈ pending ∧ value.getLsbD event.bit = true :=
  List.mem_filter

theorem left_iff (value : BitVec 32) (pending : List Event) (event : Event) :
    event ∈ left value pending ↔ event ∈ pending ∧ value.getLsbD event.bit = false := by
  simp [left]

end Lan865x.StickyBits

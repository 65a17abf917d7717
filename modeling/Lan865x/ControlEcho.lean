import Lan865x.ControlDevice

/-!
How much of the echo of a control write is compared. The size of the command goes
through a `u8`, and the comparison is that size less four bytes.
-/

namespace Lan865x.OaTc6
open BitField Memory RegisterBus

/-- The bytes that `oa_tc6_check_ctrl_write_reply` compares. -/
def echoCount (length : Nat) : Nat := ctrlWriteReplyCount (toU8 (calculateCtrlBufSize length))

theorem echo_count (length : Nat) (positive : 0 < length) (short : length ≤ ctrlMaxRegisters) :
    echoCount length =
      if length = 62 ∨ length = 126 then 2 ^ 64 - 4 else (8 + 4 * length) % 256 - 4 := by
  rw [echoCount, ctrl_buf_size length short]
  rw [ctrlMaxRegisters] at short
  simp only [ctrlWriteReplyCount, toU8, ctrlIgnoredSize]
  split <;> omega

section Echo
variable {World : Type} (spi : Spi World) (address : BitVec 32) (value : Nat → BitVec 32)
  (length : Nat) (state : CtrlState World)

/-- The result of the transfer of a control write, and what it leaves. -/
def echoTransfer : Int × CtrlState World :=
  oaTc6SpiTransfer spi (8 + 4 * length)
    { state with txBuf := prepareCtrlSpiBuf state.txBuf address value length .write }

/-- The header and the values have come back. -/
def Echoed : Prop :=
  ∀ j < 4 + 4 * length, (echoTransfer spi address value length state).2.rxBuf (4 + j) =
    (echoTransfer spi address value length state).2.txBuf j

instance : Decidable (Echoed spi address value length state) :=
  inferInstanceAs (Decidable (∀ j < _, _))

/-- The comparison stays within the bytes transferred, and the result tells whether the
whole command was echoed. -/
def EchoChecked : Prop :=
  (∀ j < echoCount length, j < 8 + 4 * length ∧ ctrlIgnoredSize + j < 8 + 4 * length) ∧
    (oaTc6WriteRegisters spi address value length state).ret =
      if Echoed spi address value length state then 0 else -eproto

/-- The echo differs in its first `count` bytes. -/
def DiffersWithin (count : Nat) : Prop :=
  ∃ j < count, (echoTransfer spi address value length state).2.txBuf j ≠
    (echoTransfer spi address value length state).2.rxBuf (4 + j)

instance (count : Nat) : Decidable (DiffersWithin spi address value length state count) :=
  inferInstanceAs (Decidable (∃ j < count, _))

theorem write_registers_run (positive : 0 < length) (short : length ≤ ctrlMaxRegisters)
    (transferred : (echoTransfer spi address value length state).1 = 0) :
    oaTc6WriteRegisters spi address value length state =
      ⟨checkCtrlWriteReply (echoTransfer spi address value length state).2
        (toU8 (calculateCtrlBufSize length)), value,
        (echoTransfer spi address value length state).2⟩ := by
  have valid : ¬ (length = 0 ∨ length > ctrlMaxRegisters) := by omega
  rw [echoTransfer, ← ctrl_buf_size length short] at transferred
  rw [oaTc6WriteRegisters, if_neg valid, echoTransfer, ← ctrl_buf_size length short]
  exact if_neg (not_not_intro transferred)

theorem write_registers_ret (positive : 0 < length) (short : length ≤ ctrlMaxRegisters)
    (transferred : (echoTransfer spi address value length state).1 = 0) :
    ((oaTc6WriteRegisters spi address value length state).ret = -eproto ∧
        DiffersWithin spi address value length state (echoCount length)) ∨
      ((oaTc6WriteRegisters spi address value length state).ret = 0 ∧
        ¬ DiffersWithin spi address value length state (echoCount length)) := by
  rw [write_registers_run spi address value length state positive short transferred]
  by_cases differs : DiffersWithin spi address value length state (echoCount length)
  · left
    exact ⟨if_pos (decide_eq_true differs), differs⟩
  · right
    exact ⟨if_neg (fun found => differs (of_decide_eq_true found)), differs⟩

theorem echoed_iff :
    Echoed spi address value length state ↔
      ¬ DiffersWithin spi address value length state (4 + 4 * length) := by
  simp only [Echoed, DiffersWithin, not_exists, not_and, not_not]
  exact forall₂_congr fun j _ => eq_comm

theorem differs_not_echoed (count : Nat) (inside : count ≤ 4 + 4 * length)
    (differs : DiffersWithin spi address value length state count) :
    ¬ Echoed spi address value length state := by
  rw [echoed_iff, not_not]
  obtain ⟨j, below, apart⟩ := differs
  exact ⟨j, by omega, apart⟩

/-- Where not all of the command is compared, a difference has to lie in what is. -/
def EchoSeen : Prop :=
  length ≤ 61 ∨ (length ≠ 62 ∧ length ≠ 126 ∧
    (Echoed spi address value length state ∨
      DiffersWithin spi address value length state ((8 + 4 * length) % 256 - 4)))

theorem echo_checked_iff (positive : 0 < length) (short : length ≤ 128)
    (transferred : (echoTransfer spi address value length state).1 = 0) :
    EchoChecked spi address value length state ↔ EchoSeen spi address value length state := by
  have count := echo_count length positive short
  have returned := write_registers_ret spi address value length state positive short transferred
  by_cases wraps : length = 62 ∨ length = 126
  · rw [if_pos wraps] at count
    constructor
    · rintro ⟨inside, _⟩
      have beyond := inside (8 + 4 * length) (by omega)
      omega
    · rintro (low | ⟨first, second, _⟩)
      · omega
      · omega
  rw [if_neg wraps] at count
  obtain ⟨other62, other126⟩ := not_or.mp wraps
  have within : ∀ j < echoCount length,
      j < 8 + 4 * length ∧ ctrlIgnoredSize + j < 8 + 4 * length := by
    rw [count, ctrlIgnoredSize]
    omega
  rcases returned with ⟨error, differs⟩ | ⟨success, same⟩
  · have missing := differs_not_echoed spi address value length state _ (by omega) differs
    rw [count] at differs
    constructor
    · exact fun _ => Or.inr ⟨other62, other126, Or.inr differs⟩
    · exact fun _ => ⟨within, error.trans (if_neg missing).symm⟩
  · constructor
    · rintro ⟨_, result⟩
      have echoed : Echoed spi address value length state := by
        by_contra missing
        rw [success, if_neg missing] at result
        exact absurd result (by decide)
      exact Or.inr ⟨other62, other126, Or.inl echoed⟩
    · intro seen
      have echoed : Echoed spi address value length state := by
        rcases seen with low | ⟨_, _, echoed | differs⟩
        · have whole : echoCount length = 4 + 4 * length := by omega
          rw [whole] at same
          exact (echoed_iff spi address value length state).mpr same
        · exact echoed
        · rw [← count] at differs
          exact absurd differs same
      exact ⟨within, success.trans (if_pos echoed).symm⟩

end Echo

/-- A write of two registers to a device that echoes nothing but zeros. -/
theorem echo_checked_sample :
    EchoChecked (fun _ world => ((0, fun _ => 0), world)) 0x10022#32 (fun _ => 1#32) 2
      ⟨fun _ => 0, fun _ => 0, ()⟩ := by
  apply (echo_checked_iff _ _ _ _ _ (by decide) (by decide) rfl).mpr
  exact Or.inl (by decide)

/-- A header is never zero, so zeros are no echo. -/
theorem zeros_not_echoed (address : BitVec 32) (value : Nat → BitVec 32) (length : Nat)
    (state : CtrlState Unit) (positive : 0 < length) :
    ¬ Echoed (fun _ world => ((0, fun _ => 0), world)) address value length state := by
  intro echoed
  have zero : prepareCtrlHeader address length .write = 0#32 := by
    rw [← prepared_header state.txBuf address value length .write]
    calc be32At (prepareCtrlSpiBuf state.txBuf address value length .write) 0
        = be32At (fun _ => 0) 0 := by
          apply be32At_congr
          intro j small
          have back := echoed j (by omega)
          have received : 4 + j < 8 + 4 * length := by omega
          simp only [echoTransfer, oaTc6SpiTransfer, if_pos received] at back
          rw [Nat.zero_add]
          exact back.symm
      _ = 0#32 := by decide
  have write := ctrl_header_write address length .write
  rw [zero] at write
  exact absurd write (by decide)

/-- Of a write of 63 registers nothing is compared: 260 does not fit the `u8`. -/
theorem echo_checked_not :
    ¬ EchoChecked (fun _ world => ((0, fun _ => 0), world)) 0x10022#32 (fun _ => 1#32) 63
      ⟨fun _ => 0, fun _ => 0, ()⟩ := by
  rintro ⟨_, result⟩
  have missing := zeros_not_echoed 0x10022#32 (fun _ => 1#32) 63 ⟨fun _ => 0, fun _ => 0, ()⟩
    (by decide)
  rw [if_neg missing] at result
  rcases write_registers_ret (fun _ world => ((0, fun _ => 0), world)) 0x10022#32
    (fun _ => 1#32) 63 ⟨fun _ => 0, fun _ => 0, ()⟩ (by decide) (by decide) rfl with
    ⟨_, j, below, _⟩ | ⟨success, _⟩
  · have count := echo_count 63 (by decide) (by decide)
    have none : echoCount 63 = 0 := count
    omega
  · rw [success] at result
    exact absurd result (by decide)

end Lan865x.OaTc6

import Lan865x.RegisterBus
import Lan865x.Wire

/-!
The control commands of oa_tc6.c: the header, the two SPI buffers and the transfer
of a register read or write. The buffers are memories, so that a comparison past
their end has a meaning; the SPI is a parameter.
-/

namespace Lan865x.OaTc6
open BitField Memory

def einval : Int := 22
def eproto : Int := 71

def ctrlHeaderDataNotCtrl : Field := bit 31
def ctrlHeaderWriteNotRead : Field := bit 29
def ctrlHeaderMemMapSelector : Field := ⟨27, 24⟩
def ctrlHeaderAddr : Field := ⟨23, 8⟩
def ctrlHeaderLength : Field := ⟨7, 1⟩
def ctrlHeaderParity : Field := bit 0

def ctrlHeaderSize : Nat := 4
def ctrlRegValueSize : Nat := 4
def ctrlIgnoredSize : Nat := 4
def ctrlMaxRegisters : Nat := 128

inductive RegisterOp where
  | read
  | write
  deriving DecidableEq

def RegisterOp.code : RegisterOp → BitVec 32
  | .read => 0#32
  | .write => 1#32

/-- The word whose big-endian bytes `oa_tc6_prepare_ctrl_header` returns. -/
def prepareCtrlHeader (addr : BitVec 32) (length : Nat) (regOp : RegisterOp) : BitVec 32 :=
  let header := fieldPrep ctrlHeaderDataNotCtrl 0#32 |||
    fieldPrep ctrlHeaderWriteNotRead regOp.code |||
    fieldPrep ctrlHeaderMemMapSelector (addr >>> 16) |||
    fieldPrep ctrlHeaderAddr addr |||
    fieldPrep ctrlHeaderLength (BitVec.ofNat 32 length - 1#32)
  header ||| fieldPrep ctrlHeaderParity (getParity header)

/-- A transfer: its result, and the byte received for each byte sent. -/
abbrev Spi (World : Type) : Type := List UInt8 → StateM World (Int × (Nat → UInt8))

structure CtrlState (World : Type) where
  txBuf : Nat → UInt8
  rxBuf : Nat → UInt8
  world : World

section Perform
variable {World : Type} (spi : Spi World)

def updateCtrlWriteData (txBuf : Nat → UInt8) (value : Nat → BitVec 32) (length : Nat) :
    Nat → UInt8 :=
  putWords txBuf ctrlHeaderSize value length

def calculateCtrlBufSize (length : Nat) : Nat :=
  toU16 ((ctrlHeaderSize + ctrlRegValueSize * length + ctrlIgnoredSize : Nat) : Int)

def prepareCtrlSpiBuf (txBuf : Nat → UInt8) (address : BitVec 32) (value : Nat → BitVec 32)
    (length : Nat) (regOp : RegisterOp) : Nat → UInt8 :=
  let txBuf := putBe32 txBuf 0 (prepareCtrlHeader address length regOp)
  match regOp with
  | .read => txBuf
  | .write => updateCtrlWriteData txBuf value length

def oaTc6SpiTransfer (length : Nat) (state : CtrlState World) : Int × CtrlState World :=
  let after := spi (cellsAt state.txBuf 0 length) state.world
  (after.1.1, { state with
    rxBuf := fun j => if j < length then after.1.2 j else state.rxBuf j
    world := after.2 })

/-- Whether two memories differ in their first `count` bytes. -/
def memcmp (left right : Nat → UInt8) (count : Nat) : Bool :=
  decide (∃ j < count, left j ≠ right j)

/-- The third argument of `memcmp`: an `int` turned into a `size_t`. -/
def ctrlWriteReplyCount (size : Nat) : Nat :=
  (((size : Int) - ctrlIgnoredSize) % 2 ^ 64).toNat

def checkCtrlWriteReply (state : CtrlState World) (size : Nat) : Int :=
  let rxBuf := fun j => state.rxBuf (ctrlIgnoredSize + j)
  if memcmp state.txBuf rxBuf (ctrlWriteReplyCount size) then -eproto else 0

def checkCtrlReadReply (state : CtrlState World) : Int :=
  if be32At state.txBuf 0 ≠ be32At state.rxBuf ctrlIgnoredSize then -eproto else 0

def copyCtrlReadData (state : CtrlState World) (value : Nat → BitVec 32) (length : Nat) :
    Nat → BitVec 32 := fun i =>
  if i < length then be32At state.rxBuf (ctrlIgnoredSize + ctrlHeaderSize + 4 * i) else value i

/-- What a call leaves: its result, the caller's array, and the driver's state. -/
structure CtrlResult (World : Type) where
  ret : Int
  value : Nat → BitVec 32
  state : CtrlState World

def oaTc6PerformCtrl (address : BitVec 32) (value : Nat → BitVec 32) (length : Nat)
    (regOp : RegisterOp) (state : CtrlState World) : CtrlResult World :=
  let txBuf := prepareCtrlSpiBuf state.txBuf address value length regOp
  let size := calculateCtrlBufSize length
  let (ret, state) := oaTc6SpiTransfer spi size { state with txBuf := txBuf }
  if ret ≠ 0 then ⟨ret, value, state⟩
  else match regOp with
    | .write => ⟨checkCtrlWriteReply state (toU8 size), value, state⟩
    | .read =>
        let ret := checkCtrlReadReply state
        if ret ≠ 0 then ⟨ret, value, state⟩
        else ⟨0, copyCtrlReadData state value length, state⟩

def oaTc6ReadRegisters (address : BitVec 32) (value : Nat → BitVec 32) (length : Nat)
    (state : CtrlState World) : CtrlResult World :=
  if length = 0 ∨ length > ctrlMaxRegisters then ⟨-einval, value, state⟩
  else oaTc6PerformCtrl spi address value length .read state

def oaTc6WriteRegisters (address : BitVec 32) (value : Nat → BitVec 32) (length : Nat)
    (state : CtrlState World) : CtrlResult World :=
  if length = 0 ∨ length > ctrlMaxRegisters then ⟨-einval, value, state⟩
  else oaTc6PerformCtrl spi address value length .write state

def oaTc6ReadRegister (address : BitVec 32) (value : BitVec 32) (state : CtrlState World) :
    CtrlResult World :=
  oaTc6ReadRegisters spi address (fun _ => value) 1 state

def oaTc6WriteRegister (address : BitVec 32) (value : BitVec 32) (state : CtrlState World) :
    CtrlResult World :=
  oaTc6WriteRegisters spi address (fun _ => value) 1 state

end Perform

section Header
variable (addr : BitVec 32) (length : Nat) (regOp : RegisterOp)

theorem ctrl_header_control :
    flag ctrlHeaderDataNotCtrl (prepareCtrlHeader addr length regOp) = false := by
  simp (disch := decide) only [flag, prepareCtrlHeader, field_get_or, field_get_other,
    field_get_prep]
  decide

theorem ctrl_header_write :
    flag ctrlHeaderWriteNotRead (prepareCtrlHeader addr length regOp) = (regOp == .write) := by
  simp (disch := decide) only [flag, prepareCtrlHeader, field_get_or, field_get_other,
    field_get_prep]
  cases regOp <;> decide

theorem ctrl_header_increment : flag (bit 28) (prepareCtrlHeader addr length regOp) = false := by
  simp (disch := decide) only [flag, prepareCtrlHeader, field_get_or, field_get_other]
  decide

theorem ctrl_header_mms :
    number ctrlHeaderMemMapSelector (prepareCtrlHeader addr length regOp) =
      addr.toNat / 2 ^ 16 % 2 ^ 4 := by
  simp (disch := decide) only [number, prepareCtrlHeader, field_get_or, field_get_other,
    field_get_prep]
  simp [ctrlHeaderMemMapSelector, Field.width, Nat.shiftRight_eq_div_pow]
  omega

theorem ctrl_header_addr :
    number ctrlHeaderAddr (prepareCtrlHeader addr length regOp) = addr.toNat % 2 ^ 16 := by
  simp (disch := decide) only [number, prepareCtrlHeader, field_get_or, field_get_other,
    field_get_prep]
  simp [ctrlHeaderAddr, Field.width]
  omega

theorem ctrl_header_length (positive : 0 < length) (short : length ≤ ctrlMaxRegisters) :
    number ctrlHeaderLength (prepareCtrlHeader addr length regOp) = length - 1 := by
  have less : (BitVec.ofNat 32 length - 1#32).toNat = length - 1 := by
    rw [ctrlMaxRegisters] at short
    simp only [BitVec.toNat_sub, BitVec.toNat_ofNat]
    omega
  simp (disch := decide) only [number, prepareCtrlHeader, field_get_or, field_get_other,
    field_get_prep]
  rw [ctrlMaxRegisters] at short
  simp [ctrlHeaderLength, Field.width, less]
  omega

theorem ctrl_header_parity : parity (prepareCtrlHeader addr length regOp) = true := by
  apply parity_completed
  simp only [BitVec.getLsbD_or, field_prep_bit]
  simp [ctrlHeaderDataNotCtrl, ctrlHeaderWriteNotRead, ctrlHeaderMemMapSelector, ctrlHeaderAddr,
    ctrlHeaderLength, bit]

end Header

section Prepare
variable (txBuf : Nat → UInt8) (address : BitVec 32) (value : Nat → BitVec 32) (length : Nat)

theorem ctrl_buf_size (short : length ≤ ctrlMaxRegisters) :
    calculateCtrlBufSize length = 8 + 4 * length := by
  rw [ctrlMaxRegisters] at short
  simp only [calculateCtrlBufSize, toU16, ctrlHeaderSize, ctrlRegValueSize, ctrlIgnoredSize]
  omega

theorem prepared_header (regOp : RegisterOp) :
    be32At (prepareCtrlSpiBuf txBuf address value length regOp) 0 =
      prepareCtrlHeader address length regOp := by
  cases regOp with
  | read => exact be32At_put txBuf 0 _
  | write =>
      rw [← be32At_put txBuf 0 (prepareCtrlHeader address length .write)]
      apply be32At_congr
      intro j short
      apply put_words_outside
      rw [ctrlHeaderSize]
      omega

theorem prepared_value (i : Nat) (inside : i < length) :
    be32At (prepareCtrlSpiBuf txBuf address value length .write) (4 + 4 * i) = value i :=
  be32At_put_words _ ctrlHeaderSize value length i inside

end Prepare

end Lan865x.OaTc6

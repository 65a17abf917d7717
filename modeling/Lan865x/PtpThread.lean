import Mathlib.Data.List.Chain
import Mathlib.Logic.Function.Basic
import Lan865x.ReceivePath
import Lan865x.TransmitPath

/-!
Transmit timestamps: what `lan865x_send_packet` prepares and what a round of
`lan865x_ptp_thread_handler` does with STATUS0. The clones that wait for their
timestamp are numbered in the order in which they are made.
-/

namespace Lan865x.OaTc6

def timestampIdNone : Nat := 0
def timestampIdGptp : Nat := 1
def timestampIdNormal : Nat := 2
def timestampIdReserved : Nat := 3

/-- `TS_A_MASK`, `TS_B_MASK` and `TS_C_MASK`, by timestamp id. -/
def stampBit (id : Nat) : Nat := 7 + id

theorem stamp_bit_inj {id other : Nat} (same : stampBit id = stampBit other) : id = other :=
  Nat.add_left_cancel same

/-- What one round of the PTP thread does after it has read STATUS0: both halves
of a timestamp are read, the timestamp is reported, and the word is written back. -/
inductive PtpStep where
  | high (id : Nat)
  | low (id : Nat)
  | report (id : Nat)
  | writeBack
  deriving DecidableEq

def PtpStep.isHalf : PtpStep → Bool
  | .high _ | .low _ => true
  | _ => false

def ifStamp (status : BitVec 32) (id : Nat) (steps : List PtpStep) : List PtpStep :=
  if status.getLsbD (stampBit id) then steps else []

def ptpRound (status : BitVec 32) : List PtpStep :=
  ifStamp status timestampIdGptp
      [.high timestampIdGptp, .low timestampIdGptp, .report timestampIdGptp] ++
    ifStamp status timestampIdNormal
      [.high timestampIdNormal, .low timestampIdNormal, .report timestampIdNormal] ++
    ifStamp status timestampIdReserved [.high timestampIdReserved, .low timestampIdReserved] ++
    if status.getLsbD (stampBit timestampIdGptp) || status.getLsbD (stampBit timestampIdNormal) ||
      status.getLsbD (stampBit timestampIdReserved) then [.writeBack] else []

theorem round_last (status : BitVec 32) (done todo : List PtpStep)
    (split : ptpRound status = done ++ .writeBack :: todo) : todo = [] := by
  have once : ∀ access ∈ (ptpRound status).dropLast, access ≠ .writeBack := by
    -- There are eight rounds, one for each set of the three status bits.
    unfold ptpRound ifStamp
    cases status.getLsbD (stampBit timestampIdGptp) <;>
      cases status.getLsbD (stampBit timestampIdNormal) <;>
      cases status.getLsbD (stampBit timestampIdReserved) <;> simp
  by_contra more
  refine once .writeBack ?_ rfl
  rw [split, List.dropLast_append_of_ne_nil (by simp), List.dropLast_cons_of_ne_nil more]
  simp

/-- A round that reports anything still has its write ahead. -/
theorem round_write_ahead (status : BitVec 32) (done todo : List PtpStep) (id : Nat)
    (split : ptpRound status = done ++ .report id :: todo) : .writeBack ∈ todo := by
  have writes : .report id ∈ ptpRound status → .writeBack ∈ ptpRound status := by
    unfold ptpRound ifStamp
    cases status.getLsbD (stampBit timestampIdGptp) <;>
      cases status.getLsbD (stampBit timestampIdNormal) <;>
      cases status.getLsbD (stampBit timestampIdReserved) <;> simp
  have member := writes (by rw [split]; simp)
  rw [split] at member
  rcases List.mem_append.mp member with earlier | later
  · obtain ⟨front, back, apart⟩ := List.append_of_mem earlier
    have ended := round_last status front (back ++ .report id :: todo) (by rw [split, apart]; simp)
    exact absurd ended (by simp)
  · simpa using later

/-- What can come after a step of a round. -/
def PtpStep.precedes : PtpStep → PtpStep → Bool
  | .high id, next => next == .low id
  | .low id, next => next == .report id || next == .writeBack
  | .report _, .high _ => true
  | .report _, next => next == .writeBack
  | .writeBack, _ => false

/-- What is left of a round, from any point of it on. -/
structure RoundLeft (status : BitVec 32) (todo : List PtpStep) : Prop where
  chain : todo.IsChain fun step next => step.precedes next = true
  once : todo.Nodup
  ends : todo = [] ∨ .writeBack ∈ todo
  found : ∀ id, .report id ∈ todo → (id = timestampIdGptp ∨ id = timestampIdNormal) ∧
    status.getLsbD (stampBit id) = true

theorem round_left (status : BitVec 32) : RoundLeft status (ptpRound status) := by
  cases gptp : status.getLsbD (stampBit timestampIdGptp) <;>
    cases normal : status.getLsbD (stampBit timestampIdNormal) <;>
    cases reserved : status.getLsbD (stampBit timestampIdReserved) <;>
    refine ⟨?_, ?_, ?_, ?_⟩ <;>
    simp [ptpRound, ifStamp, gptp, normal, reserved, PtpStep.precedes, timestampIdGptp,
      timestampIdNormal, timestampIdReserved] at *

theorem RoundLeft.goes {status : BitVec 32} {step next : PtpStep} {todo : List PtpStep}
    (left : RoundLeft status (step :: next :: todo)) : step.precedes next = true :=
  (List.isChain_cons_cons.mp left.chain).1

theorem RoundLeft.tail {status : BitVec 32} {step : PtpStep} {todo : List PtpStep}
    (left : RoundLeft status (step :: todo)) : RoundLeft status todo := by
  refine ⟨left.chain.tail, left.once.of_cons, ?_, fun id member =>
    left.found id (List.mem_cons_of_mem _ member)⟩
  cases todo with
  | nil => exact Or.inl rfl
  | cons next rest =>
      have goes := left.goes
      refine Or.inr ((List.mem_cons.mp (left.ends.resolve_left (by simp))).resolve_left ?_)
      rintro rfl
      exact absurd goes (by simp [PtpStep.precedes])

def hwtstampTxOn : Nat := 1
def ethP8021ad : Nat := 0x88A8

/-- A clone made by `lan865x_send_packet`: of which skb, and its references. -/
structure Clone where
  of : Nat
  refs : Nat
  deriving DecidableEq

inductive CloneFault where
  | nullSkb
  | freedSkb (clone : Nat)
  deriving DecidableEq

/-- `waiting_txts_skb` of `struct lan865x_priv`, and all clones made so far. -/
structure Lan865xPriv where
  waitingTxtsSkb : Nat → Option Nat
  clones : List Clone
  faults : List CloneFault

def initPriv : Lan865xPriv := ⟨fun _ => none, [], []⟩

def skbClone (priv : Lan865xPriv) (of : Nat) : Nat × Lan865xPriv :=
  (priv.clones.length, { priv with clones := priv.clones ++ [⟨of, 1⟩] })

def skbGet (priv : Lan865xPriv) (clone : Nat) : Lan865xPriv :=
  { priv with clones := priv.clones.modify clone fun c => { c with refs := c.refs + 1 } }

/-- What is wrong with an skb that is passed on. -/
def passFaults (priv : Lan865xPriv) : Option Nat → List CloneFault
  | none => [.nullSkb]
  | some clone => match priv.clones[clone]? with
      | some ⟨_, _ + 1⟩ => []
      | _ => [.freedSkb clone]

def kfreeSkb (priv : Lan865xPriv) (skb : Option Nat) : Lan865xPriv :=
  { priv with
    clones := match skb with
      | none => priv.clones
      | some clone => priv.clones.modify clone fun c => { c with refs := c.refs - 1 }
    faults := priv.faults ++ passFaults priv skb }

def skbTstampTx (priv : Lan865xPriv) (skb : Option Nat) : Lan865xPriv :=
  { priv with faults := priv.faults ++ passFaults priv skb }

/-- One call of `lan865x_send_packet`: the skb and whether it asks for a hardware
timestamp, the configured `tx_type`, whether `skb_clone` succeeds, and what the
uninitialised `ts_capture_mode` holds. -/
structure SendCall where
  skb : Skb
  hwTstamp : Bool
  txType : Nat
  cloned : Bool
  stack : Nat

def isGptpPacket (skb : Skb) : Bool :=
  let data := fun i => skb.data.getD i 0
  let proto := be16At data 12
  if proto = ethP8021q ∨ proto = ethP8021ad then be16At data (ethHlen + 2) = ethP1588
  else proto = ethP1588

/-- The new clone is kept for its timestamp, with one more reference. -/
def keepClone (priv : Lan865xPriv) (id clone : Nat) : Lan865xPriv :=
  let priv := skbGet priv clone
  { priv with waitingTxtsSkb := Function.update priv.waitingTxtsSkb id (some clone) }

/-- The capture mode that `oa_tc6_start_xmit` is called with; none where the call
returns -EAGAIN before. -/
def lan865xSendPacket (priv : Lan865xPriv) (call : SendCall) : Option Nat × Lan865xPriv :=
  if call.hwTstamp then
    if call.cloned then
      let (clonedSkb, priv) := skbClone priv call.skb.id
      if call.txType ≠ hwtstampTxOn then (some timestampIdNone, kfreeSkb priv (some clonedSkb))
      -- The slot is written before the frame is accepted, and over what it held.
      else if isGptpPacket call.skb then
        (some timestampIdGptp, keepClone priv timestampIdGptp clonedSkb)
      else (some timestampIdNormal, keepClone priv timestampIdNormal clonedSkb)
    else (none, priv)
  else (some call.stack, priv)

/-- `skb_tstamp_tx` and `kfree_skb` on the slot of a timestamp id. -/
def ptpReport (priv : Lan865xPriv) (id : Nat) : Lan865xPriv :=
  -- The slot keeps its pointer to the skb that is freed.
  kfreeSkb (skbTstampTx priv (priv.waitingTxtsSkb id)) (priv.waitingTxtsSkb id)

theorem modify_last (clones : List Clone) (last : Clone) (f : Clone → Clone) :
    (clones ++ [last]).modify clones.length f = clones ++ [f last] := by
  induction clones with
  | nil => rfl
  | cons head rest ih => simpa using ih

/-- A new clone is freed again at once. -/
theorem clone_freed (priv : Lan865xPriv) (of : Nat) :
    kfreeSkb (skbClone priv of).2 (some (skbClone priv of).1) =
      { priv with clones := priv.clones ++ [⟨of, 0⟩] } := by
  simp [skbClone, kfreeSkb, passFaults, modify_last]

/-- A clone that is kept has two references. -/
theorem clone_kept (priv : Lan865xPriv) (of id : Nat) :
    keepClone (skbClone priv of).2 id (skbClone priv of).1 =
      { priv with
        waitingTxtsSkb := Function.update priv.waitingTxtsSkb id (some priv.clones.length)
        clones := priv.clones ++ [⟨of, 2⟩] } := by
  simp [skbClone, keepClone, skbGet, modify_last]

/-- The skb whose clone waits in a slot. -/
def Lan865xPriv.waitsFor (priv : Lan865xPriv) (id : Nat) : Option Nat :=
  (priv.waitingTxtsSkb id).bind fun clone => priv.clones[clone]?.map Clone.of

theorem kept_waits_for (priv : Lan865xPriv) (of id : Nat) :
    (keepClone (skbClone priv of).2 id (skbClone priv of).1).waitsFor id = some of := by
  simp [clone_kept, Lan865xPriv.waitsFor]

theorem kept_waits_for_other (priv : Lan865xPriv) (of id other frame : Nat) (apart : other ≠ id)
    (waits : priv.waitsFor other = some frame) :
    (keepClone (skbClone priv of).2 id (skbClone priv of).1).waitsFor other = some frame := by
  obtain ⟨clone, slot, found⟩ := Option.bind_eq_some_iff.mp waits
  obtain ⟨entry, here, same⟩ := Option.map_eq_some_iff.mp found
  obtain ⟨inside, _⟩ := List.getElem?_eq_some_iff.mp here
  simp [clone_kept, Lan865xPriv.waitsFor, Function.update_of_ne apart, slot,
    List.getElem?_append_left inside, here, same]

/-- A report changes references only. -/
theorem report_waits_for (priv : Lan865xPriv) (id : Nat) :
    (ptpReport priv id).waitsFor = priv.waitsFor := by
  funext other
  cases slot : priv.waitingTxtsSkb id with
  | none => simp [ptpReport, kfreeSkb, skbTstampTx, Lan865xPriv.waitsFor, slot]
  | some clone =>
      have same : ∀ held : Nat,
          (priv.clones.modify clone fun c => { c with refs := c.refs - 1 })[held]?.map Clone.of =
            priv.clones[held]?.map Clone.of := by
        intro held
        rw [List.getElem?_modify, Option.map_eq_map, Option.map_map]
        congr 1
        funext entry
        by_cases here : clone = held <;> simp [here]
      simp only [ptpReport, kfreeSkb, skbTstampTx, slot, Lan865xPriv.waitsFor, same]

section Samples

/-- A gPTP frame that asks for a timestamp. -/
def gptpCall (id : Nat) : SendCall where
  skb := ⟨id, List.replicate 12 0 ++ [0x88, 0xF7] ++ List.replicate 46 0, by decide, by decide⟩
  hwTstamp := true
  txType := hwtstampTxOn
  cloned := true
  stack := 0

end Samples

end Lan865x.OaTc6

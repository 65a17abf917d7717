import Lan865x.SpiThread

/-!
The books of the receive side, whatever chunks and footers the MAC-PHY sends: what becomes
of every skb that was allocated, and what the counters of `netdev->stats` say about it.
BUFFER_STATUS is any; above 48 chunks the transfer buffers are taken as unbounded.
-/

namespace Lan865x.OaTc6
open BitField Memory Transition

/-- What `rx_skb->len` is when it is counted, behind `eth_type_trans`. -/
def RxSkb.counted (skb : RxSkb) : Nat :=
  if ethHlen ≤ skb.data.length then skb.data.length - ethHlen else skb.data.length

def RxFault.overwritten : RxFault → Option Nat
  | .overwrite addr => some addr
  | _ => none

/-- An skb that was allocated has been submitted or freed, is the current one, or was
overwritten: then nothing holds it any more. -/
structure RxBooked (rx : RxState) : Prop where
  ledger : rx.allocated.Perm (rx.submitted.map RxSkb.addr ++ rx.freed ++
    (rx.rxSkb.map RxSkb.addr).toList ++ rx.faults.filterMap RxFault.overwritten)
  packets : rx.rxPackets = rx.submitted.length
  bytes : rx.rxBytes = (rx.submitted.map RxSkb.counted).sum
  dropped : rx.rxDropped = rx.freed.length + rx.refused.length

/-- Nothing that the books are about. -/
structure SameRxBooks (before after : RxState) : Prop where
  skb : after.rxSkb.map RxSkb.addr = before.rxSkb.map RxSkb.addr
  allocated : after.allocated = before.allocated
  submitted : after.submitted = before.submitted
  freed : after.freed = before.freed
  refused : after.refused = before.refused
  faults : after.faults.filterMap RxFault.overwritten =
    before.faults.filterMap RxFault.overwritten
  packets : after.rxPackets = before.rxPackets
  bytes : after.rxBytes = before.rxBytes
  dropped : after.rxDropped = before.rxDropped

/-- What the functions of the receive path are made of. -/
inductive RxOps : RxState → RxState → Prop where
  | same {before after} (same : SameRxBooks before after) : RxOps before after
  | submit (rx : RxState) (skb : RxSkb) (held : rx.rxSkb = some skb) : RxOps rx (submitRxSkb rx)
  | begin (rx : RxState) (payload size : Nat) (io : ChunkIo) :
      RxOps rx (beginRxFrame rx payload size io).2
  | cleanup (rx : RxState) : RxOps rx (cleanupOngoingRxSkb rx)
  | trans {first second third} : RxOps first second → RxOps second third → RxOps first third

theorem RxOps.refl (rx : RxState) : RxOps rx rx :=
  .same ⟨rfl, rfl, rfl, rfl, rfl, rfl, rfl, rfl, rfl⟩

theorem overrun_overwritten (skb : RxSkb) (total : Nat) :
    (overrunFaults skb total).filterMap RxFault.overwritten = [] := by
  unfold overrunFaults
  split <;> rfl

theorem overwrite_overwritten (rx : RxState) :
    (overwriteFaults rx).filterMap RxFault.overwritten = (rx.rxSkb.map RxSkb.addr).toList := by
  cases held : rx.rxSkb <;> simp [overwriteFaults, held, RxFault.overwritten]

section Operations
variable (rx : RxState)

theorem booked_same_rx {before after : RxState} (booked : RxBooked before)
    (same : SameRxBooks before after) : RxBooked after := by
  obtain ⟨ledger, packets, bytes, dropped⟩ := booked
  constructor
  · rw [same.allocated, same.submitted, same.freed, same.skb, same.faults]
    exact ledger
  · rw [same.packets, same.submitted]
    exact packets
  · rw [same.bytes, same.submitted]
    exact bytes
  · rw [same.dropped, same.freed, same.refused]
    exact dropped

theorem booked_submit (booked : RxBooked rx) (skb : RxSkb) (held : rx.rxSkb = some skb) :
    RxBooked (submitRxSkb rx) := by
  obtain ⟨ledger, packets, bytes, dropped⟩ := booked
  rw [submit_some rx skb held]
  constructor
  · -- The skb moves from the current one to those submitted.
    have moves : (rx.submitted.map RxSkb.addr ++ rx.freed ++ [skb.addr] ++
        rx.faults.filterMap RxFault.overwritten).Perm
        (rx.submitted.map RxSkb.addr ++ [skb.addr] ++ rx.freed ++ [] ++
          rx.faults.filterMap RxFault.overwritten) := by
      rw [List.append_nil]
      apply List.Perm.append_right
      rw [List.append_assoc, List.append_assoc]
      exact List.perm_append_comm.append_left _
    rw [held] at ledger
    simpa using ledger.trans moves
  · simp [packets]
  · simp [bytes, RxSkb.counted]
  · exact dropped

theorem booked_begin (booked : RxBooked rx) (payload size : Nat) (io : ChunkIo) :
    RxBooked (beginRxFrame rx payload size io).2 := by
  obtain ⟨ledger, packets, bytes, dropped⟩ := booked
  cases granted : io.alloc with
  | true =>
      rw [begin_granted rx payload size io granted]
      refine ⟨?_, packets, bytes, dropped⟩
      -- What was current is overwritten, and the new skb is current.
      simp only [List.filterMap_append, overwrite_overwritten, overrun_overwritten,
        List.append_nil, Option.map_some, Option.toList_some]
      have shuffle : ∀ base current gone : List Nat,
          (base ++ current ++ gone ++ [io.addr]).Perm (base ++ [io.addr] ++ (gone ++ current)) := by
        intro base current gone
        rw [List.append_assoc, List.append_assoc, List.append_assoc]
        apply List.Perm.append_left
        rw [← List.append_assoc]
        exact (List.perm_append_comm.append_right _).trans List.perm_append_comm
      exact (ledger.append_right [io.addr]).trans (shuffle _ _ _)
  | false =>
      rw [begin_refused rx payload size io granted]
      refine ⟨?_, packets, bytes, ?_⟩
      · simp only [List.filterMap_append, overwrite_overwritten, Option.map_none,
          Option.toList_none, List.append_nil]
        rw [List.append_assoc] at ledger
        exact ledger.trans (List.perm_append_comm.append_left _)
      · simp [dropped]
        omega

theorem booked_cleanup (booked : RxBooked rx) : RxBooked (cleanupOngoingRxSkb rx) := by
  cases held : rx.rxSkb with
  | none => simpa [cleanupOngoingRxSkb, held] using booked
  | some skb =>
      obtain ⟨ledger, packets, bytes, dropped⟩ := booked
      simp only [cleanupOngoingRxSkb, held]
      refine ⟨?_, packets, bytes, ?_⟩
      · rw [held] at ledger
        simpa using ledger
      · simp [dropped]
        omega

theorem booked_ops {before after : RxState} (ops : RxOps before after) (booked : RxBooked before) :
    RxBooked after := by
  induction ops with
  | same same => exact booked_same_rx booked same
  | submit rx skb held => exact booked_submit rx booked skb held
  | begin rx payload size io => exact booked_begin rx booked payload size io
  | cleanup rx => exact booked_cleanup rx booked
  | trans _ _ first second => exact second (first booked)

/-! The functions, from the innermost on. -/

theorem update_ops (payload length : Nat) : RxOps rx (updateRxSkb rx payload length) := by
  apply RxOps.same
  cases held : rx.rxSkb with
  | none =>
      simp only [updateRxSkb, held]
      exact ⟨by rw [held], rfl, rfl, rfl, rfl, by simp [RxFault.overwritten], rfl, rfl, rfl⟩
  | some skb =>
      rw [update_some rx skb payload length held]
      exact ⟨by rw [held]; rfl, rfl, rfl, rfl, rfl, by simp [overrun_overwritten], rfl, rfl, rfl⟩

theorem submit_ops : RxOps rx (submitRxSkb rx) := by
  cases held : rx.rxSkb with
  | some skb => exact .submit rx skb held
  | none =>
      apply RxOps.same
      simp only [submitRxSkb, held]
      exact ⟨by rw [held], rfl, rfl, rfl, rfl, by simp [RxFault.overwritten], rfl, rfl, rfl⟩

theorem frame_end_ops (payload size : Nat) : RxOps rx (prcsRxFrameEnd rx payload size) :=
  (update_ops rx payload _).trans (submit_ops _)

theorem branch_ops (data : Nat) (footer : BitVec 32) (io : ChunkIo) (branch : RxBranch) :
    RxOps rx (branchPayload rx data footer io branch).2 := by
  cases branch with
  | complete =>
      simp only [branchPayload, prcsCompleteRxFrame]
      split
      · exact .begin rx _ _ io
      · exact (RxOps.begin rx _ _ io).trans (submit_ops _)
  | start => exact .begin rx _ _ io
  | finish => exact frame_end_ops rx data _
  | turn =>
      simp only [branchPayload, prcsRxFrameStart]
      split
      · exact (frame_end_ops rx data _).trans (.begin _ _ _ io)
      · exact .begin rx _ _ io
  | ongoing => exact update_ops rx data _

theorem payload_ops (data : Nat) (footer : BitVec 32) (io : ChunkIo) :
    RxOps rx (prcsRxChunkPayload rx data footer io).2 := by
  by_cases live : rx.rxBufOverflow = false ∨ flag dataFooterStartValid footer = true
  · rw [payload_branches rx data footer io live]
    have woken : RxOps rx (awake rx) := .same ⟨rfl, rfl, rfl, rfl, rfl, rfl, rfl, rfl, rfl⟩
    exact woken.trans (branch_ops _ data footer io _)
  · obtain ⟨recovering, inside⟩ := not_or.mp live
    rw [payload_skips rx data footer io (by simpa using recovering) (by simpa using inside)]
    exact RxOps.refl rx

theorem extended_status_ops (io : ChunkIo) : RxOps rx (processExtendedStatus rx io).2 := by
  have flagged : RxOps rx { rx with rxBufOverflow := true } :=
    .same ⟨rfl, rfl, rfl, rfl, rfl, rfl, rfl, rfl, rfl⟩
  unfold processExtendedStatus
  repeat' split
  all_goals first
    | exact RxOps.refl rx
    | exact flagged.trans (.cleanup _)

theorem footer_ops (footer : BitVec 32) (io : ChunkIo) :
    RxOps rx (processRxChunkFooter rx footer io).2 := by
  have credited : RxOps rx (footerCredits rx footer) :=
    .same ⟨rfl, rfl, rfl, rfl, rfl, rfl, rfl, rfl, rfl⟩
  apply credited.trans
  simp only [processRxChunkFooter, footerCredits]
  repeat' split
  all_goals first
    | exact RxOps.refl _
    | exact extended_status_ops _ io

theorem chunk_ops (i : Nat) (io : ChunkIo) : RxOps rx (processRxChunk rx i io).2 := by
  simp only [processRxChunk]
  repeat' split
  · exact footer_ops rx _ io
  · exact (footer_ops rx _ io).trans (payload_ops _ _ _ io)
  · exact footer_ops rx _ io

theorem chunks_ops (io : Nat → ChunkIo) (i left : Nat) :
    RxOps rx (processRxChunks rx io i left).2 := by
  induction left generalizing rx i with
  | zero => exact RxOps.refl rx
  | succ left ih =>
      simp only [processRxChunks]
      split
      · exact chunk_ops rx i (io i)
      · exact (chunk_ops rx i (io i)).trans (ih _ (i + 1))

end Operations

theorem moves_ops (d after : Driver) (act : DriverAct) (moved : d.Moves act after) :
    RxOps d.tc6.rx after.tc6.rx := by
  cases moved with
  | processFine len pc io rx out | processAgain len pc io rx out =>
      have ops := chunks_ops d.tc6.rx io 0 (len / chunkSize)
      rw [processSpiDataRxBuf] at out
      rw [out] at ops
      exact ops
  | processFails len pc io rx ret fails out =>
      have ops := chunks_ops d.tc6.rx io 0 (len / chunkSize)
      rw [processSpiDataRxBuf] at out
      rw [out] at ops
      exact ops.trans (.cleanup rx)
  | exchange => exact .same ⟨rfl, rfl, rfl, rfl, rfl, rfl, rfl, rfl, rfl⟩
  | _ => exact RxOps.refl _

/-- Whatever the MAC-PHY sends, each skb that was allocated is in one place only, and lost
exactly if it was overwritten; the three counters are those of what was done. -/
theorem receive_accounts {d : Driver} (reached : Reaches (driverMachine 255) anyStep d) :
    d.tc6.rx.allocated.Perm (d.tc6.rx.submitted.map RxSkb.addr ++ d.tc6.rx.freed ++
        (d.tc6.rx.rxSkb.map RxSkb.addr).toList ++
        d.tc6.rx.faults.filterMap RxFault.overwritten) ∧
      d.tc6.rx.rxPackets = d.tc6.rx.submitted.length ∧
      d.tc6.rx.rxBytes = (d.tc6.rx.submitted.map RxSkb.counted).sum ∧
      d.tc6.rx.rxDropped = d.tc6.rx.freed.length + d.tc6.rx.refused.length := by
  have booked : RxBooked d.tc6.rx := by
    refine reached.invariant (fun d => RxBooked d.tc6.rx) ?_ ?_
    · rintro d ⟨bufferStatus, mtu, rxFilter, rxBuffer, txBuffer, _, _, rfl⟩
      exact ⟨List.Perm.refl _, rfl, rfl, rfl⟩
    · intro before act after booked _ stepped
      exact booked_ops (moves_ops before after act (driver_moves before after act stepped)) booked
  exact ⟨booked.ledger, booked.packets, booked.bytes, booked.dropped⟩

section Samples

/-- Two chunks start a frame, one behind the other. -/
def startedTwice : Driver :=
  (driverMachine 255).after (sampleStart 0x2#32) (.interrupt :: List.replicate 6 .spi ++
    [.exchange [answer 0x20300000#32, answer 0x20300000#32],
      .process fun i => { (default : ChunkIo) with addr := i }])

theorem receive_accounts_sample :
    startedTwice.tc6.rx.allocated.Perm (startedTwice.tc6.rx.submitted.map RxSkb.addr ++
        startedTwice.tc6.rx.freed ++ (startedTwice.tc6.rx.rxSkb.map RxSkb.addr).toList ++
        startedTwice.tc6.rx.faults.filterMap RxFault.overwritten) ∧
      startedTwice.tc6.rx.rxPackets = startedTwice.tc6.rx.submitted.length ∧
      startedTwice.tc6.rx.rxBytes = (startedTwice.tc6.rx.submitted.map RxSkb.counted).sum ∧
      startedTwice.tc6.rx.rxDropped =
        startedTwice.tc6.rx.freed.length + startedTwice.tc6.rx.refused.length :=
  receive_accounts (reaches_after (sample_start _ _ (by decide) (by decide)) _ (allowed_any _ _ _))

/-- The skb of the first is lost. -/
example : startedTwice.tc6.rx.allocated = [0, 1] ∧
    startedTwice.tc6.rx.faults.filterMap RxFault.overwritten = [0] := by
  decide +kernel

end Samples

end Lan865x.OaTc6

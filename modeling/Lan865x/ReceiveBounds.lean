import Lan865x.Reassembly
import Lan865x.ReceiveRun

/-!
Bounds of the copies that footers ask for. Each branch of
`oa_tc6_prcs_rx_chunk_payload` computes a length from two footer fields and
subtracts the 8 bytes of the timestamp or the 4 bytes of the FCS; no check
stands between the footer and `memcpy`.
-/

namespace Lan865x.OaTc6
open Transition

/-- The copies that a call makes. -/
def PayloadCall.copies (call : PayloadCall) : List RxCopy :=
  (prcsRxChunkPayload call.rx (call.slot * chunkSize) call.footer call.io).2.copies.drop
    call.rx.copies.length

/-- The copy reads the chunk's own payload, and the skb has room for all it got. -/
structure RxCopy.Inside (slot : Nat) (copy : RxCopy) : Prop where
  above : slot * chunkSize ≤ copy.payload
  below : copy.payload + copy.length ≤ slot * chunkSize + chunkPayloadSize
  roomy : copy.total ≤ copy.room

/-- The timestamp lies in the chunk that starts the frame. -/
def StampInside (footer : BitVec 32) (io : ChunkIo) : Prop :=
  io.alloc = true → startOffset footer + sizeofTimestampFormat ≤ chunkPayloadSize

/-- The FCS lies in the chunk that ends the frame, and the frame fits. -/
def EndFits (rx : RxState) (footer : BitVec 32) : Prop :=
  ∀ skb, rx.rxSkb = some skb →
    4 ≤ endOffset footer + 1 ∧ skb.data.length + (endOffset footer + 1 - 4) ≤ skb.room

def BranchFits (rx : RxState) (footer : BitVec 32) (io : ChunkIo) : RxBranch → Prop
  | .complete => io.alloc = true →
      startOffset footer + sizeofTimestampFormat ≤ endOffset footer + 1
  | .start => StampInside footer io
  | .finish => EndFits rx footer
  | .turn => EndFits rx footer ∧ StampInside footer io
  | .ongoing => ∀ skb, rx.rxSkb = some skb → skb.data.length + chunkPayloadSize ≤ skb.room

/-- The footer asks for nothing out of bounds in the state before the call. -/
def PayloadCall.Admissible (call : PayloadCall) : Prop :=
  (call.rx.rxBufOverflow = true ∧ flag dataFooterStartValid call.footer = false) ∨
    BranchFits call.rx call.footer call.io (rxBranch call.footer)

theorem update_copies (rx : RxState) (skb : RxSkb) (payload length : Nat)
    (held : rx.rxSkb = some skb) :
    (updateRxSkb rx payload length).copies =
      rx.copies ++ [⟨payload, length, skb.data.length + length, skb.room⟩] := by
  rw [update_some rx skb payload length held]

theorem begin_copies (rx : RxState) (payload size : Nat) (io : ChunkIo) :
    (beginRxFrame rx payload size io).2.copies = rx.copies ++
      if io.alloc then [⟨payload + sizeofTimestampFormat,
        toU8 ((size : Int) - sizeofTimestampFormat), toU8 ((size : Int) - sizeofTimestampFormat),
        rx.mtu + ethHlen + ethFcsLen⟩] else [] := by
  cases granted : io.alloc with
  | false => simp [begin_refused rx payload size io granted]
  | true => simp [begin_granted rx payload size io granted, newRxSkb]

theorem submit_copies (rx : RxState) : (submitRxSkb rx).copies = rx.copies := by
  unfold submitRxSkb
  split <;> rfl

theorem complete_copies (rx : RxState) (payload size : Nat) (io : ChunkIo) :
    (prcsCompleteRxFrame rx payload size io).2.copies =
      (beginRxFrame rx payload size io).2.copies := by
  simp only [prcsCompleteRxFrame]
  split
  · rfl
  · exact submit_copies _

theorem frame_end_copies (rx : RxState) (payload size : Nat) :
    (prcsRxFrameEnd rx payload size).copies = rx.copies ++
      match rx.rxSkb with
      | none => []
      | some skb => [⟨payload, toU8 ((size : Int) - 4),
          skb.data.length + toU8 ((size : Int) - 4), skb.room⟩] := by
  cases held : rx.rxSkb with
  | none => simp [prcsRxFrameEnd, submit_copies, updateRxSkb, held]
  | some skb => rw [prcsRxFrameEnd, submit_copies, update_copies rx skb _ _ held]

theorem ongoing_copies (rx : RxState) (payload : Nat) :
    (prcsOngoingRxFrame rx payload).copies = rx.copies ++
      match rx.rxSkb with
      | none => []
      | some skb => [⟨payload, chunkPayloadSize, skb.data.length + chunkPayloadSize,
          skb.room⟩] := by
  cases held : rx.rxSkb with
  | none => simp [prcsOngoingRxFrame, updateRxSkb, held]
  | some skb => rw [prcsOngoingRxFrame, update_copies rx skb _ _ held]

/-- The copies of a branch, in the order they are made. -/
def branchCopies (rx : RxState) (slot : Nat) (footer : BitVec 32) (io : ChunkIo) :
    RxBranch → List RxCopy :=
  let data := slot * chunkSize
  let started (size : Nat) : List RxCopy :=
    if io.alloc then [⟨data + startOffset footer + sizeofTimestampFormat,
      toU8 ((size : Int) - sizeofTimestampFormat), toU8 ((size : Int) - sizeofTimestampFormat),
      rx.mtu + ethHlen + ethFcsLen⟩] else []
  let ended : List RxCopy := match rx.rxSkb with
    | none => []
    | some skb => [⟨data, toU8 (((endOffset footer + 1 : Nat) : Int) - 4),
        skb.data.length + toU8 (((endOffset footer + 1 : Nat) : Int) - 4), skb.room⟩]
  fun
  | .complete => started (endOffset footer + 1 - startOffset footer)
  | .start => started (chunkPayloadSize - startOffset footer)
  | .finish => ended
  | .turn => ended ++ started (chunkPayloadSize - startOffset footer)
  | .ongoing => match rx.rxSkb with
      | none => []
      | some skb => [⟨data, chunkPayloadSize, skb.data.length + chunkPayloadSize, skb.room⟩]

theorem branch_copies (rx : RxState) (slot : Nat) (footer : BitVec 32) (io : ChunkIo)
    (branch : RxBranch) :
    (branchPayload rx (slot * chunkSize) footer io branch).2.copies =
      rx.copies ++ branchCopies rx slot footer io branch := by
  cases branch with
  | complete => rw [branchPayload, complete_copies, begin_copies]; rfl
  | start => rw [branchPayload, prcsRxFrameStart, begin_copies]; rfl
  | finish => rw [branchPayload, frame_end_copies]; rfl
  | ongoing => rw [branchPayload, ongoing_copies]; rfl
  | turn =>
      rw [branchPayload, prcsRxFrameStart, begin_copies]
      cases held : rx.rxSkb with
      | none => simp [branchCopies, held]
      | some skb =>
          have mtu :
              (prcsRxFrameEnd rx (slot * chunkSize) (endOffset footer + 1)).mtu = rx.mtu := by
            rw [frame_end_some rx skb _ _ held]
          simp only [Option.isSome_some, if_true, frame_end_copies, held, mtu, branchCopies,
            List.append_assoc]

/-- The length wraps exactly when more is subtracted than is there. -/
theorem to_u8_sub_le (size less limit : Nat) (small : size ≤ 64) (part : less ≤ 8)
    (limited : limit ≤ 64) :
    toU8 ((size : Int) - less) ≤ limit ↔ less ≤ size ∧ size - less ≤ limit := by
  unfold toU8
  omega

/-- What a call copies lies in bounds exactly when the footer fits the state. -/
theorem branch_inside_iff (rx : RxState) (slot : Nat) (footer : BitVec 32) (io : ChunkIo)
    (branch : RxBranch) (crossed : branch = .complete → startOffset footer < endOffset footer)
    (mtu : ethMinMtu ≤ rx.mtu) :
    (∀ copy ∈ branchCopies rx slot footer io branch, copy.Inside slot) ↔
      BranchFits rx footer io branch := by
  have starts := start_offset_le footer
  have ends := end_offset_le footer
  have payload : chunkPayloadSize = 64 := rfl
  have stamp : sizeofTimestampFormat = 8 := rfl
  have roomy : 68 ≤ rx.mtu := mtu
  -- A frame that starts: its bytes after the timestamp reach to `size`.
  have started : ∀ size : Nat, startOffset footer + size ≤ 64 →
      ((∀ copy ∈ (if io.alloc then [⟨slot * chunkSize + startOffset footer + sizeofTimestampFormat,
          toU8 ((size : Int) - sizeofTimestampFormat), toU8 ((size : Int) - sizeofTimestampFormat),
          rx.mtu + ethHlen + ethFcsLen⟩] else [] : List RxCopy), copy.Inside slot) ↔
        (io.alloc = true → sizeofTimestampFormat ≤ size)) := by
    intro size inside
    cases granted : io.alloc with
    | false => simp
    | true =>
        have wraps := to_u8_sub_le size 8 56 (by omega) (by omega) (by omega)
        simp only [if_true, List.forall_mem_singleton, forall_const, stamp]
        simp only [Nat.cast_ofNat] at wraps ⊢
        constructor
        · rintro ⟨_, below, _⟩
          simp only [payload] at below
          exact (wraps.mp (by omega)).1
        · intro enough
          have exact_ := to_u8_sub_le size 8 (size - 8) (by omega) (by omega) (by omega)
          simp only [Nat.cast_ofNat] at exact_
          have bound := exact_.mpr ⟨enough, le_refl _⟩
          refine ⟨?_, ?_, ?_⟩ <;> simp only [payload, ethHlen, ethFcsLen] <;> omega
  -- A frame that ends: the FCS is cut off what the chunk brings.
  have ended : (∀ copy ∈ (match rx.rxSkb with
      | none => []
      | some skb => [⟨slot * chunkSize, toU8 (((endOffset footer + 1 : Nat) : Int) - 4),
        skb.data.length + toU8 (((endOffset footer + 1 : Nat) : Int) - 4), skb.room⟩] :
        List RxCopy), copy.Inside slot) ↔ EndFits rx footer := by
    cases held : rx.rxSkb with
    | none => simp [EndFits, held]
    | some skb =>
        have wraps := to_u8_sub_le (endOffset footer + 1) 4 64 (by omega) (by omega) (by omega)
        simp only [EndFits, held, Option.some.injEq, forall_eq', List.forall_mem_singleton]
        simp only [Nat.cast_ofNat] at wraps
        constructor
        · rintro ⟨_, below, room⟩
          simp only [payload] at below room
          have enough := (wraps.mp (by omega)).1
          have same := to_u8_sub (endOffset footer + 1) 4 enough (by omega)
          simp only [Nat.cast_ofNat] at same
          rw [same] at room
          exact ⟨enough, room⟩
        · rintro ⟨enough, room⟩
          have same := to_u8_sub (endOffset footer + 1) 4 enough (by omega)
          simp only [Nat.cast_ofNat] at same
          rw [same]
          refine ⟨le_refl _, ?_, room⟩
          simp only [payload]
          omega
  cases branch with
  | complete =>
      have order := crossed rfl
      rw [branchCopies, started _ (by omega)]
      simp only [BranchFits]
      exact forall_congr' fun _ => by omega
  | start =>
      rw [branchCopies, started _ (by omega)]
      exact forall_congr' fun _ => by omega
  | finish => exact ended
  -- Two copies in one chunk, judged one by one.
  | turn =>
      simp only [branchCopies, List.forall_mem_append, ended, started _ (by omega :
        startOffset footer + (chunkPayloadSize - startOffset footer) ≤ 64), BranchFits, StampInside]
      refine and_congr Iff.rfl (forall_congr' fun _ => by omega)
  | ongoing =>
      cases held : rx.rxSkb with
      | none => simp [branchCopies, BranchFits, held]
      | some skb =>
          simp only [branchCopies, held, BranchFits, List.forall_mem_singleton, Option.some.injEq,
            forall_eq']
          exact ⟨fun inside => inside.roomy, fun room => ⟨le_refl _, le_refl _, room⟩⟩

theorem branch_complete (footer : BitVec 32) (complete : rxBranch footer = .complete) :
    startOffset footer < endOffset footer := by
  unfold rxBranch at complete
  split at complete
  · split at complete
    · assumption
    · split at complete <;> exact absurd complete (by simp)
  all_goals exact absurd complete (by simp)

theorem call_inside_iff (call : PayloadCall) (mtu : ethMinMtu ≤ call.rx.mtu) :
    (∀ copy ∈ call.copies, copy.Inside call.slot) ↔ call.Admissible := by
  by_cases live : call.rx.rxBufOverflow = false ∨ flag dataFooterStartValid call.footer = true
  · have made : call.copies =
        branchCopies call.rx call.slot call.footer call.io (rxBranch call.footer) := by
      rw [PayloadCall.copies, payload_branches _ _ _ _ live, branch_copies]
      exact List.drop_left
    have awake_ : ¬ (call.rx.rxBufOverflow = true ∧
        flag dataFooterStartValid call.footer = false) := by
      rintro ⟨recovering, inside⟩
      simp [recovering, inside] at live
    rw [made, branch_inside_iff _ _ _ _ _ (branch_complete call.footer) mtu,
      PayloadCall.Admissible, or_iff_right awake_]
  · obtain ⟨recovering, inside⟩ := not_or.mp live
    have skipped : call.rx.rxBufOverflow = true ∧
        flag dataFooterStartValid call.footer = false :=
      ⟨by simpa using recovering, by simpa using inside⟩
    have none : call.copies = [] := by
      rw [PayloadCall.copies, payload_skips _ _ _ _ skipped.1 skipped.2]
      exact List.drop_length
    rw [none]
    exact ⟨fun _ => Or.inl skipped, fun _ _ member => absurd member (by simp)⟩

/-- The mtu is in its range at every call of a run. -/
theorem run_mtu {ok : RxRun → RxAct → Prop} {run : RxRun} (reached : Reaches rxMachine ok run) :
    ethMinMtu ≤ run.rx.mtu ∧ ∀ call ∈ run.calls, ethMinMtu ≤ call.rx.mtu := by
  refine reached.invariant
    (fun run => ethMinMtu ≤ run.rx.mtu ∧ ∀ call ∈ run.calls, ethMinMtu ≤ call.rx.mtu) ?_ ?_
  · rintro run ⟨mtu, rxFilter, buffer, least, _, rfl⟩
    exact ⟨least, by simp [startRun]⟩
  · intro before act after ⟨least, earlier⟩ _ moved
    rcases rx_next_cases before after act moved with
      ⟨transfer, _, _, _, rfl⟩ | ⟨r, rest, _, todo, rfl⟩ | ⟨mtu, _, inRange, _, rfl⟩
    · exact ⟨least, earlier⟩
    · have calls : ∀ call ∈ before.calls ++ chunkCalls before.rx before.slot r.io,
          ethMinMtu ≤ call.rx.mtu := by
        intro call member
        rcases List.mem_append.mp member with old | new
        · exact earlier call old
        · simp only [chunkCalls] at new
          split at new
          · rw [List.mem_singleton.mp new, (footer_kept before.rx _ r.io).mtu]
            exact least
          · exact absurd new (by simp)
      have kept : ethMinMtu ≤ (processRxChunk before.rx before.slot r.io).2.mtu := by
        rw [(chunk_kept before.rx before.slot r.io).mtu]
        exact least
      simp only [RxRun.chunk]
      split
      · exact ⟨kept, calls⟩
      · split
        · exact ⟨kept, calls⟩
        · exact ⟨by rw [(cleanup_kept _).mtu]; exact kept, calls⟩
    · exact ⟨inRange, earlier⟩

/-- Along every run, with any footers: all copies lie in bounds exactly when
every footer fits the state that its chunk finds. -/
theorem receive_copies_inside_iff {run : RxRun} (reached : Reaches rxMachine anyStep run) :
    (∀ call ∈ run.calls, ∀ copy ∈ call.copies, copy.Inside call.slot) ↔
      ∀ call ∈ run.calls, call.Admissible := by
  obtain ⟨_, least⟩ := run_mtu reached
  exact forall₂_congr fun call member => call_inside_iff call (least call member)

section Samples

/-- A chunk that starts a frame in its first word and one that ends it. -/
def tamedRun : RxRun :=
  rxMachine.after (startRun 1500 0 fun _ => 0) [.transfer shortTransfer, .chunk, .chunk]

theorem receive_copies_inside_short :
    (∀ call ∈ tamedRun.calls, ∀ copy ∈ call.copies, copy.Inside call.slot) ↔
      ∀ call ∈ tamedRun.calls, call.Admissible :=
  receive_copies_inside_iff
    (reaches_after (start_run 1500 0 _ (by decide) (by decide)) _ (allowed_any _ _ _))

/-- A frame that starts in the last word of a chunk. -/
def lateStart : Transfer :=
  ⟨[bareReceived 0x203F0000#32], by decide⟩

def lateRun : RxRun :=
  rxMachine.after (startRun 1500 0 fun _ => 0) [.transfer lateStart, .chunk]

/-- `4 - 8` is taken for 252 bytes. -/
theorem receive_copies_outside :
    ¬ ∀ run : RxRun, Reaches rxMachine anyStep run → ∀ call ∈ run.calls,
      (call.rx.rxSkb ≠ none ∨ flag dataFooterStartValid call.footer = true) →
      ∀ copy ∈ call.copies, copy.Inside call.slot := by
  intro claimed
  have wraps : ∃ call ∈ lateRun.calls, flag dataFooterStartValid call.footer = true ∧
      ∃ copy ∈ call.copies, copy.length = 252 := by
    decide +kernel
  obtain ⟨call, made, starts, copy, copied, length⟩ := wraps
  obtain ⟨above, below, _⟩ := claimed lateRun
    (reaches_after (start_run 1500 0 _ (by decide) (by decide)) _ (allowed_any _ _ _))
    call made (Or.inr starts) copy copied
  rw [length, chunk_payload_size] at below
  omega

end Samples

end Lan865x.OaTc6

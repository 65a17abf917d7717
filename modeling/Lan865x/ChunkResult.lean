import Lan865x.ReceivePath

/-!
What the functions of the receive path return. It depends on the footer, the answers of
STATUS0 and whether an skb is to be had, but on nothing of the state of the driver.
-/

namespace Lan865x.OaTc6
open BitField

/-- The chunk is the first of a frame, for which an skb is needed. -/
def beginsFrame (footer : BitVec 32) : Bool :=
  flag dataFooterStartValid footer &&
    (!flag dataFooterEndValid footer || startOffset footer ≠ endOffset footer)

def statusRet (io : ChunkIo) : Int :=
  match io.readStatus0 with
  | .error ret => ret
  | .ok value =>
      if io.writeStatus0 ≠ 0 then io.writeStatus0
      else if flag status0RxBufferOverflowError value then -eagain
      else if flag status0TxProtocolError value || flag status0LossOfFrameError value ||
          flag status0HeaderError value then -enodev
      else 0

def footerRet (footer : BitVec 32) (io : ChunkIo) : Int :=
  if flag dataFooterExtendedSts footer && statusRet io ≠ 0 then statusRet io
  else if flag dataFooterRxdHeaderBad footer || !flag dataFooterConfigSync footer then -enodev
  else 0

/-- What a chunk with this footer returns. -/
def chunkRet (footer : BitVec 32) (io : ChunkIo) : Int :=
  if footerRet footer io ≠ 0 then footerRet footer io
  else if flag dataFooterDataValid footer && beginsFrame footer && !io.alloc then -enomem
  else 0

def footerAt (rx : RxState) (i : Nat) : BitVec 32 :=
  getRxChunkFooter rx (i * chunkSize + chunkPayloadSize)

theorem status_error (rx : RxState) (io : ChunkIo) :
    (processExtendedStatus rx io).1 = statusRet io := by
  cases read : io.readStatus0 with
  | error ret => simp only [processExtendedStatus, statusRet, read]
  | ok value =>
      simp only [processExtendedStatus, statusRet, read]
      by_cases written : io.writeStatus0 = 0
      · simp only [written, ne_eq, not_true_eq_false, if_false]
        cases flag status0RxBufferOverflowError value with
        | true => rfl
        | false =>
            cases flag status0TxProtocolError value <;>
              cases flag status0LossOfFrameError value <;>
              cases flag status0HeaderError value <;> rfl
      · simp only [written, ne_eq, not_false_eq_true, if_true]

theorem footer_error (rx : RxState) (footer : BitVec 32) (io : ChunkIo) :
    (processRxChunkFooter rx footer io).1 = footerRet footer io := by
  have status := status_error { rx with
    txCredits := number dataFooterTxCredits footer
    rxChunksAvailable := number dataFooterRxChunks footer } io
  simp only [processRxChunkFooter, footerRet]
  cases flag dataFooterExtendedSts footer with
  | false =>
      cases flag dataFooterRxdHeaderBad footer <;> cases flag dataFooterConfigSync footer <;> rfl
  | true =>
      simp only [if_true, status, Bool.true_and, decide_eq_true_eq]
      by_cases passed : statusRet io = 0
      · simp only [passed, ne_eq, not_true_eq_false, if_false]
        cases flag dataFooterRxdHeaderBad footer <;> cases flag dataFooterConfigSync footer <;> rfl
      · simp only [passed, ne_eq, not_false_eq_true, if_true]

theorem begin_error (rx : RxState) (payload size : Nat) (io : ChunkIo) :
    (beginRxFrame rx payload size io).1 = if io.alloc then 0 else -enomem := by
  cases granted : io.alloc with
  | true => rw [begin_granted rx payload size io granted, if_pos rfl]
  | false => simp [begin_refused rx payload size io granted]

theorem begins_branch (footer : BitVec 32) :
    beginsFrame footer = match rxBranch footer with
      | .complete | .start | .turn => true
      | .finish | .ongoing => false := by
  unfold beginsFrame rxBranch
  cases flag dataFooterStartValid footer with
  | false => cases flag dataFooterEndValid footer <;> rfl
  | true =>
      cases flag dataFooterEndValid footer with
      | false => rfl
      | true =>
          rcases Nat.lt_trichotomy (startOffset footer) (endOffset footer) with
            inside | same | crossed
          · simp [inside, Nat.ne_of_lt inside]
          · simp [same]
          · simp [crossed, Nat.lt_asymm crossed, Nat.ne_of_gt crossed]

theorem branch_error (rx : RxState) (data : Nat) (footer : BitVec 32) (io : ChunkIo) :
    (branchPayload rx data footer io (rxBranch footer)).1 =
      if beginsFrame footer && !io.alloc then -enomem else 0 := by
  rw [begins_branch]
  cases rxBranch footer with
  | complete =>
      have begun := begin_error rx (data + startOffset footer)
        (endOffset footer + 1 - startOffset footer) io
      simp only [branchPayload, prcsCompleteRxFrame]
      cases granted : io.alloc with
      | true => simp [begun, granted]
      | false => simp [begun, granted, enomem]
  | start =>
      simp only [branchPayload, prcsRxFrameStart, begin_error]
      cases io.alloc <;> rfl
  | finish => rfl
  | turn =>
      simp only [branchPayload, prcsRxFrameStart, begin_error]
      cases io.alloc <;> rfl
  | ongoing => rfl

theorem payload_error (rx : RxState) (data : Nat) (footer : BitVec 32) (io : ChunkIo) :
    (prcsRxChunkPayload rx data footer io).1 =
      if beginsFrame footer && !io.alloc then -enomem else 0 := by
  by_cases live : rx.rxBufOverflow = false ∨ flag dataFooterStartValid footer = true
  · rw [payload_branches rx data footer io live]
    exact branch_error (awake rx) data footer io
  · obtain ⟨recovering, inside⟩ := not_or.mp live
    rw [Bool.not_eq_false] at recovering
    rw [Bool.not_eq_true] at inside
    rw [payload_skips rx data footer io recovering inside]
    simp [beginsFrame, inside]

theorem chunk_error (rx : RxState) (i : Nat) (io : ChunkIo) :
    (processRxChunk rx i io).1 = chunkRet (footerAt rx i) io := by
  have here : getRxChunkFooter rx (i * chunkSize + chunkPayloadSize) = footerAt rx i := rfl
  simp only [processRxChunk, here, chunkRet, footer_error]
  by_cases passed : footerRet (footerAt rx i) io = 0
  · simp only [passed, ne_eq, not_true_eq_false, if_false]
    cases flag dataFooterDataValid (footerAt rx i) with
    | false => rfl
    | true => simp only [if_true, payload_error, Bool.true_and]
  · simp only [passed, ne_eq, not_false_eq_true, if_true]

end Lan865x.OaTc6

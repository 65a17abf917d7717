import Lan865x.Reassembly

/-!
The footer flags of a received frame: FD, with its last chunk, asks for the frame to be
dropped; RTSA, with its first chunk, says that a timestamp has been put in front of it.
The driver has neither of the two masks: it takes eight bytes off every frame, and
submits every frame.
-/

namespace Lan865x.OaTc6
open BitField Memory Framing

/-- A received frame, FCS included, with its flags and the pieces it is cut into. -/
structure FlaggedFrame (mtu : Nat) where
  frameDrop : Bool
  timestamp : Option (List UInt8)
  bytes : List UInt8
  blocks : List (List UInt8)
  stamped : ∀ stamp, timestamp = some stamp → stamp.length = sizeofTimestampFormat
  cut : blocks.flatten = timestamp.getD [] ++ bytes
  maximum : bytes.length ≤ mtu + ethHlen + ethFcsLen

variable {mtu : Nat}

def FlaggedFrame.wire (frame : FlaggedFrame mtu) : List UInt8 :=
  frame.timestamp.getD [] ++ frame.bytes

def RxChunk.startsFrame (chunk : RxChunk) : Bool :=
  flag dataFooterDataValid chunk.footer && flag dataFooterStartValid chunk.footer

/-- A frame has eight bytes in its first chunk, and four in its last one if that is
another: the lengths that are computed for `oa_tc6_update_rx_skb` do not wrap. -/
def Roomy (chunk : RxChunk) : Prop :=
  match chunk.piece with
  | some (.start first) => 8 ≤ first.length
  | some (.whole only) => 8 ≤ only.length
  | some (.finish last) => 4 ≤ last.length
  | some (.turn last first) => 4 ≤ last.length ∧ 8 ≤ first.length
  | _ => True

/-- The filter depends on the 19 bytes from the destination address on. -/
theorem filter_congr (rx other : RxState) (data there : Nat)
    (filters : rx.rxFilter = other.rxFilter)
    (reads : ∀ j < 19, rx.spiDataRxBuf (data + j) = other.spiDataRxBuf (there + j)) :
    filterRxTimestamp rx data = filterRxTimestamp other there := by
  have type : be16At rx.spiDataRxBuf (data + 12) = be16At other.spiDataRxBuf (there + 12) := by
    rw [be16At, be16At, reads 12 (by decide), Nat.add_assoc, Nat.add_assoc, reads 13 (by decide)]
  have behindTag : be16At rx.spiDataRxBuf (data + ethHlen + 2) =
      be16At other.spiDataRxBuf (there + ethHlen + 2) := by
    simp only [be16At, ethHlen, Nat.add_assoc, Nat.reduceAdd, reads 16 (by decide),
      reads 17 (by decide)]
  have message : rx.spiDataRxBuf (data + ethHlen) = other.spiDataRxBuf (there + ethHlen) :=
    reads 14 (by decide)
  have taggedMessage : rx.spiDataRxBuf (data + ethHlen + 4) =
      other.spiDataRxBuf (there + ethHlen + 4) := reads 18 (by decide)
  by_cases tagged : be16At other.spiDataRxBuf (there + 12) = ethP8021q
  · simp only [filterRxTimestamp, filters, type, tagged, behindTag, taggedMessage, if_true]
  · simp only [filterRxTimestamp, filters, type, tagged, message, if_false]

section Steps
variable {filter : Int} (rx : RxState) (i : Nat) (chunk : RxChunk) (io : ChunkIo)
  (assembly : Assembly (List UInt8))

end Steps

/-- What the stack gets of a frame: without a timestamp its first eight bytes are lost,
and the FCS of a frame in one chunk is not cut off. -/
def FlaggedFrame.rest (frame : FlaggedFrame mtu) : List UInt8 :=
  let bytes := match frame.timestamp with
    | some _ => frame.bytes
    | none => frame.bytes.drop 8
  if frame.blocks.length = 1 then bytes else bytes.take (bytes.length - ethFcsLen)

section Received
variable (frames : List (FlaggedFrame mtu)) (transfers : List Transfer) (rx : RxState)

end Received

section Samples

end Samples

end Lan865x.OaTc6

import Lan865x.FrameFlags

/-!
The ways a received frame can lie in chunks, and what is submitted for each: a frame in
one chunk, or one that starts in a chunk, goes on in others and ends in a last one. The
first chunk may end another frame, and the last one may start another.
-/

namespace Lan865x.OaTc6
open Memory BitField

/-- A chunk that comes with a footer: the buffer it is in, and where its payload starts. -/
structure Delivery where
  buffer : Nat → UInt8
  data : Nat
  footer : BitVec 32
  io : ChunkIo

def Delivery.loaded (delivery : Delivery) (rx : RxState) : RxState :=
  { rx with spiDataRxBuf := delivery.buffer }

/-- What a chunk holds of the frame that starts in it, up to its end. -/
def Delivery.started (delivery : Delivery) : List UInt8 :=
  cellsAt delivery.buffer (delivery.data + startOffset delivery.footer)
    (chunkPayloadSize - startOffset delivery.footer)

def Delivery.whole (delivery : Delivery) : List UInt8 :=
  cellsAt delivery.buffer delivery.data chunkPayloadSize

/-- What a chunk holds of the frame that ends in it, from its start. -/
def Delivery.ended (delivery : Delivery) : List UInt8 :=
  cellsAt delivery.buffer delivery.data (endOffset delivery.footer + 1)

inductive Placement where
  | complete (only : Delivery)
  | several (first : Delivery) (middle : List Delivery) (last : Delivery)

namespace Placement

def first : Placement → Delivery
  | complete only => only
  | several first _ _ => first

/-- The chunks carry these bytes, a timestamp and a frame, and the last of several has
four of them. -/
structure Carries (placement : Placement) (wire : List UInt8) : Prop where
  granted : placement.first.io.alloc = true
  starts : flag dataFooterStartValid placement.first.footer = true
  carries : match placement with
    | complete only => flag dataFooterEndValid only.footer = true ∧
        startOffset only.footer + wire.length = endOffset only.footer + 1 ∧
        cellsAt only.buffer (only.data + startOffset only.footer) wire.length = wire
    | several first middle last =>
        (flag dataFooterEndValid first.footer = true →
          endOffset first.footer < startOffset first.footer) ∧
        (∀ next ∈ middle, flag dataFooterStartValid next.footer = false ∧
          flag dataFooterEndValid next.footer = false) ∧
        flag dataFooterEndValid last.footer = true ∧
        (flag dataFooterStartValid last.footer = true →
          endOffset last.footer < startOffset last.footer) ∧
        4 ≤ endOffset last.footer + 1 ∧
        first.started ++ middle.flatMap Delivery.whole ++ last.ended = wire

end Placement

/-- The decision of the receive filter about the frame that starts in a chunk. -/
def Delivery.filtered (delivery : Delivery) (filter : Int) : Bool :=
  filterRxTimestamp (initRx 0 filter delivery.buffer)
    (delivery.data + startOffset delivery.footer + sizeofTimestampFormat)

/-- The decision is the frame's own where the chunk holds its first 19 bytes. -/
theorem filtered_alike (one other : Delivery) (filter : Int)
    (seen : cellsAt one.buffer (one.data + startOffset one.footer + sizeofTimestampFormat) 19 =
      cellsAt other.buffer (other.data + startOffset other.footer + sizeofTimestampFormat) 19) :
    one.filtered filter = other.filtered filter := by
  simp only [Delivery.filtered]
  generalize one.data + startOffset one.footer + sizeofTimestampFormat = base at seen ⊢
  generalize other.data + startOffset other.footer + sizeofTimestampFormat = base' at seen ⊢
  have byte : ∀ j < 19, one.buffer (base + j) = other.buffer (base' + j) := by
    intro j below
    have same := congrArg (fun cells => cells.getD j 0) seen
    simpa [cellsAt, below] using same
  simp only [filterRxTimestamp, initRx, be16At, ethHlen, Nat.add_assoc, Nat.reduceAdd,
    byte 12 (by decide), byte 13 (by decide), byte 16 (by decide), byte 17 (by decide)]
  -- What is left is the byte with the message type, which is at 18 behind a tag.
  split
  · rfl
  · split
    · rfl
    · split <;> simp only [byte 14 (by decide), byte 18 (by decide)]

/-- The skb with which a frame that starts in a chunk is begun. -/
def Delivery.begun (delivery : Delivery) (rx : RxState) (size : Nat) : RxSkb :=
  begunRxSkb (delivery.loaded rx) (delivery.data + startOffset delivery.footer) size delivery.io

namespace Placement

/-- The chunk carries half of the timestamp, and none of the frame. -/
def late : Placement → Prop
  | complete _ => False
  | several first _ _ => startOffset first.footer = 60

instance : DecidablePred late
  | complete _ => inferInstanceAs (Decidable False)
  | several first _ _ => inferInstanceAs (Decidable (startOffset first.footer = 60))

end Placement

/-- What follows the eight bytes from a late start on, as far as a length that has
wrapped reaches. -/
def Delivery.beyond (delivery : Delivery) : List UInt8 :=
  cellsAt delivery.buffer (delivery.data + startOffset delivery.footer + sizeofTimestampFormat) 252

namespace Placement

/-- The bytes that are submitted of a frame with its timestamp. -/
def taken (placement : Placement) (wire : List UInt8) : List UInt8 :=
  match placement with
  | complete _ => wire.drop 8
  | several first _ _ =>
      if startOffset first.footer = 60 then
        first.beyond ++ (wire.drop 4).take (wire.length - 8)
      else (wire.drop 8).take (wire.length - 12)

end Placement

/-- The timestamp that is read where a frame starts. -/
def Delivery.stamp (delivery : Delivery) : Nat :=
  rxTimestamp delivery.buffer (delivery.data + startOffset delivery.footer)

section Submitted
variable {placement : Placement} {wire : List UInt8}

end Submitted

namespace Placement

def inOne : Placement → Bool
  | complete _ => true
  | several _ _ _ => false

/-- How many bytes are submitted of a frame of this length. -/
def size (placement : Placement) (length : Nat) : Nat :=
  if placement.inOne then length else if placement.late then length + 252 else length - 4

/-- Both are complete in one chunk, or neither is; neither starts with half a timestamp, or
both do and find the same behind it; and the filter decides alike. -/
structure Agree (filter : Int) (one other : Placement) : Prop where
  chunks : one.inOne = other.inOne
  starts : one.late ↔ other.late
  filtered : one.first.filtered filter = other.first.filtered filter
  behind : one.late → one.first.beyond = other.first.beyond ∧
    (one.first.filtered filter = true → one.first.stamp = other.first.stamp)

end Placement

section Samples

end Samples

end Lan865x.OaTc6

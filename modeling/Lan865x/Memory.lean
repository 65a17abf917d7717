import Mathlib.Data.List.Basic
import Mathlib.Logic.Function.Basic
import Lan865x.BitField

/-!
Byte memories. A pointer is an address into a memory that can be read at every
address, so that a read past the end of a buffer is a value and not an error.
-/

namespace Lan865x.Memory

universe u
variable {α : Type u}

/-- `len` consecutive cells from address `first`. -/
def cellsAt (memory : Nat → α) (first len : Nat) : List α :=
  (List.range len).map fun j => memory (first + j)

/-- Overwrites the cells from address 0 on with a list. -/
def load (memory : Nat → α) (cells : List α) : Nat → α :=
  fun j => cells.getD j (memory j)

@[simp] theorem cellsAt_length (memory : Nat → α) (first len : Nat) :
    (cellsAt memory first len).length = len := by
  simp [cellsAt]

theorem cellsAt_get (memory : Nat → α) (len j : Nat) (default : α) (inside : j < len) :
    (cellsAt memory 0 len).getD j default = memory j := by
  simp [cellsAt, inside]

theorem cellsAt_load (memory : Nat → α) (cells : List α) (first len : Nat)
    (inside : first + len ≤ cells.length) :
    cellsAt (load memory cells) first len = (cells.drop first).take len := by
  apply List.ext_getElem
  · simp; omega
  · intro j left right
    simp only [cellsAt_length] at left
    have stored : first + j < cells.length := by omega
    simp [cellsAt, load, stored]

/-- A shorter read inside a longer one. -/
theorem cellsAt_window (memory : Nat → α) (base size first len : Nat)
    (inside : first + len ≤ size) :
    cellsAt memory (base + first) len = ((cellsAt memory base size).drop first).take len := by
  apply List.ext_getElem
  · simp; omega
  · intro j left right
    simp [cellsAt, Nat.add_assoc]

/-- Records of one size, stored one after another, are found at multiples of
that size. -/
theorem record_at {β : Type u} (encode : β → List α) (size : Nat)
    (sized : ∀ record, (encode record).length = size) (records : List β) (i : Nat)
    (inside : i < records.length) :
    ((records.flatMap encode).drop (i * size)).take size = encode records[i] := by
  induction records generalizing i with
  | nil => simp at inside
  | cons record rest ih =>
      rw [List.flatMap_cons]
      cases i with
      | zero => simp [← sized record]
      | succ i =>
          have skip : (i + 1) * size = (encode record).length + i * size := by
            rw [sized record, Nat.succ_mul, Nat.add_comm]
          rw [skip, List.drop_length_add_append]
          exact ih i (by simpa using inside)

theorem records_length {β : Type u} (encode : β → List α) (size : Nat)
    (sized : ∀ record, (encode record).length = size) (records : List β) :
    (records.flatMap encode).length = records.length * size := by
  induction records with
  | nil => simp
  | cons record rest ih =>
      rw [List.flatMap_cons, List.length_append, ih, sized record, List.length_cons,
        Nat.succ_mul, Nat.add_comm]

/-- Writes to given places, one after another. -/
def writeEach (memory : Nat → α) (place : Nat → Nat) (value : Nat → α) (count : Nat) : Nat → α :=
  (List.range count).foldl (fun memory i => Function.update memory (place i) (value i)) memory

section WriteEach
variable (memory : Nat → α) (place : Nat → Nat) (value : Nat → α) (count : Nat)

theorem write_each_succ : writeEach memory place value (count + 1) =
    Function.update (writeEach memory place value count) (place count) (value count) := by
  simp [writeEach, List.range_succ]

theorem write_each_congr (otherPlace : Nat → Nat) (otherValue : Nat → α)
    (places : ∀ i < count, place i = otherPlace i)
    (values : ∀ i < count, value i = otherValue i) :
    writeEach memory place value count = writeEach memory otherPlace otherValue count := by
  induction count with
  | zero => rfl
  | succ count ih =>
      rw [write_each_succ, write_each_succ, places count (by omega), values count (by omega)]
      rw [ih (fun i below => places i (by omega)) (fun i below => values i (by omega))]

theorem write_each_apart (j : Nat) (apart : ∀ i < count, j ≠ place i) :
    writeEach memory place value count j = memory j := by
  induction count with
  | zero => rfl
  | succ count ih =>
      rw [write_each_succ, Function.update_of_ne (apart count (by omega))]
      exact ih fun i earlier => apart i (by omega)

theorem write_each_same (i : Nat) (inside : i < count)
    (distinct : ∀ i < count, ∀ j < count, place i = place j → i = j) :
    writeEach memory place value count (place i) = value i := by
  induction count with
  | zero => omega
  | succ count ih =>
      rw [write_each_succ]
      by_cases last : i = count
      · subst last
        exact Function.update_self _ _ _
      · have other : place i ≠ place count := fun same =>
          last (distinct i inside count (by omega) same)
        rw [Function.update_of_ne other]
        apply ih (by omega)
        intro first below second under
        exact distinct first (by omega) second (by omega)

end WriteEach

/-! Words in a byte memory, in big-endian order. -/

section Words
open BitField
variable (memory : Nat → UInt8)

def be32At (first : Nat) : BitVec 32 :=
  be32ToCpu (memory first) (memory (first + 1)) (memory (first + 2)) (memory (first + 3))

def putBe32 (first : Nat) (word : BitVec 32) : Nat → UInt8 := fun j =>
  if first ≤ j ∧ j < first + 4 then (cpuToBe32 word).getD (j - first) 0 else memory j

/-- The words of an array, one after another. -/
def putWords (first : Nat) (value : Nat → BitVec 32) (count : Nat) : Nat → UInt8 :=
  (List.range count).foldl (fun memory i => putBe32 memory (first + 4 * i) (value i)) memory

theorem be32At_congr (left right : Nat → UInt8) (first : Nat)
    (same : ∀ j, j < 4 → left (first + j) = right (first + j)) :
    be32At left first = be32At right first := by
  have head := same 0 (by omega)
  rw [Nat.add_zero] at head
  simp only [be32At, head, same 1 (by omega), same 2 (by omega), same 3 (by omega)]

theorem be32At_bytes (first : Nat) (word : BitVec 32)
    (bytes : ∀ j, j < 4 → memory (first + j) = (cpuToBe32 word).getD j 0) :
    be32At memory first = word := by
  have head := bytes 0 (by omega)
  rw [Nat.add_zero] at head
  simp only [be32At, head, bytes 1 (by omega), bytes 2 (by omega), bytes 3 (by omega)]
  exact be32_round_trip word

theorem be32At_inj (left right : Nat → UInt8) (first second : Nat)
    (same : be32At left first = be32At right second) (j : Nat) (short : j < 4) :
    left (first + j) = right (second + j) := by
  obtain ⟨b0, b1, b2, b3⟩ := be32_inj same
  match j, short with
  | 0, _ => exact b0
  | 1, _ => exact b1
  | 2, _ => exact b2
  | 3, _ => exact b3

theorem put_be32_outside (first j : Nat) (word : BitVec 32) (outside : j < first ∨ first + 4 ≤ j) :
    putBe32 memory first word j = memory j := by
  apply if_neg
  omega

theorem be32At_put (first : Nat) (word : BitVec 32) :
    be32At (putBe32 memory first word) first = word := by
  apply be32At_bytes
  intro j short
  have inside : first ≤ first + j ∧ first + j < first + 4 := by omega
  rw [putBe32, if_pos inside, Nat.add_sub_cancel_left]

theorem put_words_succ (first : Nat) (value : Nat → BitVec 32) (count : Nat) :
    putWords memory first value (count + 1) =
      putBe32 (putWords memory first value count) (first + 4 * count) (value count) := by
  simp [putWords, List.range_succ]

theorem put_words_outside (first : Nat) (value : Nat → BitVec 32) (count j : Nat)
    (outside : j < first ∨ first + 4 * count ≤ j) :
    putWords memory first value count j = memory j := by
  induction count with
  | zero => rfl
  | succ count ih =>
      rw [put_words_succ, put_be32_outside _ _ _ _ (by omega)]
      exact ih (by omega)

theorem be32At_put_words (first : Nat) (value : Nat → BitVec 32) (count i : Nat)
    (inside : i < count) :
    be32At (putWords memory first value count) (first + 4 * i) = value i := by
  induction count with
  | zero => omega
  | succ count ih =>
      rw [put_words_succ]
      by_cases last : i = count
      · subst last
        exact be32At_put _ _ _
      · calc be32At (putBe32 _ (first + 4 * count) (value count)) (first + 4 * i)
            = be32At (putWords memory first value count) (first + 4 * i) := by
              apply be32At_congr
              intro j short
              apply put_be32_outside
              omega
          _ = value i := ih (by omega)

end Words

end Lan865x.Memory

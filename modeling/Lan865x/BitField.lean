import Mathlib.Data.Nat.Bitwise

/-!
Register words as bit fields. A field is named by its highest and lowest bit,
as in `GENMASK(hi, lo)`; `fieldGet` and `fieldPrep` are the mask-and-shift
accessors. The lemmas read a word bit by bit, so that a word assembled from
disjoint fields can be taken apart again.
-/

namespace Lan865x.BitField

variable {w : Nat}

structure Field where
  hi : Nat
  lo : Nat

/-- A one-bit field, `BIT(n)`. -/
def bit (n : Nat) : Field := ⟨n, n⟩

def Field.width (field : Field) : Nat := field.hi + 1 - field.lo

def Field.mask (field : Field) (w : Nat) : BitVec w :=
  BitVec.ofNat w ((2 ^ field.width - 1) <<< field.lo)

def fieldGet (field : Field) (word : BitVec w) : BitVec w :=
  (word &&& field.mask w) >>> field.lo

def fieldPrep (field : Field) (value : BitVec w) : BitVec w :=
  (value <<< field.lo) &&& field.mask w

theorem mask_bit (field : Field) (i : Nat) :
    (field.mask w).getLsbD i =
      (decide (i < w) && (decide (field.lo ≤ i) && decide (i < field.lo + field.width))) := by
  simp only [Field.mask, BitVec.getLsbD_ofNat, Nat.testBit_shiftLeft,
    Nat.testBit_two_pow_sub_one]
  by_cases inside : i < w
  · by_cases above : field.lo ≤ i
    · simp [inside, above]; omega
    · simp [above]
  · simp [inside]

theorem field_get_bit (field : Field) (word : BitVec w) (i : Nat) :
    (fieldGet field word).getLsbD i =
      (decide (i < field.width) && word.getLsbD (field.lo + i)) := by
  simp only [fieldGet, BitVec.getLsbD_ushiftRight, BitVec.getLsbD_and, mask_bit]
  by_cases inside : field.lo + i < w
  · by_cases low : i < field.width <;> simp [inside, low]
  · have clear : word.getLsbD (field.lo + i) = false :=
      BitVec.getLsbD_of_ge word _ (Nat.le_of_not_lt inside)
    simp [clear]

theorem field_prep_bit (field : Field) (value : BitVec w) (i : Nat) :
    (fieldPrep field value).getLsbD i =
      (decide (i < w) && (decide (field.lo ≤ i) && (decide (i < field.lo + field.width) &&
        value.getLsbD (i - field.lo)))) := by
  simp only [fieldPrep, BitVec.getLsbD_and, BitVec.getLsbD_shiftLeft, mask_bit]
  by_cases inside : i < w <;> by_cases above : field.lo ≤ i <;>
    by_cases below : i < field.lo + field.width <;> simp [inside, above, below]

theorem field_get_or (field : Field) (left right : BitVec w) :
    fieldGet field (left ||| right) = fieldGet field left ||| fieldGet field right := by
  apply BitVec.eq_of_getLsbD_eq
  intro i _
  simp only [field_get_bit, BitVec.getLsbD_or]
  exact Bool.and_or_distrib_left _ _ _

/-- A field reads back what was prepared for it, cut to the field's width. -/
theorem field_get_prep (field : Field) (value : BitVec w) (fits : field.lo + field.width ≤ w) :
    fieldGet field (fieldPrep field value) = BitVec.ofNat w (value.toNat % 2 ^ field.width) := by
  apply BitVec.eq_of_getLsbD_eq
  intro i inside
  rw [field_get_bit, field_prep_bit, BitVec.getLsbD_ofNat, Nat.testBit_mod_two_pow]
  by_cases low : i < field.width
  · have reach : field.lo + i < w := by omega
    simp [inside, low, reach, BitVec.getLsbD]
  · simp [low]

/-- Two fields that share no bit do not see each other. -/
theorem field_get_other (field other : Field) (value : BitVec w)
    (apart : field.hi < other.lo ∨ other.hi < field.lo) :
    fieldGet field (fieldPrep other value) = 0#w := by
  apply BitVec.eq_of_getLsbD_eq
  intro i _
  rw [field_get_bit, field_prep_bit, BitVec.getLsbD_zero]
  simp only [Field.width]
  by_cases low : i < field.hi + 1 - field.lo
  · by_cases above : other.lo ≤ field.lo + i
    · have past : ¬ field.lo + i < other.lo + (other.hi + 1 - other.lo) := by omega
      simp [past]
    · simp [above]
  · simp [low]

/-- The number of set bits. -/
def ones (word : BitVec w) : Nat := (List.range w).countP word.getLsbD

/-- The exclusive or of all bits. -/
def parity (word : BitVec w) : Bool :=
  (List.range w).foldr (fun i rest => word.getLsbD i ^^ rest) false

theorem parity_iff_ones (word : BitVec w) : parity word = true ↔ ones word % 2 = 1 := by
  unfold parity ones
  -- Both sides walk the same list of indices, so which list it is does not matter.
  induction List.range w with
  | nil => simp
  | cons i rest ih =>
      rw [List.foldr_cons, List.countP_cons]
      cases set : word.getLsbD i
      · simpa using ih
      · simp only [Bool.true_xor, if_true]
        rw [Bool.not_eq_true', ← Bool.not_eq_true, ih]
        omega

/-- Words that share no bit add their parities. -/
theorem parity_or (left right : BitVec w)
    (apart : ∀ i, (left.getLsbD i && right.getLsbD i) = false) :
    parity (left ||| right) = (parity left ^^ parity right) := by
  unfold parity
  induction List.range w with
  | nil => rfl
  | cons i rest ih =>
      have here := apart i
      simp only [List.foldr_cons, BitVec.getLsbD_or]
      cases a : left.getLsbD i <;> cases b : right.getLsbD i <;> simp_all

theorem parity_single (word : BitVec w) (n : Nat) (inside : n < w)
    (alone : ∀ i, i ≠ n → word.getLsbD i = false) : parity word = word.getLsbD n := by
  have fold : ∀ indices : List Nat, indices.Nodup →
      indices.foldr (fun i rest => word.getLsbD i ^^ rest) false =
        (decide (n ∈ indices) && word.getLsbD n) := by
    intro indices distinct
    induction indices with
    | nil => simp
    | cons i rest ih =>
        obtain ⟨fresh, distinctRest⟩ := List.nodup_cons.mp distinct
        rw [List.foldr_cons, ih distinctRest]
        by_cases here : i = n
        · subst here
          simp [fresh]
        · have other : n ≠ i := fun same => here same.symm
          simp [alone i here, other]
  rw [parity, fold _ List.nodup_range]
  simp [inside]

/-! Big-endian order: the bytes of a 32-bit word as they go over the wire. -/

def cpuToBe32 (word : BitVec 32) : List UInt8 :=
  [⟨word.extractLsb' 24 8⟩, ⟨word.extractLsb' 16 8⟩, ⟨word.extractLsb' 8 8⟩,
    ⟨word.extractLsb' 0 8⟩]

def be32ToCpu (b0 b1 b2 b3 : UInt8) : BitVec 32 :=
  b0.toBitVec ++ b1.toBitVec ++ b2.toBitVec ++ b3.toBitVec

theorem be32_length (word : BitVec 32) : (cpuToBe32 word).length = 4 := rfl

theorem be32_round_trip (word : BitVec 32) :
    be32ToCpu ⟨word.extractLsb' 24 8⟩ ⟨word.extractLsb' 16 8⟩ ⟨word.extractLsb' 8 8⟩
      ⟨word.extractLsb' 0 8⟩ = word := by
  apply BitVec.eq_of_getLsbD_eq
  intro i inside
  simp only [be32ToCpu, BitVec.getLsbD_append, BitVec.getLsbD_extractLsb']
  -- Each case split peels one byte off the concatenation, from its low end.
  by_cases b3 : i < 8
  · simp [b3]
  · by_cases b2 : i - 8 < 8
    · have at' : 8 + (i - 8) = i := by omega
      simp [b3, b2, at']
    · by_cases b1 : i - 8 - 8 < 8
      · have at' : 16 + (i - 8 - 8) = i := by omega
        simp [b3, b2, b1, at']
      · have b0 : i - 8 - 8 - 8 < 8 := by omega
        have at' : 24 + (i - 8 - 8 - 8) = i := by omega
        simp [b3, b2, b1, b0, at']

theorem word_append_inj {high low : Nat} {a b : BitVec high} {c d : BitVec low}
    (same : a ++ c = b ++ d) : a = b ∧ c = d := by
  constructor
  · rw [← BitVec.extractLsb'_append_eq_left (a := a) (b := c), same,
      BitVec.extractLsb'_append_eq_left]
  · rw [← BitVec.extractLsb'_append_eq_right (a := a) (b := c), same,
      BitVec.extractLsb'_append_eq_right]

/-- Equal words have equal bytes. -/
theorem be32_inj {a0 a1 a2 a3 b0 b1 b2 b3 : UInt8}
    (same : be32ToCpu a0 a1 a2 a3 = be32ToCpu b0 b1 b2 b3) :
    a0 = b0 ∧ a1 = b1 ∧ a2 = b2 ∧ a3 = b3 := by
  obtain ⟨front, last⟩ := word_append_inj same
  obtain ⟨front, third⟩ := word_append_inj front
  obtain ⟨first, second⟩ := word_append_inj front
  exact ⟨UInt8.toBitVec_inj.mp first, UInt8.toBitVec_inj.mp second, UInt8.toBitVec_inj.mp third,
    UInt8.toBitVec_inj.mp last⟩

end Lan865x.BitField

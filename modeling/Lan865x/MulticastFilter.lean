import Lan865x.MacAddress

/-!
The multicast hash filter: the index of an address, the filter of a list of
addresses, and the mode that `lan865x_multicast_work_handler` selects.
-/

namespace Lan865x.OaTc6
open RegisterBus

def regMacNetCfg : Nat := 0x00010001
def regMacLHash : Nat := 0x00010020
def regMacHHash : Nat := 0x00010021

def macNetCfgPromiscuousMode : BitVec 32 := 1#32 <<< 4
def macNetCfgMulticastMode : BitVec 32 := 1#32 <<< 6
def macNetCfgUnicastMode : BitVec 32 := 1#32 <<< 7

def registerMacMask : BitVec 32 := 0xFFFFFFFF#32

def iffPromisc : BitVec 32 := 0x100#32
def iffAllmulti : BitVec 32 := 0x200#32

variable {World : Type}

/-- The byte of an address that a bit is in; there are 48 bits. -/
def byteOf (bit : Nat) : Fin 6 := ⟨bit / 8 % 6, Nat.mod_lt _ (by decide)⟩

def getAddressBit (addr : Mac) (bit : Nat) : BitVec 32 :=
  (macByte addr (byteOf bit) >>> (bit % 8)) &&& 1#32

def lan865xHash (addr : Mac) : BitVec 32 :=
  (List.range 6).foldl (fun hashIndex i =>
    hashIndex ||| ((List.range 8).foldl (fun hash j =>
      hash ^^^ getAddressBit addr (j * 6 + i)) 0#32) <<< i) 0#32

/-- `hash_hi` and `hash_lo`. -/
abbrev HashWords : Type := BitVec 32 × BitVec 32

def setHashBit (words : HashWords) (bitNum : Nat) : HashWords :=
  if 2 ^ 5 ≤ bitNum then (words.1 ||| 1#32 <<< (bitNum - 2 ^ 5), words.2)
  else (words.1, words.2 ||| 1#32 <<< bitNum)

def hashWords (addrs : List Mac) : HashWords :=
  addrs.foldl (fun words addr => setHashBit words (lan865xHash addr).toNat) (0#32, 0#32)

def writeHash (bus : Bus World) (hashHi hashLo : BitVec 32) : StateM World Int := do
  let ret ← bus.write regMacHHash hashHi
  if ret ≠ 0 then return ret
  bus.write regMacLHash hashLo

def lan865xSetSpecificMulticastAddr (bus : Bus World) (addrs : List Mac) : StateM World Int :=
  writeHash bus (hashWords addrs).1 (hashWords addrs).2

def lan865xSetAllMulticastAddr (bus : Bus World) : StateM World Int :=
  writeHash bus registerMacMask registerMacMask

def lan865xClearAllMulticastAddr (bus : Bus World) : StateM World Int := writeHash bus 0#32 0#32

/-- The result of the last write is not used but for a message. -/
def lan865xMulticastWorkHandler (bus : Bus World) (flags : BitVec 32) (addrs : List Mac) :
    StateM World Unit := do
  let regval := 0#32
  if flags &&& iffPromisc ≠ 0#32 then
    let regval := regval ||| macNetCfgPromiscuousMode
    let regval := regval &&& ~~~macNetCfgMulticastMode
    let regval := regval &&& ~~~macNetCfgUnicastMode
    let _ ← bus.write regMacNetCfg regval
  else if flags &&& iffAllmulti ≠ 0#32 then
    if (← lan865xSetAllMulticastAddr bus) ≠ 0 then return
    let regval := regval &&& ~~~macNetCfgPromiscuousMode
    let regval := regval ||| macNetCfgMulticastMode
    let regval := regval &&& ~~~macNetCfgUnicastMode
    let _ ← bus.write regMacNetCfg regval
  else if addrs ≠ [] then
    if (← lan865xSetSpecificMulticastAddr bus addrs) ≠ 0 then return
    let regval := regval &&& ~~~macNetCfgPromiscuousMode
    let regval := regval ||| macNetCfgMulticastMode
    let regval := regval &&& ~~~macNetCfgUnicastMode
    let _ ← bus.write regMacNetCfg regval
  else
    if (← lan865xClearAllMulticastAddr bus) ≠ 0 then return
    let _ ← bus.write regMacNetCfg regval

/-! What the filter is for. -/

/-- Bit `n` of an address is bit `n % 8` of byte `n / 8`. -/
def addressBit (addr : Mac) (n : Nat) : Bool :=
  (addr (byteOf n)).toBitVec.getLsbD (n % 8)

/-- The exclusive or of the address bits `i`, `i + 6`, …, `i + 42`. -/
def hashBit (addr : Mac) (i : Nat) : Bool :=
  (List.range 8).foldr (fun j rest => addressBit addr (i + 6 * j) ^^ rest) false

/-- The index of an address in the filter. -/
def HashesTo (addr : Mac) (k : Nat) : Prop := k < 64 ∧ ∀ i < 6, k.testBit i = hashBit addr i

/-- L_HASH holds the bits 0 to 31 of the filter, H_HASH the others. -/
def filterBit (cells : Nat → BitVec 32) (k : Nat) : Bool :=
  (cells regMacHHash ++ cells regMacLHash).getLsbD k

def promiscuous (cells : Nat → BitVec 32) : Bool := (cells regMacNetCfg).getLsbD 4
def multicast (cells : Nat → BitVec 32) : Bool := (cells regMacNetCfg).getLsbD 6

/-- The MAC hashes multicast addresses, and the filter lets this one pass. -/
def PassesHash (cells : Nat → BitVec 32) (addr : Mac) : Prop :=
  multicast cells = true ∧ ∃ k, HashesTo addr k ∧ filterBit cells k = true

def bitWord (bit : Bool) : BitVec 32 := (BitVec.ofBool bit).setWidth 32

theorem get_address_bit (addr : Mac) (n : Nat) :
    getAddressBit addr n = bitWord (addressBit addr n) := by
  have short : n % 8 < 8 := Nat.mod_lt _ (by decide)
  have wide : n % 8 < 32 := by omega
  rw [getAddressBit, BitVec.and_one_eq_setWidth_ofBool_getLsbD, BitVec.getLsbD_ushiftRight,
    Nat.add_zero, macByte, BitVec.getLsbD_setWidth, decide_eq_true wide, Bool.true_and]
  rfl

theorem bit_word_xor (first second : Bool) :
    bitWord first ^^^ bitWord second = bitWord (first ^^ second) := by
  cases first <;> cases second <;> decide

/-- The inner loop, from any bit on. -/
theorem xor_bits (bits : Nat → Bool) (indices : List Nat) (start : Bool) :
    indices.foldl (fun hash j => hash ^^^ bitWord (bits j)) (bitWord start) =
      bitWord (start ^^ indices.foldr (fun j rest => bits j ^^ rest) false) := by
  induction indices generalizing start with
  | nil => simp
  | cons j rest ih => rw [List.foldl_cons, bit_word_xor, ih, List.foldr_cons, Bool.xor_assoc]

theorem shifted_bit (bit : Bool) (i k : Nat) (inside : k < 32) :
    (bitWord bit <<< i).getLsbD k = (decide (k = i) && bit) := by
  have single : (bitWord bit).getLsbD (k - i) = (decide (k - i = 0) && bit) := by
    cases bit <;> simp [bitWord]
  rw [BitVec.getLsbD_shiftLeft, single]
  by_cases below : k < i
  · simp [below, show k ≠ i by omega]
  · have same : k - i = 0 ↔ k = i := by omega
    simp [inside, below, same]

/-- The outer loop, from any word on. -/
theorem or_bits (bits : Nat → Bool) (indices : List Nat) (start : BitVec 32) (k : Nat)
    (inside : k < 32) :
    (indices.foldl (fun word i => word ||| bitWord (bits i) <<< i) start).getLsbD k =
      (start.getLsbD k || (decide (k ∈ indices) && bits k)) := by
  induction indices generalizing start with
  | nil => simp
  | cons i rest ih =>
      rw [List.foldl_cons, ih, BitVec.getLsbD_or, shifted_bit _ _ _ inside]
      by_cases here : k = i
      · subst here
        cases start.getLsbD k <;> simp
      · simp [here]

theorem hash_bits (addr : Mac) (k : Nat) (inside : k < 32) :
    (lan865xHash addr).getLsbD k = (decide (k < 6) && hashBit addr k) := by
  have inner (i : Nat) : (List.range 8).foldl
      (fun hash j => hash ^^^ getAddressBit addr (j * 6 + i)) 0#32 = bitWord (hashBit addr i) := by
    have order (j : Nat) : j * 6 + i = i + 6 * j := by omega
    have fold := xor_bits (fun j => addressBit addr (i + 6 * j)) (List.range 8) false
    simp only [Bool.false_xor] at fold
    simp only [get_address_bit, order]
    exact fold
  simp only [lan865xHash, inner]
  rw [or_bits (hashBit addr) (List.range 6) 0#32 k inside]
  simp

theorem hash_lt (addr : Mac) : (lan865xHash addr).toNat < 64 := by
  apply Nat.lt_pow_two_of_testBit (n := 6)
  intro i high
  rw [BitVec.testBit_toNat]
  by_cases inside : i < 32
  · simp [hash_bits addr i inside, Nat.not_lt.mpr high]
  · exact BitVec.getLsbD_of_ge _ _ (by omega)

theorem hashes_to_iff (addr : Mac) (k : Nat) :
    HashesTo addr k ↔ (lan865xHash addr).toNat = k := by
  have low (i : Nat) (short : i < 6) : (lan865xHash addr).toNat.testBit i = hashBit addr i := by
    rw [BitVec.testBit_toNat, hash_bits addr i (by omega)]
    simp [short]
  constructor
  · rintro ⟨small, bits⟩
    apply Nat.eq_of_testBit_eq
    intro i
    by_cases short : i < 6
    · rw [low i short, bits i short]
    · have beyond : 2 ^ 6 ≤ 2 ^ i := Nat.pow_le_pow_right (by decide) (by omega)
      rw [Nat.testBit_lt_two_pow (Nat.lt_of_lt_of_le (hash_lt addr) beyond),
        Nat.testBit_lt_two_pow (Nat.lt_of_lt_of_le small beyond)]
  · rintro rfl
    exact ⟨hash_lt addr, low⟩

/-- One bit of the filter is set, whichever word it is in. -/
theorem set_hash_bit (words : HashWords) (n k : Nat) (known : n < 64) :
    ((setHashBit words n).1 ++ (setHashBit words n).2).getLsbD k =
      ((words.1 ++ words.2).getLsbD k || decide (k = n)) := by
  have bit (i j : Nat) (inside : i < 32) : (1#32 <<< i).getLsbD j = decide (j = i) := by
    rw [BitVec.getLsbD_shiftLeft, BitVec.getLsbD_one]
    by_cases same : j = i
    · simp [same, inside]
    · have apart : ¬ (¬ j < i ∧ j - i = 0) := by omega
      simp [same]
      omega
  by_cases upper : 2 ^ 5 ≤ n
  · simp only [setHashBit, if_pos upper, BitVec.getLsbD_append, BitVec.getLsbD_or,
      bit (n - 2 ^ 5) (k - 32) (by omega)]
    by_cases low : k < 32
    · simp [low, show k ≠ n by omega]
    · have same : k - 32 = n - 32 ↔ k = n := by omega
      simp [low, same]
  · simp only [setHashBit, if_neg upper, BitVec.getLsbD_append, BitVec.getLsbD_or,
      bit n k (by omega)]
    by_cases low : k < 32
    · simp [low]
    · simp [low, show k ≠ n by omega]

theorem hash_words_bit (addrs : List Mac) (k : Nat) :
    ((hashWords addrs).1 ++ (hashWords addrs).2).getLsbD k = true ↔
      ∃ addr ∈ addrs, HashesTo addr k := by
  have fold : ∀ words : HashWords,
      ((addrs.foldl (fun words addr => setHashBit words (lan865xHash addr).toNat) words).1 ++
        (addrs.foldl (fun words addr => setHashBit words (lan865xHash addr).toNat) words).2).getLsbD
          k = true ↔ (words.1 ++ words.2).getLsbD k = true ∨ ∃ addr ∈ addrs, HashesTo addr k := by
    induction addrs with
    | nil => simp
    | cons addr rest ih =>
        intro words
        rw [List.foldl_cons, ih, set_hash_bit _ _ _ (hash_lt addr)]
        have here : k = (lan865xHash addr).toNat ↔ HashesTo addr k :=
          eq_comm.trans (hashes_to_iff addr k).symm
        simp [here, or_assoc]
  rw [hashWords, fold]
  simp

/-- The registers after the work handler, all of whose writes succeed. -/
def filterCells (flags : BitVec 32) (addrs : List Mac) (cells : Nat → BitVec 32) :
    Nat → BitVec 32 :=
  let hash (words : HashWords) : Nat → BitVec 32 :=
    Function.update (Function.update cells regMacHHash words.1) regMacLHash words.2
  if flags &&& iffPromisc ≠ 0#32 then
    Function.update cells regMacNetCfg macNetCfgPromiscuousMode
  else if flags &&& iffAllmulti ≠ 0#32 then
    Function.update (hash (registerMacMask, registerMacMask)) regMacNetCfg macNetCfgMulticastMode
  else if addrs ≠ [] then
    Function.update (hash (hashWords addrs)) regMacNetCfg macNetCfgMulticastMode
  else Function.update (hash (0#32, 0#32)) regMacNetCfg 0#32

theorem work_handler_stored (flags : BitVec 32) (addrs : List Mac) (cells : Nat → BitVec 32) :
    lan865xMulticastWorkHandler storageBus flags addrs ⟨cells, []⟩ =
      ((), ⟨filterCells flags addrs cells, []⟩) := by
  by_cases promisc : flags &&& iffPromisc = 0#32
  · by_cases allmulti : flags &&& iffAllmulti = 0#32
    · by_cases empty : addrs = []
      · simp only [lan865xMulticastWorkHandler, filterCells, promisc, allmulti, empty, ne_eq,
          not_true, if_false]
        rfl
      · simp only [lan865xMulticastWorkHandler, filterCells, promisc, allmulti, empty, ne_eq,
          not_true, if_false, not_false_eq_true, if_true]
        rfl
    · simp only [lan865xMulticastWorkHandler, filterCells, promisc, allmulti, ne_eq, not_true,
        if_false, not_false_eq_true, if_true]
      rfl
  · simp only [lan865xMulticastWorkHandler, filterCells, promisc, ne_eq, not_false_eq_true,
      if_true]
    rfl

theorem filter_hash (flags : BitVec 32) (addrs : List Mac) (cells : Nat → BitVec 32)
    (promisc : flags &&& iffPromisc = 0#32) (k : Nat) :
    filterBit (filterCells flags addrs cells) k =
      if flags &&& iffAllmulti ≠ 0#32 then (registerMacMask ++ registerMacMask).getLsbD k
      else ((hashWords addrs).1 ++ (hashWords addrs).2).getLsbD k := by
  by_cases allmulti : flags &&& iffAllmulti = 0#32
  · by_cases empty : addrs = []
    · subst empty
      simp [filterBit, filterCells, promisc, allmulti, regMacHHash, regMacLHash, regMacNetCfg,
        hashWords]
    · simp [filterBit, filterCells, promisc, allmulti, empty, regMacHHash, regMacLHash,
        regMacNetCfg]
  · simp [filterBit, filterCells, promisc, allmulti, regMacHHash, regMacLHash, regMacNetCfg]

theorem filter_mode (flags : BitVec 32) (addrs : List Mac) (cells : Nat → BitVec 32) :
    filterCells flags addrs cells regMacNetCfg =
      if flags &&& iffPromisc ≠ 0#32 then macNetCfgPromiscuousMode
      else if flags &&& iffAllmulti ≠ 0#32 ∨ addrs ≠ [] then macNetCfgMulticastMode else 0#32 := by
  by_cases promisc : flags &&& iffPromisc = 0#32
  · by_cases allmulti : flags &&& iffAllmulti = 0#32
    · by_cases empty : addrs = [] <;> simp [filterCells, promisc, allmulti, empty]
    · simp [filterCells, promisc, allmulti]
  · simp [filterCells, promisc]

theorem hashes_somewhere (addr : Mac) : ∃ k, HashesTo addr k :=
  ⟨_, (hashes_to_iff addr _).mpr rfl⟩

section Modes
variable {flags : BitVec 32}

theorem specific_filter (addrs : List Mac) (cells : Nat → BitVec 32)
    (promisc : flags &&& iffPromisc = 0#32) (allmulti : flags &&& iffAllmulti = 0#32) (k : Nat) :
    filterBit (filterCells flags addrs cells) k = true ↔ ∃ addr ∈ addrs, HashesTo addr k := by
  rw [filter_hash flags addrs cells promisc, if_neg (not_not.mpr allmulti), hash_words_bit]

theorem specific_mode (addrs : List Mac) (cells : Nat → BitVec 32)
    (promisc : flags &&& iffPromisc = 0#32) (allmulti : flags &&& iffAllmulti = 0#32) :
    multicast (filterCells flags addrs cells) = true ↔ addrs ≠ [] := by
  rw [multicast, filter_mode, if_neg (not_not.mpr promisc)]
  by_cases empty : addrs = []
  · simp [allmulti, empty]
  · simp [empty, macNetCfgMulticastMode]

theorem all_pass (addrs : List Mac) (cells : Nat → BitVec 32)
    (promisc : flags &&& iffPromisc = 0#32) (allmulti : flags &&& iffAllmulti ≠ 0#32)
    (addr : Mac) : PassesHash (filterCells flags addrs cells) addr := by
  obtain ⟨k, known⟩ := hashes_somewhere addr
  have ones : registerMacMask ++ registerMacMask = BitVec.allOnes 64 := by decide
  refine ⟨?_, k, known, ?_⟩
  · rw [multicast, filter_mode, if_neg (not_not.mpr promisc), if_pos (.inl allmulti)]
    decide
  · rw [filter_hash flags addrs cells promisc, if_pos allmulti, ones, BitVec.getLsbD_allOnes]
    exact decide_eq_true known.1

/-- Neither the order of the list nor what is in it twice matters. -/
theorem hash_words_members {addrs others : List Mac}
    (same : ∀ addr, addr ∈ others ↔ addr ∈ addrs) : hashWords others = hashWords addrs := by
  have bits : ∀ k, ((hashWords others).1 ++ (hashWords others).2).getLsbD k =
      ((hashWords addrs).1 ++ (hashWords addrs).2).getLsbD k := by
    intro k
    rw [Bool.eq_iff_iff, hash_words_bit, hash_words_bit]
    simp only [same]
  apply Prod.ext
  · apply BitVec.eq_of_getLsbD_eq
    intro k _
    have upper := bits (k + 32)
    rw [BitVec.getLsbD_append, BitVec.getLsbD_append] at upper
    simpa [show ¬ k + 32 < 32 by omega] using upper
  · apply BitVec.eq_of_getLsbD_eq
    intro k inside
    have lower := bits k
    rw [BitVec.getLsbD_append, BitVec.getLsbD_append] at lower
    simpa [inside] using lower

theorem filter_cells_members (flags : BitVec 32) (cells : Nat → BitVec 32)
    {addrs others : List Mac} (same : ∀ addr, addr ∈ others ↔ addr ∈ addrs) :
    filterCells flags others cells = filterCells flags addrs cells := by
  have empty : others = [] ↔ addrs = [] := by simp only [List.eq_nil_iff_forall_not_mem, same]
  simp only [filterCells, hash_words_members same, ne_eq, empty]

end Modes

theorem multicast_filter_exact (flags : BitVec 32) (addrs : List Mac) (cells : Nat → BitVec 32) :
    let after := (lan865xMulticastWorkHandler storageBus flags addrs ⟨cells, []⟩).2.cells
    (flags &&& iffPromisc = 0#32 → flags &&& iffAllmulti = 0#32 →
      (∀ k, filterBit after k = true ↔ ∃ addr ∈ addrs, HashesTo addr k) ∧
      (multicast after = true ↔ addrs ≠ []) ∧
      (∀ addr ∈ addrs, PassesHash after addr) ∧
      ∀ others : List Mac, (∀ addr, addr ∈ others ↔ addr ∈ addrs) →
        ∀ address, (lan865xMulticastWorkHandler storageBus flags others ⟨cells, []⟩).2.cells
          address = after address) ∧
    (flags &&& iffAllmulti ≠ 0#32 → ∀ addr, promiscuous after = true ∨ PassesHash after addr) ∧
    (flags &&& iffPromisc = 0#32 → flags &&& iffAllmulti ≠ 0#32 →
      ∀ addr, PassesHash after addr) ∧
    (flags &&& iffPromisc ≠ 0#32 → after regMacNetCfg = macNetCfgPromiscuousMode) := by
  dsimp only
  simp only [work_handler_stored]
  refine ⟨?_, ?_, ?_, ?_⟩
  · intro promisc allmulti
    have exact' := specific_filter addrs cells promisc allmulti
    have mode := specific_mode addrs cells promisc allmulti
    refine ⟨exact', mode, ?_, ?_⟩
    · intro addr member
      obtain ⟨k, known⟩ := hashes_somewhere addr
      exact ⟨mode.mpr (List.ne_nil_of_mem member), k, known,
        (exact' k).mpr ⟨addr, member, known⟩⟩
    · intro others same address
      rw [filter_cells_members flags cells same]
  · intro allmulti addr
    by_cases promisc : flags &&& iffPromisc = 0#32
    · exact .inr (all_pass addrs cells promisc allmulti addr)
    · left
      rw [promiscuous, filter_mode, if_pos promisc]
      decide
  · intro promisc allmulti addr
    exact all_pass addrs cells promisc allmulti addr
  · intro promisc
    rw [filter_mode, if_pos promisc]

end Lan865x.OaTc6

import Lan865x.PtpThread

/-!
The hardware timestamp configuration: what `lan865x_set_ts_config` takes from the
user, what `lan865x_ethtool_get_ts_info` advertises, and how the receive filter and
`is_gptp_packet` look at a frame.
-/

namespace Lan865x.OaTc6

def efault : Int := 14

def hwtstampTxOff : Nat := 0

/-- The bytes of a `struct hwtstamp_config`: `flags`, `tx_type` and `rx_filter`, each
little-endian. -/
abbrev HwtstampConfig : Type := Fin 12 → UInt8

def HwtstampConfig.word (config : HwtstampConfig) (i : Fin 3) : BitVec 32 :=
  (config ⟨4 * i + 3, by omega⟩).toBitVec ++ (config ⟨4 * i + 2, by omega⟩).toBitVec ++
    (config ⟨4 * i + 1, by omega⟩).toBitVec ++ (config ⟨4 * i, by omega⟩).toBitVec

def HwtstampConfig.txType (config : HwtstampConfig) : Int := (config.word 1).toInt
def HwtstampConfig.rxFilter (config : HwtstampConfig) : Int := (config.word 2).toInt

/-- `copy_from_user` returns how many bytes it could not copy, and has set these to 0. -/
def copyFromUser (user : HwtstampConfig) (left : Nat) : Nat × HwtstampConfig :=
  (left, fun i => if i.val + left < 12 then user i else 0)

/-- The configuration in use is the one that is copied to. -/
def lan865xSetTsConfig (user : HwtstampConfig) (left : Nat) : Int × HwtstampConfig :=
  let (missing, tstampConfig) := copyFromUser user left
  (if missing ≠ 0 then -efault else 0, tstampConfig)

/-- `tx_types` and `rx_filters` of `lan865x_ethtool_get_ts_info`, as bit numbers. -/
def advertisedTxTypes : List Int := [hwtstampTxOff, hwtstampTxOn]

def advertisedRxFilters : List Int :=
  [hwtstampFilterNone, hwtstampFilterAll, hwtstampFilterPtpV2L2Event,
    hwtstampFilterPtpV2L2Sync, hwtstampFilterPtpV2L2DelayReq]

def Advertised (config : HwtstampConfig) : Prop :=
  config.txType ∈ advertisedTxTypes ∧ config.rxFilter ∈ advertisedRxFilters

instance (config : HwtstampConfig) : Decidable (Advertised config) :=
  inferInstanceAs (Decidable (_ ∧ _))

/-- Either an error and the old configuration, or success and an advertised one. -/
def SetsAdvertised (old user : HwtstampConfig) (left : Nat) : Prop :=
  let (ret, config) := lan865xSetTsConfig user left
  (ret < 0 ∧ config = old) ∨ (ret = 0 ∧ Advertised config)

theorem sets_advertised_iff (old user : HwtstampConfig) (left : Nat) :
    SetsAdvertised old user left ↔
      if left = 0 then Advertised user else (copyFromUser user left).2 = old := by
  by_cases all : left = 0
  · have whole : (copyFromUser user left).2 = user := by
      funext i
      simp [copyFromUser, all]
    simp only [SetsAdvertised, lan865xSetTsConfig, whole, if_pos all]
    simp [copyFromUser, all]
  · simp [SetsAdvertised, lan865xSetTsConfig, copyFromUser, all, efault]

/-! The two classifiers of a frame, each from its first byte on. -/

/-- What `is_gptp_packet` finds in these bytes. -/
def isGptpAt (data : Nat → UInt8) : Bool :=
  let proto := be16At data 12
  if proto = ethP8021q ∨ proto = ethP8021ad then be16At data (ethHlen + 2) = ethP1588
  else proto = ethP1588

theorem gptp_packet_at (skb : Skb) : isGptpPacket skb = isGptpAt fun i => skb.data.getD i 0 := rfl

/-- The frame has a tag of 802.1AD. -/
def adTagged (data : Nat → UInt8) : Bool := be16At data 12 = ethP8021ad

/-- The PTP message type, which a tag moves by four bytes. -/
def ptpMsgtype (data : Nat → UInt8) : Nat :=
  let proto := be16At data 12
  (data (if proto = ethP8021q ∨ proto = ethP8021ad then ethHlen + 4 else ethHlen)).toNat % 16

/-- The message types that a receive filter is about; the event messages are the first four. -/
def filterNames (rxFilter : Int) (msgType : Nat) : Bool :=
  if rxFilter = hwtstampFilterPtpV2Event ∨ rxFilter = hwtstampFilterPtpV2L2Event then msgType < 4
  else if rxFilter = hwtstampFilterPtpV2Sync ∨ rxFilter = hwtstampFilterPtpV2L2Sync then
    msgType = ptpMsgtypeSync
  else if rxFilter = hwtstampFilterPtpV2DelayReq ∨ rxFilter = hwtstampFilterPtpV2L2DelayReq then
    msgType = ptpMsgtypeDelayReq
  else false

/-- The filter lets no frame through that is not PTP, and all PTP frames that it names. -/
def FilterExact (rx : RxState) (data : Nat) : Prop :=
  let frame := fun i => rx.spiDataRxBuf (data + i)
  (filterRxTimestamp rx data = true → isGptpAt frame = true) ∧
    (isGptpAt frame = true → filterNames rx.rxFilter (ptpMsgtype frame) = true →
      filterRxTimestamp rx data = true)

theorem ad_not_q : ethP8021ad ≠ ethP8021q := by decide

theorem ad_not_1588 : ethP8021ad ≠ ethP1588 := by decide

theorem ptp_not_q : ethP1588 ≠ ethP8021q := by decide

/-- The switch at the end of the filter: the event filters take every message. -/
def filterTakes (rxFilter : Int) (msgType : Nat) : Bool :=
  if rxFilter = hwtstampFilterPtpV2Event ∨ rxFilter = hwtstampFilterPtpV2L2Event then true
  else filterNames rxFilter msgType

theorem filter_switch (rxFilter : Int) (msgType : Nat) :
    filterTakes rxFilter msgType =
      if rxFilter = hwtstampFilterPtpV2Event ∨ rxFilter = hwtstampFilterPtpV2L2Event then true
      else if rxFilter = hwtstampFilterPtpV2Sync ∨ rxFilter = hwtstampFilterPtpV2L2Sync then
        decide (msgType = ptpMsgtypeSync)
      else if rxFilter = hwtstampFilterPtpV2DelayReq ∨
          rxFilter = hwtstampFilterPtpV2L2DelayReq then decide (msgType = ptpMsgtypeDelayReq)
      else false := by
  unfold filterTakes filterNames
  split <;> rfl

theorem names_neither (rxFilter : Int) (msgType : Nat)
    (neither : rxFilter = hwtstampFilterNone ∨ rxFilter = hwtstampFilterAll) :
    filterNames rxFilter msgType = false := by
  rcases neither with none | all
  · subst none
    rfl
  · subst all
    rfl

theorem takes_named (rxFilter : Int) (msgType : Nat)
    (named : filterNames rxFilter msgType = true) : filterTakes rxFilter msgType = true := by
  unfold filterTakes
  split
  · rfl
  · exact named

/-- The filter takes the tag of 802.1AD for the type of the frame. -/
theorem filter_ad (rx : RxState) (data : Nat) (notNone : rx.rxFilter ≠ hwtstampFilterNone)
    (notAll : rx.rxFilter ≠ hwtstampFilterAll)
    (tag : adTagged (fun i => rx.spiDataRxBuf (data + i)) = true) :
    filterRxTimestamp rx data = false := by
  have proto : be16At rx.spiDataRxBuf (data + 12) = ethP8021ad := of_decide_eq_true tag
  simp [filterRxTimestamp, notNone, notAll, proto, ad_not_q, ad_not_1588]

theorem filter_others (rx : RxState) (data : Nat) (notNone : rx.rxFilter ≠ hwtstampFilterNone)
    (notAll : rx.rxFilter ≠ hwtstampFilterAll)
    (plain : adTagged (fun i => rx.spiDataRxBuf (data + i)) = false) :
    let frame := fun i => rx.spiDataRxBuf (data + i)
    filterRxTimestamp rx data =
      (isGptpAt frame && filterTakes rx.rxFilter (ptpMsgtype frame)) := by
  intro frame
  have proto : be16At rx.spiDataRxBuf (data + 12) = be16At frame 12 := rfl
  have inner : be16At rx.spiDataRxBuf (data + ethHlen + 2) = be16At frame (ethHlen + 2) := rfl
  have untagged : be16At frame 12 ≠ ethP8021ad := of_decide_eq_false plain
  simp only [filterRxTimestamp, if_neg notNone, if_neg notAll, proto, inner]
  by_cases vlan : be16At frame 12 = ethP8021q
  · have message : ptpMsgtype frame = (rx.spiDataRxBuf (data + ethHlen + 4)).toNat % 16 := by
      simp [ptpMsgtype, vlan, frame, Nat.add_assoc]
    by_cases ptp : be16At frame (ethHlen + 2) = ethP1588
    · simp [isGptpAt, vlan, ptp, filter_switch, message]
    · simp [isGptpAt, vlan, ptp]
  · have message : ptpMsgtype frame = (rx.spiDataRxBuf (data + ethHlen)).toNat % 16 := by
      simp [ptpMsgtype, vlan, untagged, frame]
    by_cases ptp : be16At frame 12 = ethP1588
    · simp [isGptpAt, ptp, ptp_not_q, ad_not_1588.symm, filter_switch, message]
    · simp [isGptpAt, vlan, untagged, ptp]

theorem filter_exact_iff (rx : RxState) (data : Nat) (notNone : rx.rxFilter ≠ hwtstampFilterNone)
    (notAll : rx.rxFilter ≠ hwtstampFilterAll) :
    let frame := fun i => rx.spiDataRxBuf (data + i)
    FilterExact rx data ↔ ¬ (adTagged frame = true ∧ isGptpAt frame = true ∧
      filterNames rx.rxFilter (ptpMsgtype frame) = true) := by
  intro frame
  cases tag : adTagged frame with
  | true =>
      have refused := filter_ad rx data notNone notAll tag
      simp only [FilterExact, refused, true_and, not_and, Bool.false_eq_true, false_implies,
        imp_false, frame]
  | false =>
      have takes := filter_others rx data notNone notAll tag
      refine ⟨fun _ failing => Bool.false_ne_true failing.1, fun _ => ⟨?_, ?_⟩⟩
      · intro taken
        rw [takes, Bool.and_eq_true] at taken
        exact taken.1
      · intro gptp named
        rw [takes, gptp, takes_named _ _ named]
        rfl

/-- What is accepted is advertised, and it is what the receive filter does on this frame. -/
def TsConfigHonoured (old user : HwtstampConfig) (left : Nat) (rx : RxState) (data : Nat) :
    Prop :=
  SetsAdvertised old user left ∧
    let (ret, config) := lan865xSetTsConfig user left
    ret = 0 → config.rxFilter ≠ hwtstampFilterNone → config.rxFilter ≠ hwtstampFilterAll →
      FilterExact { rx with rxFilter := config.rxFilter } data

/-- A PTP frame with a tag of 802.1AD that the filter names. -/
def LosesTimestamp (rxFilter : Int) (frame : Nat → UInt8) : Prop :=
  adTagged frame = true ∧ isGptpAt frame = true ∧
    filterNames rxFilter (ptpMsgtype frame) = true

theorem ts_config_iff (old user : HwtstampConfig) (left : Nat) (rx : RxState) (data : Nat) :
    TsConfigHonoured old user left rx data ↔
      if left = 0 then
        Advertised user ∧ ¬ LosesTimestamp user.rxFilter (fun i => rx.spiDataRxBuf (data + i))
      else (copyFromUser user left).2 = old := by
  by_cases all : left = 0
  · have whole : lan865xSetTsConfig user left = (0, user) := by
      simp only [lan865xSetTsConfig, copyFromUser, all, ne_eq, not_true_eq_false, if_false,
        Nat.add_zero, Fin.is_lt, if_true]
    simp only [TsConfigHonoured, sets_advertised_iff, if_pos all, whole, true_implies]
    refine and_congr_right fun _ => ?_
    by_cases neither : user.rxFilter ≠ hwtstampFilterNone ∧ user.rxFilter ≠ hwtstampFilterAll
    · have exact_iff := filter_exact_iff { rx with rxFilter := user.rxFilter } data neither.1
        neither.2
      exact ⟨fun honoured => exact_iff.1 (honoured neither.1 neither.2),
        fun kept _ _ => exact_iff.2 kept⟩
    · have either : user.rxFilter = hwtstampFilterNone ∨ user.rxFilter = hwtstampFilterAll := by
        tauto
      refine ⟨fun _ lost => ?_, fun _ notNone notAll => absurd ⟨notNone, notAll⟩ neither⟩
      have named := lost.2.2
      rw [names_neither _ _ either] at named
      exact Bool.false_ne_true named
  · have failed : (lan865xSetTsConfig user left).1 = -efault := if_pos all
    simp only [TsConfigHonoured, sets_advertised_iff, if_neg all, failed]
    exact and_iff_left fun accepted => absurd accepted (by decide)

def stampingConfig : HwtstampConfig := fun i => if i = 4 ∨ i = 8 then 1 else 0

/-- An address that cannot be read turns the timestamps off, with an error. -/
theorem ts_config_cleared :
    ¬ TsConfigHonoured stampingConfig stampingConfig 12
      (initRx 1500 hwtstampFilterAll fun _ => 0) 0 := by
  intro honoured
  have kept := honoured.1
  rcases kept with failed | accepted
  · exact absurd (congrFun failed.2 8) (by decide)
  · exact absurd accepted.1 (by decide)

end Lan865x.OaTc6

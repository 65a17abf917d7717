import Mathlib.Data.List.Induction
import Mathlib.Data.List.Nodup
import Lan865x.PtpThread

/-!
The references of timestamp clones over any history of sends and polling rounds,
each taken as a whole. What `oa_tc6_start_xmit` does with the original skb does
not touch its clone.
-/

namespace Lan865x.OaTc6

/-- `waiting_txts_skb` has `LAN865X_TIMESTAMP_ID_MAX - 1` entries. -/
def waitingSlots : Nat := 3

/-- How many slots hold a clone. -/
def Lan865xPriv.holders (priv : Lan865xPriv) (clone : Nat) : Nat :=
  (List.range waitingSlots).countP fun id => priv.waitingTxtsSkb id = some clone

/-- The references of every live clone are the slots that hold it, a clone held
by no slot has been freed, and nothing but a live clone was passed on. -/
structure ExactlyCounted (priv : Lan865xPriv) : Prop where
  counted : ∀ i clone, priv.clones[i]? = some clone → 0 < clone.refs → clone.refs = priv.holders i
  unheld : ∀ i clone, priv.clones[i]? = some clone → priv.holders i = 0 → clone.refs = 0
  clean : priv.faults = []

inductive PtpEvent where
  | send (call : SendCall)
  | poll (status : BitVec 32)

def ptpStep (priv : Lan865xPriv) : PtpStep → Lan865xPriv
  | .report id => ptpReport priv id
  | _ => priv

def PtpEvent.apply (priv : Lan865xPriv) : PtpEvent → Lan865xPriv
  | .send call => (lan865xSendPacket priv call).2
  | .poll status => (ptpRound status).foldl ptpStep priv

def afterEvents (events : List PtpEvent) : Lan865xPriv := events.foldl PtpEvent.apply initPriv

/-- No clone is kept, and no timestamp is found. -/
def PtpEvent.harmless : PtpEvent → Bool
  | .send call => !(call.hwTstamp && call.cloned && call.txType == hwtstampTxOn)
  | .poll status => !status.getLsbD (stampBit timestampIdGptp) &&
      !status.getLsbD (stampBit timestampIdNormal)

/-- No timestamp is awaited. -/
structure Idle (priv : Lan865xPriv) : Prop where
  slots : ∀ id, priv.waitingTxtsSkb id = none
  freed : ∀ clone ∈ priv.clones, clone.refs = 0
  clean : priv.faults = []

theorem idle_counted (priv : Lan865xPriv) (idle : Idle priv) : ExactlyCounted priv where
  counted i clone here live := by
    have freed := idle.freed clone (List.mem_of_getElem? here)
    omega
  unheld i clone here _ := idle.freed clone (List.mem_of_getElem? here)
  clean := idle.clean

theorem send_harmless (priv : Lan865xPriv) (idle : Idle priv) (call : SendCall)
    (harmless : (PtpEvent.send call).harmless = true) :
    Idle (lan865xSendPacket priv call).2 := by
  unfold lan865xSendPacket
  cases asked : call.hwTstamp with
  | false => exact idle
  | true =>
      cases cloned : call.cloned with
      | false => exact idle
      | true =>
          have off : call.txType ≠ hwtstampTxOn := by
            simpa [PtpEvent.harmless, asked, cloned] using harmless
          simp only [if_true, off, ne_eq, not_false_eq_true, clone_freed]
          exact ⟨idle.slots, List.forall_mem_append.mpr
            ⟨idle.freed, List.forall_mem_singleton.mpr rfl⟩, idle.clean⟩

/-- The reference of `skb_clone` is never dropped when the clone is kept. -/
theorem kept_not_counted (priv : Lan865xPriv) (idle : Idle priv) (of id : Nat) :
    ¬ ExactlyCounted (keepClone (skbClone priv of).2 id (skbClone priv of).1) := by
  intro counted
  rw [clone_kept] at counted
  have two := counted.counted priv.clones.length ⟨of, 2⟩ (by simp) (by simp)
  have holders : ∀ slot, (Function.update priv.waitingTxtsSkb id (some priv.clones.length) slot =
      some priv.clones.length) ↔ slot = id := by
    intro slot
    by_cases same : slot = id
    · simp [same]
    · simp [same, idle.slots slot]
  have once : (List.range waitingSlots).count id ≤ 1 :=
    List.nodup_iff_count_le_one.mp List.nodup_range id
  have here : (List.range waitingSlots).countP (fun slot => decide (slot = id)) =
      (List.range waitingSlots).count id := rfl
  simp only [Lan865xPriv.holders, holders, here] at two
  omega

theorem poll_harmless (priv : Lan865xPriv) (idle : Idle priv) (status : BitVec 32)
    (harmless : (PtpEvent.poll status).harmless = true) :
    Idle ((ptpRound status).foldl ptpStep priv) := by
  obtain ⟨gptp, normal⟩ : status.getLsbD (stampBit timestampIdGptp) = false ∧
      status.getLsbD (stampBit timestampIdNormal) = false := by
    simpa [PtpEvent.harmless] using harmless
  cases reserved : status.getLsbD (stampBit timestampIdReserved) <;>
    simpa [ptpRound, ifStamp, gptp, normal, reserved, ptpStep] using idle

/-- The first timestamp found finds an empty slot. -/
theorem poll_not_counted (priv : Lan865xPriv) (idle : Idle priv) (status : BitVec 32)
    (found : (PtpEvent.poll status).harmless = false) :
    ¬ ExactlyCounted ((ptpRound status).foldl ptpStep priv) := by
  intro counted
  have clean := counted.clean
  have slots := idle.slots
  revert clean found
  cases gptp : status.getLsbD (stampBit timestampIdGptp) <;>
    cases normal : status.getLsbD (stampBit timestampIdNormal) <;>
    cases reserved : status.getLsbD (stampBit timestampIdReserved) <;>
    simp [PtpEvent.harmless, ptpRound, ifStamp, gptp, normal, reserved, ptpStep, ptpReport,
      kfreeSkb, skbTstampTx, slots, passFaults]

/-- From a state in which no timestamp is awaited, the event decides. -/
theorem event_counted_iff (priv : Lan865xPriv) (idle : Idle priv) (event : PtpEvent) :
    ExactlyCounted (event.apply priv) ↔ event.harmless = true := by
  cases event with
  | poll status =>
      constructor
      · intro counted
        by_contra found
        exact poll_not_counted priv idle status (by simpa using found) counted
      · exact fun harmless => idle_counted _ (poll_harmless priv idle status harmless)
  | send call =>
      constructor
      · intro counted
        by_contra kept
        have asked : call.hwTstamp = true ∧ call.cloned = true ∧ call.txType = hwtstampTxOn := by
          simpa [PtpEvent.harmless, and_assoc] using kept
        simp only [PtpEvent.apply, lan865xSendPacket, asked.1, asked.2.1, asked.2.2, if_true,
          ne_eq, not_true_eq_false, if_false] at counted
        split at counted
        · exact kept_not_counted priv idle call.skb.id timestampIdGptp counted
        · exact kept_not_counted priv idle call.skb.id timestampIdNormal counted
      · exact fun harmless => idle_counted _ (send_harmless priv idle call harmless)

theorem event_idle (priv : Lan865xPriv) (idle : Idle priv) (event : PtpEvent)
    (harmless : event.harmless = true) : Idle (event.apply priv) := by
  cases event with
  | poll status => exact poll_harmless priv idle status harmless
  | send call => exact send_harmless priv idle call harmless

theorem after_events_idle (events : List PtpEvent)
    (harmless : ∀ event ∈ events, event.harmless = true) : Idle (afterEvents events) := by
  induction events using List.reverseRecOn with
  | nil => exact ⟨fun _ => rfl, by simp [afterEvents, initPriv], rfl⟩
  | append_singleton earlier event ih =>
      obtain ⟨before, here⟩ := List.forall_mem_append.mp harmless
      rw [afterEvents, List.foldl_append]
      exact event_idle _ (ih before) event (here event (List.mem_singleton_self event))

/-- The references are right in every state of a history exactly when nothing in
it keeps a clone or finds a timestamp. -/
theorem clones_counted_iff (events : List PtpEvent) :
    (∀ front, front <+: events → ExactlyCounted (afterEvents front)) ↔
      ∀ event ∈ events, event.harmless = true := by
  constructor
  -- From the end of the history: what comes before the last event awaits nothing.
  · induction events using List.reverseRecOn with
    | nil => simp
    | append_singleton earlier event ih =>
        intro counted
        have before := ih fun front early => counted front (early.trans (List.prefix_append _ _))
        have last := counted _ List.prefix_rfl
        rw [afterEvents, List.foldl_append] at last
        have harmless := (event_counted_iff _ (after_events_idle earlier before) event).mp last
        exact List.forall_mem_append.mpr ⟨before, List.forall_mem_singleton.mpr harmless⟩
  · intro harmless front early
    exact idle_counted _ (after_events_idle front fun event member =>
      harmless event (early.subset member))

section Samples

theorem clone_leaks : ¬ ∀ events, ExactlyCounted (afterEvents events) := by
  intro claimed
  have counted := claimed [.send (gptpCall 1)]
  have two := counted.counted 0 ⟨1, 2⟩ (by decide) (by decide)
  exact absurd two (by decide)

end Samples

end Lan865x.OaTc6

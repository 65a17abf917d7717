import Lan865x.PtpThread
import Lan865x.SpiThread

/-!
What `lan865x_send_packet` does with the skb it is given, its clone and the slots, as
one call: the part before `oa_tc6_start_xmit`, and that function. The kernel resubmits
an skb after NETDEV_TX_BUSY and gives it up after any other result.
-/

namespace Lan865x.OaTc6
open Transition

def netdevTxOk : Int := 0x00
def netdevTxBusy : Int := 0x10

/-- What `oa_tc6_start_xmit` works on; `freed` are the skbs given to
`dev_kfree_skb_any`. -/
structure XmitSide where
  tx : TxState
  queueStopped : Bool
  woken : Bool
  freed : List Nat

def oaTc6StartXmit (skb : Skb) (tsCaptureMode : Nat) (linearized : Bool) (side : XmitSide) :
    Int × XmitSide :=
  if side.tx.waitingTxSkb.isSome then (netdevTxBusy, { side with queueStopped := true })
  else if linearized = false then
    (netdevTxOk, { side with
      tx := { side.tx with txDropped := side.tx.txDropped + 1 }
      freed := side.freed ++ [skb.id] })
  else
    (netdevTxOk, { side with
      tx := { side.tx with
        waitingTxSkb := some skb
        waitingTxTsCaptureMode := tsCaptureMode % 256 }
      woken := true })

/-- The part of a driver that `oa_tc6_start_xmit` works on. -/
def Driver.xmitSide (d : Driver) (freed : List Nat) : XmitSide :=
  ⟨d.tc6.tx, d.tc6.queueStopped, d.woken, freed⟩

/-- The steps of the driver machine come to the same, where no other step falls among
them. -/
theorem start_xmit_steps (d : Driver) (idle : d.xmit = .idle) (skb : Skb) (tsCaptureMode : Nat)
    (linearized : Bool) (freed : List Nat) :
    ∃ acts after freedAfter,
      (driverMachine 255).run d (.offer skb tsCaptureMode :: acts) = some after ∧
      (∀ act ∈ acts, act = .xmit linearized) ∧ after.xmit = .idle ∧
      (oaTc6StartXmit skb tsCaptureMode linearized (d.xmitSide freed)).2 =
        after.xmitSide freedAfter := by
  cases held : d.tc6.tx.waitingTxSkb with
  | some other =>
      use [.xmit linearized, .xmit linearized],
        { d with tc6 := { d.tc6 with queueStopped := true }, xmit := .idle }, freed
      simp [Machine.run, driverMachine, Driver.next, Driver.xmitNext, idle, held,
        oaTc6StartXmit, Driver.xmitSide]
  | none =>
      cases linearized with
      | false =>
          use [.xmit false, .xmit false],
            { d with
              tc6 := { d.tc6 with tx := { d.tc6.tx with txDropped := d.tc6.tx.txDropped + 1 } }
              xmit := .idle }, freed ++ [skb.id]
          simp [Machine.run, driverMachine, Driver.next, Driver.xmitNext, idle, held,
            oaTc6StartXmit, Driver.xmitSide]
      | true =>
          use [.xmit true, .xmit true, .xmit true, .xmit true],
            { d with
              tc6 := { d.tc6 with tx := { d.tc6.tx with
                waitingTxSkb := some skb
                waitingTxTsCaptureMode := tsCaptureMode % 256 } }
              woken := true
              xmit := .idle
              accepted := d.accepted ++ [(skb, tsCaptureMode % 256)] }, freed
          simp [Machine.run, driverMachine, Driver.next, Driver.xmitNext, idle, held,
            oaTc6StartXmit, Driver.xmitSide]

/-- A slot that is not empty points to a clone that was made. -/
def SlotsKnown (priv : Lan865xPriv) : Prop :=
  ∀ id clone, priv.waitingTxtsSkb id = some clone → clone < priv.clones.length

/-- The driver as a call finds it; `inProgress` are the skbs with SKBTX_IN_PROGRESS in
the info they share with their clones. -/
structure SendState where
  priv : Lan865xPriv
  known : SlotsKnown priv
  side : XmitSide
  inProgress : Nat → Bool

def SendCall.slot (call : SendCall) : Nat :=
  if isGptpPacket call.skb then timestampIdGptp else timestampIdNormal

/-- The call fills a slot. -/
def SendCall.Keeps (call : SendCall) : Prop :=
  call.hwTstamp = true ∧ call.cloned = true ∧ call.txType = hwtstampTxOn

instance (call : SendCall) : Decidable call.Keeps := inferInstanceAs (Decidable (_ ∧ _ ∧ _))

/-- The four ways through the first part of `lan865x_send_packet`. -/
theorem send_packet_cases (call : SendCall) :
    (call.hwTstamp = false ∧ ∀ priv, lan865xSendPacket priv call = (some call.stack, priv)) ∨
    (call.hwTstamp = true ∧ call.cloned = false ∧
      ∀ priv, lan865xSendPacket priv call = (none, priv)) ∨
    (call.hwTstamp = true ∧ call.cloned = true ∧ call.txType ≠ hwtstampTxOn ∧
      ∀ priv, lan865xSendPacket priv call = (some timestampIdNone,
        { priv with clones := priv.clones ++ [⟨call.skb.id, 0⟩] })) ∨
    (call.Keeps ∧ ∀ priv, lan865xSendPacket priv call = (some call.slot,
      { priv with
        waitingTxtsSkb := Function.update priv.waitingTxtsSkb call.slot (some priv.clones.length)
        clones := priv.clones ++ [⟨call.skb.id, 2⟩] })) := by
  cases asked : call.hwTstamp with
  | false => exact Or.inl ⟨rfl, fun priv => by simp [lan865xSendPacket, asked]⟩
  | true =>
      right
      cases cloned : call.cloned with
      | false => exact Or.inl ⟨rfl, rfl, fun priv => by simp [lan865xSendPacket, asked, cloned]⟩
      | true =>
          right
          by_cases on : call.txType = hwtstampTxOn
          · right
            constructor
            · exact ⟨asked, cloned, on⟩
            · intro priv
              simp only [lan865xSendPacket, asked, cloned, on, ne_eq, not_true_eq_false, if_true,
                if_false, SendCall.slot, clone_kept]
              split <;> rfl
          · left
            refine ⟨rfl, rfl, on, ?_⟩
            intro priv
            simp only [lan865xSendPacket, asked, cloned, on, ne_eq, not_false_eq_true, if_true,
              clone_freed]

theorem send_known (priv : Lan865xPriv) (known : SlotsKnown priv) (call : SendCall) :
    SlotsKnown (lan865xSendPacket priv call).2 := by
  rcases send_packet_cases call with
    ⟨_, sent⟩ | ⟨_, _, sent⟩ | ⟨_, _, _, sent⟩ | ⟨_, sent⟩
  · rw [sent priv]
    exact known
  · rw [sent priv]
    exact known
  · rw [sent priv]
    intro id clone slot
    rw [List.length_append]
    exact Nat.lt_add_right _ (known id clone slot)
  · rw [sent priv]
    intro id clone slot
    rw [List.length_append]
    dsimp only at slot
    by_cases here : id = call.slot
    · subst here
      rw [Function.update_self, Option.some.injEq] at slot
      simp [← slot]
    · rw [Function.update_of_ne here] at slot
      exact Nat.lt_add_right _ (known id clone slot)

/-- The whole of `lan865x_send_packet`, the hook `ndo_start_xmit`. -/
def ndoStartXmit (call : SendCall) (linearized : Bool) (state : SendState) : Int × SendState :=
  let sent := lan865xSendPacket state.priv call
  let state : SendState := {
    priv := sent.2
    known := send_known state.priv state.known call
    side := state.side
    inProgress := if call.Keeps then Function.update state.inProgress call.skb.id true
      else state.inProgress }
  match sent.1 with
  | none => (-eagain, state)
  | some tsCaptureMode =>
      let after := oaTc6StartXmit call.skb tsCaptureMode linearized state.side
      (after.1, { state with side := after.2 })

/-- The references of a clone; none are left of one that was not made. -/
def Lan865xPriv.refs (priv : Lan865xPriv) (clone : Nat) : Nat :=
  (priv.clones[clone]?.map Clone.refs).getD 0

/-- The skb is still the kernel's, and no slot, clone or waiting skb has changed. -/
def Untouched (before after : SendState) : Prop :=
  after.side.freed = before.side.freed ∧ after.inProgress = before.inProgress ∧
    after.side.tx = before.side.tx ∧ after.priv.waitingTxtsSkb = before.priv.waitingTxtsSkb ∧
    ∀ clone, after.priv.refs clone = before.priv.refs clone

/-- The skb is the one that waits, or it has been freed, once. -/
def Consumed (skb : Skb) (before after : SendState) : Prop :=
  (before.side.tx.waitingTxSkb = none ∧ after.side.tx.waitingTxSkb = some skb ∧
      after.side.freed = before.side.freed) ∨
    (after.side.tx.waitingTxSkb = before.side.tx.waitingTxSkb ∧
      after.side.freed = before.side.freed ++ [skb.id])

def CallHonoured (call : SendCall) (linearized : Bool) (state : SendState) : Prop :=
  let after := ndoStartXmit call linearized state
  (after.1 = netdevTxBusy → Untouched state after.2) ∧
    (after.1 = netdevTxOk ∨ after.1 < 0 → Consumed call.skb state after.2)

/-- A call that asks for a timestamp gets its clone, and does not fill a slot for a
frame that is then refused. -/
def CallHarmless (call : SendCall) (state : SendState) : Prop :=
  call.hwTstamp = true → call.cloned = true ∧
    (call.txType ≠ hwtstampTxOn ∨ state.side.tx.waitingTxSkb = none)

section StartXmit
variable (skb : Skb) (tsCaptureMode : Nat) (linearized : Bool) (side : XmitSide)

theorem start_xmit_busy (other : Skb) (held : side.tx.waitingTxSkb = some other) :
    oaTc6StartXmit skb tsCaptureMode linearized side =
      (netdevTxBusy, { side with queueStopped := true }) := by
  simp [oaTc6StartXmit, held]

/-- With no skb waiting the new one is taken, or dropped and freed. -/
theorem start_xmit_free (empty : side.tx.waitingTxSkb = none) :
    (oaTc6StartXmit skb tsCaptureMode linearized side).1 = netdevTxOk ∧
      (((oaTc6StartXmit skb tsCaptureMode linearized side).2.tx.waitingTxSkb = some skb ∧
          (oaTc6StartXmit skb tsCaptureMode linearized side).2.freed = side.freed) ∨
        ((oaTc6StartXmit skb tsCaptureMode linearized side).2.tx.waitingTxSkb = none ∧
          (oaTc6StartXmit skb tsCaptureMode linearized side).2.freed =
            side.freed ++ [skb.id])) := by
  cases linearized with
  | true => simp [oaTc6StartXmit, empty]
  | false => simp [oaTc6StartXmit, empty]

end StartXmit

section Calls
variable (call : SendCall) (linearized : Bool) (state : SendState)

/-- The driver when `oa_tc6_start_xmit` is called. -/
def sentState : SendState where
  priv := (lan865xSendPacket state.priv call).2
  known := send_known state.priv state.known call
  side := state.side
  inProgress := if call.Keeps then Function.update state.inProgress call.skb.id true
    else state.inProgress

theorem ndo_none (sent : (lan865xSendPacket state.priv call).1 = none) :
    ndoStartXmit call linearized state = (-eagain, sentState call state) := by
  simp only [ndoStartXmit, sent]
  rfl

theorem ndo_some (tsCaptureMode : Nat)
    (sent : (lan865xSendPacket state.priv call).1 = some tsCaptureMode) :
    ndoStartXmit call linearized state =
      ((oaTc6StartXmit call.skb tsCaptureMode linearized state.side).1,
        { sentState call state with
          side := (oaTc6StartXmit call.skb tsCaptureMode linearized state.side).2 }) := by
  simp only [ndoStartXmit, sent]
  rfl

/-- A call that goes on to `oa_tc6_start_xmit` with everything else as it was. -/
theorem quiet_honoured (tsCaptureMode : Nat)
    (sent : (lan865xSendPacket state.priv call).1 = some tsCaptureMode)
    (quiet : state.side.tx.waitingTxSkb ≠ none → Untouched state (sentState call state)) :
    CallHonoured call linearized state := by
  rw [CallHonoured, ndo_some call linearized state tsCaptureMode sent]
  cases held : state.side.tx.waitingTxSkb with
  | none =>
      obtain ⟨accepted, outcome⟩ :=
        start_xmit_free call.skb tsCaptureMode linearized state.side held
      constructor
      · intro busy
        rw [accepted] at busy
        exact absurd busy (by decide)
      · intro _
        rcases outcome with ⟨stored, kept⟩ | ⟨dropped, freed⟩
        · exact Or.inl ⟨held, stored, kept⟩
        · exact Or.inr ⟨dropped.trans held.symm, freed⟩
  | some other =>
      rw [start_xmit_busy call.skb tsCaptureMode linearized state.side other held]
      obtain ⟨freed, flags, tx, slots, refs⟩ := quiet (by simp [held])
      constructor
      · exact fun _ => ⟨freed, flags, tx, slots, refs⟩
      · have neither : ¬ (netdevTxBusy = netdevTxOk ∨ netdevTxBusy < 0) := by decide
        exact fun consumed => absurd consumed neither

theorem refs_dead (priv : Lan865xPriv) (of clone : Nat) :
    ({ priv with clones := priv.clones ++ [⟨of, 0⟩] } : Lan865xPriv).refs clone =
      priv.refs clone := by
  simp only [Lan865xPriv.refs]
  rcases Nat.lt_trichotomy clone priv.clones.length with below | here | past
  · rw [List.getElem?_append_left below]
  · subst here
    simp
  · rw [List.getElem?_eq_none (by simp; omega), List.getElem?_eq_none (by omega)]

/-- A call that fills no slot and leaves the references alone. -/
theorem sent_untouched (keeps : ¬ call.Keeps) (priv : Lan865xPriv)
    (sent : (lan865xSendPacket state.priv call).2 = priv)
    (slots : priv.waitingTxtsSkb = state.priv.waitingTxtsSkb)
    (refs : ∀ clone, priv.refs clone = state.priv.refs clone) :
    Untouched state (sentState call state) := by
  subst sent
  exact ⟨rfl, if_neg keeps, rfl, slots, refs⟩

theorem call_honoured_iff :
    CallHonoured call linearized state ↔ CallHarmless call state := by
  rcases send_packet_cases call with
    ⟨unasked, sent⟩ | ⟨asked, uncloned, sent⟩ | ⟨asked, cloned, off, sent⟩ | ⟨keeps, sent⟩
  · have keeps : ¬ call.Keeps := fun kept => Bool.false_ne_true (unasked.symm.trans kept.1)
    constructor
    · exact fun _ asked => absurd (unasked.symm.trans asked) Bool.false_ne_true
    · intro _
      apply quiet_honoured call linearized state call.stack (congrArg Prod.fst (sent state.priv))
      intro _
      exact sent_untouched call state keeps _ (congrArg Prod.snd (sent state.priv)) rfl fun _ => rfl
  · constructor
    · rintro ⟨_, consumed⟩
      have result := ndo_none call linearized state (congrArg Prod.fst (sent state.priv))
      have negative : -eagain < 0 := by decide
      rw [result] at consumed
      rcases consumed (Or.inr negative) with ⟨empty, stored, _⟩ | ⟨_, freed⟩
      · exact absurd (empty.symm.trans stored) (by simp)
      · exact absurd freed (by simp [sentState])
    · intro harmless
      exact absurd (uncloned.symm.trans (harmless asked).1) Bool.false_ne_true
  · have keeps : ¬ call.Keeps := fun kept => off kept.2.2
    constructor
    · exact fun _ _ => ⟨cloned, Or.inl off⟩
    · intro _
      apply quiet_honoured call linearized state _ (congrArg Prod.fst (sent state.priv))
      intro _
      exact sent_untouched call state keeps _ (congrArg Prod.snd (sent state.priv)) rfl
        (refs_dead state.priv call.skb.id)
  · have mode := congrArg Prod.fst (sent state.priv)
    constructor
    · rintro ⟨untouched, _⟩ _
      refine ⟨keeps.2.1, Or.inr ?_⟩
      by_contra held
      obtain ⟨other, held⟩ := Option.ne_none_iff_exists'.mp held
      rw [ndo_some call linearized state _ mode,
        start_xmit_busy call.skb _ linearized state.side other held] at untouched
      have refs := (untouched rfl).2.2.2.2 state.priv.clones.length
      simp [sentState, sent, Lan865xPriv.refs] at refs
    · intro harmless
      have empty := (harmless keeps.1).2.resolve_left (not_not_intro keeps.2.2)
      apply quiet_honoured call linearized state _ mode
      exact fun held => absurd empty held

theorem busy_waiting (skb : Skb) (tsCaptureMode : Nat) (side : XmitSide)
    (busy : (oaTc6StartXmit skb tsCaptureMode linearized side).1 = netdevTxBusy) :
    (oaTc6StartXmit skb tsCaptureMode linearized side).2 = { side with queueStopped := true } ∧
      side.tx.waitingTxSkb ≠ none := by
  cases held : side.tx.waitingTxSkb with
  | none =>
      rw [(start_xmit_free skb tsCaptureMode linearized side held).1] at busy
      exact absurd busy (by decide)
  | some other =>
      rw [start_xmit_busy skb tsCaptureMode linearized side other held]
      exact ⟨rfl, by simp⟩

/-- A refused call that does no harm stops the queue, and may leave a freed clone. -/
theorem busy_result (busy : (ndoStartXmit call linearized state).1 = netdevTxBusy)
    (harmless : CallHarmless call state) :
    (ndoStartXmit call linearized state).2.priv.waitingTxtsSkb = state.priv.waitingTxtsSkb ∧
      (∃ dead : List Clone,
        (ndoStartXmit call linearized state).2.priv.clones = state.priv.clones ++ dead ∧
          ∀ clone ∈ dead, clone.refs = 0) ∧
      (ndoStartXmit call linearized state).2.side = { state.side with queueStopped := true } ∧
      (ndoStartXmit call linearized state).2.inProgress = state.inProgress := by
  rcases send_packet_cases call with
    ⟨unasked, sent⟩ | ⟨_, _, sent⟩ | ⟨_, _, off, sent⟩ | ⟨keeps, sent⟩
  · have keeps : ¬ call.Keeps := fun kept => Bool.false_ne_true (unasked.symm.trans kept.1)
    rw [ndo_some call linearized state _ (congrArg Prod.fst (sent state.priv))] at busy ⊢
    have side := (busy_waiting linearized call.skb _ state.side busy).1
    simp [sentState, sent, keeps, side]
  · rw [ndo_none call linearized state (congrArg Prod.fst (sent state.priv))] at busy
    have apart : -eagain ≠ netdevTxBusy := by decide
    exact absurd busy apart
  · have keeps : ¬ call.Keeps := fun kept => off kept.2.2
    rw [ndo_some call linearized state _ (congrArg Prod.fst (sent state.priv))] at busy ⊢
    have side := (busy_waiting linearized call.skb _ state.side busy).1
    simp [sentState, sent, keeps, side]
  · have empty := (harmless keeps.1).2.resolve_left (not_not_intro keeps.2.2)
    rw [ndo_some call linearized state _ (congrArg Prod.fst (sent state.priv))] at busy
    exact absurd empty (busy_waiting linearized call.skb _ state.side busy).2

end Calls

/-- What may differ from one submission of an skb to the next. -/
structure Attempt where
  txType : Nat
  cloned : Bool
  stack : Nat
  linearized : Bool

def Attempt.call (attempt : Attempt) (skb : Skb) (hwTstamp : Bool) : SendCall :=
  ⟨skb, hwTstamp, attempt.txType, attempt.cloned, attempt.stack⟩

/-- Whatever the SPI thread does to its part between two calls. -/
def SendState.change (state : SendState) (spi : TxState → TxState) : SendState :=
  { state with side := { state.side with tx := spi state.side.tx } }

/-- The queue runs again, so that the kernel resubmits. -/
def SendState.resume (state : SendState) : SendState :=
  { state with side := { state.side with queueStopped := false } }

def Lan865xPriv.slotClone (priv : Lan865xPriv) (id : Nat) : Option Clone :=
  (priv.waitingTxtsSkb id).bind fun clone => priv.clones[clone]?

/-- The clones that are still referred to. -/
def Lan865xPriv.live (priv : Lan865xPriv) : List Clone := priv.clones.filter (0 < Clone.refs ·)

/-- The same, up to the numbers of the clones and those freed. -/
def SameView (first second : Lan865xPriv) : Prop :=
  first.slotClone = second.slotClone ∧ first.live = second.live

/-- The first has freed clones behind the clones of the second. -/
structure DeadBehind (first second : Lan865xPriv) : Prop where
  slots : first.waitingTxtsSkb = second.waitingTxtsSkb
  clones : ∃ dead : List Clone, first.clones = second.clones ++ dead ∧
    ∀ clone ∈ dead, clone.refs = 0

theorem live_dead (clones dead : List Clone) (freed : ∀ clone ∈ dead, clone.refs = 0) :
    (clones ++ dead).filter (0 < Clone.refs ·) = clones.filter (0 < Clone.refs ·) := by
  have none : dead.filter (0 < Clone.refs ·) = [] := by
    rw [List.filter_eq_nil_iff]
    intro clone member
    simp [freed clone member]
  rw [List.filter_append, none, List.append_nil]

theorem dead_behind_view {first second : Lan865xPriv} (behind : DeadBehind first second)
    (known : SlotsKnown second) : SameView first second := by
  obtain ⟨dead, clones, freed⟩ := behind.clones
  constructor
  · funext id
    simp only [Lan865xPriv.slotClone, behind.slots]
    cases slot : second.waitingTxtsSkb id with
    | none => rfl
    | some clone =>
        have below := known id clone slot
        simp [clones, List.getElem?_append_left below]
  · rw [Lan865xPriv.live, clones]
    exact live_dead second.clones dead freed

/-- A clone more, freed at once, is not seen. -/
theorem dead_view (priv : Lan865xPriv) (known : SlotsKnown priv) (of : Nat) :
    SameView { priv with clones := priv.clones ++ [⟨of, 0⟩] } priv := by
  apply dead_behind_view _ known
  exact ⟨rfl, [⟨of, 0⟩], rfl, by simp⟩

/-- The first part of `lan865x_send_packet` does not see freed clones either. -/
theorem send_view {first second : Lan865xPriv} (behind : DeadBehind first second)
    (knownFirst : SlotsKnown first) (known : SlotsKnown second) (call : SendCall) :
    (lan865xSendPacket first call).1 = (lan865xSendPacket second call).1 ∧
      SameView (lan865xSendPacket first call).2 (lan865xSendPacket second call).2 := by
  have same := dead_behind_view behind known
  rcases send_packet_cases call with
    ⟨_, sent⟩ | ⟨_, _, sent⟩ | ⟨_, _, _, sent⟩ | ⟨_, sent⟩
  · rw [sent first, sent second]
    exact ⟨rfl, same⟩
  · rw [sent first, sent second]
    exact ⟨rfl, same⟩
  · have left := dead_view first knownFirst call.skb.id
    have right := dead_view second known call.skb.id
    rw [sent first, sent second]
    exact ⟨rfl, left.1.trans (same.1.trans right.1.symm), left.2.trans (same.2.trans right.2.symm)⟩
  · obtain ⟨dead, clones, freed⟩ := behind.clones
    rw [sent first, sent second]
    refine ⟨rfl, ?_, ?_⟩
    · funext id
      by_cases here : id = call.slot
      · subst here
        simp [Lan865xPriv.slotClone]
      · simp only [Lan865xPriv.slotClone, Function.update_of_ne here, behind.slots]
        cases slot : second.waitingTxtsSkb id with
        | none => rfl
        | some clone =>
            have below := known id clone slot
            simp [clones, List.getElem?_append_left below]
    · simp only [Lan865xPriv.live, clones]
      rw [List.filter_append, live_dead second.clones dead freed, List.filter_append]

section Retries
variable (skb : Skb) (hwTstamp : Bool)

def Attempt.send (attempt : Attempt) (state : SendState) : Int × SendState :=
  ndoStartXmit (attempt.call skb hwTstamp) attempt.linearized state

/-- The same skb is submitted again and again. -/
def retry : SendState → List (Attempt × (TxState → TxState)) → SendState
  | state, [] => state
  | state, (attempt, spi) :: rest => retry ((attempt.send skb hwTstamp state).2.change spi) rest

/-- What the SPI thread does meanwhile, without the submissions. -/
def withoutRetries : SendState → List (Attempt × (TxState → TxState)) → SendState
  | state, [] => state
  | state, (_, spi) :: rest => withoutRetries (state.change spi) rest

/-- A condition on every submission, in the state it is made in. -/
def Along (p : Attempt → SendState → Prop) :
    SendState → List (Attempt × (TxState → TxState)) → Prop
  | _, [] => True
  | state, (attempt, spi) :: rest =>
      p attempt state ∧ Along p ((attempt.send skb hwTstamp state).2.change spi) rest

/-- The same result and the same state, up to the numbers of the clones and those freed. -/
def SameOutcome (first second : Int × SendState) : Prop :=
  first.1 = second.1 ∧ first.2.side = second.2.side ∧ first.2.inProgress = second.2.inProgress ∧
    SameView first.2.priv second.2.priv

def Attempt.Honoured (attempt : Attempt) (state : SendState) : Prop :=
  CallHonoured (attempt.call skb hwTstamp) attempt.linearized state

def Attempt.Harmless (attempt : Attempt) (state : SendState) : Prop :=
  CallHarmless (attempt.call skb hwTstamp) state

def Attempt.Busy (attempt : Attempt) (state : SendState) : Prop :=
  (attempt.send skb hwTstamp state).1 = netdevTxBusy

/-- Every submission honours the contract, and refused ones leave no trace in what the
last one comes to. -/
def OwnershipKept (state : SendState) (attempts : List (Attempt × (TxState → TxState)))
    (last : Attempt) : Prop :=
  Along skb hwTstamp (Attempt.Honoured skb hwTstamp) state attempts ∧
    last.Honoured skb hwTstamp (retry skb hwTstamp state attempts).resume ∧
    (Along skb hwTstamp (Attempt.Busy skb hwTstamp) state attempts →
      SameOutcome (last.send skb hwTstamp (retry skb hwTstamp state attempts).resume)
        (last.send skb hwTstamp (withoutRetries state attempts).resume))

theorem along_congr (p q : Attempt → SendState → Prop)
    (same : ∀ attempt state, p attempt state ↔ q attempt state) (state : SendState)
    (attempts : List (Attempt × (TxState → TxState))) :
    Along skb hwTstamp p state attempts ↔ Along skb hwTstamp q state attempts := by
  induction attempts generalizing state with
  | nil => exact Iff.rfl
  | cons head rest ih => exact and_congr (same head.1 state) (ih _)

/-- The first state is the second with freed clones behind its clones, and perhaps a
stopped queue. -/
structure OnlyDead (first second : SendState) : Prop where
  priv : DeadBehind first.priv second.priv
  side : { first.side with queueStopped := false } = { second.side with queueStopped := false }
  inProgress : first.inProgress = second.inProgress

theorem OnlyDead.refl (state : SendState) : OnlyDead state state :=
  ⟨⟨rfl, [], by simp, by simp⟩, rfl, rfl⟩

/-- A refused submission that does no harm only adds a freed clone. -/
theorem busy_only_dead (first second : SendState) (attempt : Attempt) (same : OnlyDead first second)
    (busy : attempt.Busy skb hwTstamp first) (harmless : attempt.Harmless skb hwTstamp first) :
    OnlyDead (attempt.send skb hwTstamp first).2 second := by
  obtain ⟨slots, ⟨dead, clones, freed⟩, side, inProgress⟩ :=
    busy_result (attempt.call skb hwTstamp) attempt.linearized first busy harmless
  obtain ⟨earlier, before, freedBefore⟩ := same.priv.clones
  constructor
  · constructor
    · exact slots.trans same.priv.slots
    · use earlier ++ dead
      constructor
      · rw [← List.append_assoc, ← before]
        exact clones
      · intro clone member
        rcases List.mem_append.mp member with old | new
        · exact freedBefore clone old
        · exact freed clone new
  · rw [← same.side]
    exact congrArg (fun side : XmitSide => { side with queueStopped := false }) side
  · exact inProgress.trans same.inProgress

theorem OnlyDead.change {first second : SendState} (same : OnlyDead first second)
    (spi : TxState → TxState) : OnlyDead (first.change spi) (second.change spi) := by
  constructor
  · exact same.priv
  · exact congrArg (fun side : XmitSide => { side with tx := spi side.tx }) same.side
  · exact same.inProgress

theorem retry_only_dead (first second : SendState)
    (attempts : List (Attempt × (TxState → TxState))) (same : OnlyDead first second)
    (busy : Along skb hwTstamp (Attempt.Busy skb hwTstamp) first attempts)
    (harmless : Along skb hwTstamp (Attempt.Harmless skb hwTstamp) first attempts) :
    OnlyDead (retry skb hwTstamp first attempts) (withoutRetries second attempts) := by
  induction attempts generalizing first second with
  | nil => exact same
  | cons head rest ih =>
      obtain ⟨attempt, spi⟩ := head
      apply ih
      · apply OnlyDead.change
        exact busy_only_dead skb hwTstamp first second attempt same busy.1 harmless.1
      · exact busy.2
      · exact harmless.2

theorem send_same (first second : SendState) (attempt : Attempt) (same : OnlyDead first second) :
    SameOutcome (attempt.send skb hwTstamp first.resume)
      (attempt.send skb hwTstamp second.resume) := by
  have side : first.resume.side = second.resume.side := same.side
  obtain ⟨mode, view⟩ :=
    send_view same.priv first.known second.known (attempt.call skb hwTstamp)
  have flags : (sentState (attempt.call skb hwTstamp) first.resume).inProgress =
      (sentState (attempt.call skb hwTstamp) second.resume).inProgress := by
    simp only [sentState, SendState.resume, same.inProgress]
  simp only [SameOutcome, Attempt.send]
  cases sent : (lan865xSendPacket second.priv (attempt.call skb hwTstamp)).1 with
  | none =>
      rw [ndo_none _ _ first.resume (mode.trans sent), ndo_none _ _ second.resume sent]
      exact ⟨rfl, side, flags, view⟩
  | some tsCaptureMode =>
      rw [ndo_some _ _ first.resume _ (mode.trans sent), ndo_some _ _ second.resume _ sent, side]
      exact ⟨rfl, rfl, flags, view⟩

theorem ownership_kept_iff (state : SendState)
    (attempts : List (Attempt × (TxState → TxState))) (last : Attempt) :
    OwnershipKept skb hwTstamp state attempts last ↔
      Along skb hwTstamp (Attempt.Harmless skb hwTstamp) state attempts ∧
        last.Harmless skb hwTstamp (retry skb hwTstamp state attempts).resume := by
  have each : ∀ attempt state, Attempt.Honoured skb hwTstamp attempt state ↔
      Attempt.Harmless skb hwTstamp attempt state := fun attempt state =>
    call_honoured_iff (attempt.call skb hwTstamp) attempt.linearized state
  have all := along_congr skb hwTstamp _ _ each state attempts
  constructor
  · rintro ⟨honoured, lastHonoured, _⟩
    exact ⟨all.mp honoured, (each _ _).mp lastHonoured⟩
  · rintro ⟨harmless, lastHarmless⟩
    refine ⟨all.mpr harmless, (each _ _).mpr lastHarmless, ?_⟩
    intro busy
    apply send_same
    exact retry_only_dead skb hwTstamp state state attempts (OnlyDead.refl state) busy harmless

end Retries

section Samples

/-- An skb waits, and nothing else has happened yet. -/
def busyState : SendState where
  priv := initPriv
  known := fun _ _ slot => absurd slot (by simp [initPriv])
  side := ⟨{ initTx (fun _ => ⟨0#32, fun _ => 0⟩) with waitingTxSkb := some (gptpCall 0).skb },
    false, false, []⟩
  inProgress := fun _ => false

/-- A gPTP frame is refused, with its clone in the slot all the same. -/
theorem ownership_kept_not :
    ¬ OwnershipKept (gptpCall 1).skb true busyState [] ⟨hwtstampTxOn, true, 0, true⟩ := by
  rintro ⟨_, honoured, _⟩
  have harmless := (call_honoured_iff _ _ _).mp honoured rfl
  rcases harmless.2 with off | empty
  · exact off rfl
  · exact absurd empty (by simp [retry, SendState.resume, busyState])

end Samples

end Lan865x.OaTc6

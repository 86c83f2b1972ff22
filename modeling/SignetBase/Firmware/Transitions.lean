/-
  SignetBase/Firmware/Transitions.lean
  ====================================
  **What one event can do to the control state.**

  Two inversion lemmas: `handled_stateFunction` for a command that a state
  function takes, `tick_step` for every event that is not a packet.  Each lists
  all the changes of device state, waits and active command there are, with the
  conditions they happen under.
-/
import SignetBase.Firmware.Control

namespace SignetBase.Firmware

open Control

variable (P : Platform)

/-! ### Commands -/

/-- The two kinds of button press. -/
inductive PressKind where
  | short | long
deriving DecidableEq, Repr

/-- The press a command waits for before it does its work, if any. -/
def pressKind : Command → Option PressKind
  | .login | .loginToken | .updateUid | .readUid | .buttonWait | .readCleartextPassword
  | .writeCleartextPassword => some .short
  | .updateUids | .readAllUids | .updateFirmware | .wipe | .backupDevice | .restoreDevice
  | .initializeDevice | .changeMasterPassword => some .long
  | _ => none

/-- The wait of a kind is pending. -/
def Control.waits (c : Control) : PressKind → Bool
  | .short => c.waitingForButtonPress
  | .long => c.waitingForLongButtonPress

/-- The control state after a wait was begun. -/
def Control.beginWait (c : Control) : PressKind → Control
  | .short => { c with waitingForButtonPress := true }
  | .long => { c with waitingForLongButtonPress := true }

/-- The control state after a wait was ended. -/
def Control.endWait (c : Control) : PressKind → Control
  | .short => { c with waitingForButtonPress := false }
  | .long => { c with waitingForLongButtonPress := false }

theorem Control.Clears.waits {c c' : Control} (h : c.Clears c') (k : PressKind) :
    c'.waits k = c.waits k := by
  cases h <;> cases k <;> rfl

theorem Control.Reaches.waits {c c' : Control} {st : DeviceState} (h : c.Reaches st c')
    (k : PressKind) : c'.waits k = c.waits k := by
  obtain ⟨c₁, h₁, h₂⟩ := h
  calc c'.waits k = (c₁.enter st).waits k := h₂.waits k
    _ = c₁.waits k := by cases k <;> rfl
    _ = c.waits k := h₁.waits k

/-- The device states that a command enters without a press. -/
inductive Enters (c : Control) : Command → DeviceState → Prop where
  | logout : c.deviceState = .loggedIn → Enters c .logout .loggedOut
  | backupDone : c.deviceState = .backingUpDevice → Enters c .backupDeviceDone c.backupPrevState
  | restoreDone : c.deviceState = .restoringDevice → Enters c .restoreDeviceDone .disconnected
  | erase : c.deviceState = .firmwareUpdate → Enters c .eraseFlashPages .erasingPages

/-- What handling a command can do to the control state. -/
inductive Handled (cmd : Command) (c : Control) : Control → Prop where
  | answered {c'} : c.Clears c' → Handled cmd c c'
  | waiting {k} : pressKind cmd = some k → Handled cmd c (c.beginWait k)
  | stuck : Handled cmd c { c with hung := true }
  | entered {st c'} : Enters c cmd st → c.Reaches st c' → Handled cmd c c'
  | disconnected : cmd = .enterMobileMode →
      Handled cmd c
        { c with
          activeCmd := none
          deviceState := .disconnected
          waitingForButtonPress := false
          waitingForLongButtonPress := false }

namespace Handled

variable {cmd : Command} {c c' : Control}

theorem of_finish (h : c' = c.finish 0) : Handled cmd c c' := h ▸ .answered (clears_finish c 0)

/-- A handler answers at once or begins the wait of its command. -/
theorem of_finish_or_wait {k : PressKind} (hk : pressKind cmd = some k)
    (h : c' = c.finish 0 ∨ c' = c.beginWait k) : Handled cmd c c' := by
  rcases h with h | rfl
  · exact of_finish h
  · exact .waiting hk

end Handled

variable {s s' : Dev}

theorem handled_progressOnlyState {cmd : Command} {data : Mem} {dataLen : Int}
    (h : progressOnlyState cmd data dataLen s = .handled s') :
    Handled cmd s.toControl s'.toControl := by
  unfold progressOnlyState at h
  split at h
  · cases h
    exact .answered (clears_getProgressCmd _ _ _)
  · cases h

theorem handled_uninitializedState {cmd : Command} {data : Mem} {dataLen : Int}
    (h : uninitializedState P cmd data dataLen s = .handled s') :
    Handled cmd s.toControl s'.toControl := by
  unfold uninitializedState at h
  split at h
  · cases h
    exact .answered (clears_getProgressCmd _ _ _)
  · cases h
    exact .waiting (k := .long) rfl
  · cases h
    exact .of_finish_or_wait rfl ((toControl_initializeCmd _ _ _).imp_right And.right)
  · cases h
    exact .of_finish rfl
  · cases h
    exact .disconnected rfl
  · split at h
    · cases h
      exact .waiting (k := .long) rfl
    · cases h
      exact .of_finish rfl
  · cases h

theorem handled_loggedOutState {cmd : Command} {data : Mem} {dataLen : Int}
    (h : loggedOutState P cmd data dataLen s = .handled s') :
    Handled cmd s.toControl s'.toControl := by
  unfold loggedOutState at h
  split at h
  · cases h
    exact .answered (clears_getProgressCmd _ _ _)
  · cases h
    exact .of_finish_or_wait rfl (toControl_changeMasterPasswordCmd _ _ _ _)
  · cases h
    exact .of_finish_or_wait rfl ((toControl_initializeCmd _ _ _).imp_right And.right)
  · cases h
    exact .waiting (k := .long) rfl
  · cases h
    exact .waiting (k := .long) rfl
  · cases h
    exact .waiting (k := .long) rfl
  · cases h
    exact .of_finish_or_wait rfl ((toControl_loginCmd _ _ _).imp_right And.right)
  · cases h
    exact .of_finish_or_wait rfl ((toControl_loginTokenCmd _ _ _).imp_right And.right)
  · cases h
    exact .of_finish rfl
  · cases h
    exact .disconnected rfl
  · cases h

/-- A round of READ_ALL_UIDS as part of handling a command. -/
theorem handled_readAll {cmd : Command} {c c' : Control}
    (h : (∃ mr, c' = c.finish mr) ∨ c' = { c with hung := true }) : Handled cmd c c' := by
  rcases h with ⟨mr, rfl⟩ | rfl
  · exact .answered (clears_finish _ _)
  · exact .stuck

theorem handled_updateUidPacket {cmd : Command} (hcmd : cmd = .updateUid ∨ cmd = .updateUids)
    (data : Mem) (dataLen : Int) :
    Handled cmd s.toControl (updateUidPacket P cmd data dataLen s).toControl := by
  unfold updateUidPacket
  simp only
  split
  · exact .of_finish rfl
  · rcases toControl_updateUidCmd P s (data.get16 0)
      (data.read 4 (sizeToSubBlkCount (data.get16 2) * SUB_BLK_SIZE)) (data.get16 2)
      (updatePressType cmd s) with h | ⟨-, h⟩ | ⟨hp, h⟩ | ⟨hp0, hp1, h⟩
    · exact .of_finish h
    · exact h ▸ .answered .same
    · -- the short press belongs to UPDATE_UID, the long one to UPDATE_UIDS
      rcases hcmd with rfl | rfl
      · exact h ▸ Handled.waiting (k := .short) rfl
      · unfold updatePressType at hp
        rw [if_neg (by decide)] at hp
        split at hp <;> exact absurd hp (by decide)
    · rcases hcmd with rfl | rfl
      · exact absurd rfl hp1
      · exact h ▸ Handled.waiting (k := .long) rfl

theorem handled_loggedInState {cmd : Command} {data : Mem} {dataLen : Int}
    (hst : s.deviceState = .loggedIn)
    (h : loggedInState P cmd data dataLen s = .handled s') :
    Handled cmd s.toControl s'.toControl := by
  unfold loggedInState at h
  split at h
  · cases h
    exact .answered (clears_getProgressCmd _ _ _)
  · cases h
    exact .of_finish_or_wait rfl (toControl_changeMasterPasswordCmd _ _ _ _)
  · cases h
    exact .waiting (k := .long) rfl
  · cases h
    exact .answered (clears_getRandBitsCmd _ _ _)
  · cases h
    unfold readUidPacket
    split
    · exact .of_finish rfl
    · exact .of_finish_or_wait rfl ((toControl_readUidCmd _ _ _ _).imp_right And.right)
  · cases h
    exact handled_updateUidPacket P (.inr rfl) _ _
  · cases h
    exact handled_updateUidPacket P (.inl rfl) _ _
  · cases h
    unfold readAllUidsPacket
    split
    · exact .of_finish rfl
    · rcases toControl_readAllUidsCmd P s (data 0).toNat with h | ⟨-, h⟩
      · exact handled_readAll h
      · exact h ▸ Handled.waiting (k := .long) rfl
  · cases h
    rcases toControl_typeCmd s data dataLen with h | h
    · exact .answered h
    · exact h ▸ .stuck
  · cases h
    exact .waiting (k := .short) rfl
  · cases h
    exact .entered (.logout hst) ((reaches_enterState .same).finish 0)
  · cases h
    exact .waiting (k := .long) rfl
  · cases h
    exact .of_finish rfl
  · cases h
    exact .of_finish_or_wait rfl (toControl_readCleartextPassword _ _ _)
  · cases h
    exact .of_finish_or_wait rfl (toControl_writeCleartextPassword _ _ _)
  · cases h

/-- **What a command that is taken can do**: be answered, begin its own wait,
    enter one of the states that need no press, disconnect, or get stuck. -/
theorem handled_stateFunction {cmd : Command} {data : Mem} {dataLen : Int}
    (h : stateFunction P cmd data dataLen s = .handled s') :
    Handled cmd s.toControl s'.toControl := by
  unfold stateFunction at h
  split at h
  · exact handled_uninitializedState P h
  · exact handled_progressOnlyState h
  · exact handled_progressOnlyState h
  · rename_i hst
    unfold backingUpDeviceState at h
    split at h
    · cases h
      exact .of_finish (toControl_readBlockCmd _ _ _ _)
    · cases h
      exact .entered (.backupDone hst) ((reaches_enterState .same).finish 0)
    · cases h
  · rename_i hst
    unfold restoringDeviceState at h
    split at h
    · cases h
      exact .answered (clears_writeBlockCmd _ _ _)
    · cases h
      exact .answered (clears_eraseBlockCmd _ _ _)
    · cases h
      exact .entered (.restoreDone hst) ((reaches_enterState .same).finish 0)
    · cases h
  · exact handled_progressOnlyState h
  · rename_i hst
    unfold firmwareUpdateState at h
    split at h
    · cases h
      rcases toControl_eraseFlashPagesCmd s data dataLen with h | h | h
      · exact .answered h
      · exact h ▸ .stuck
      · exact .entered (.erase hst) h
    · cases h
      exact .answered (clears_writeFlashCmd _ _ _)
    · cases h
    · cases h
  · exact handled_loggedOutState P h
  · rename_i hst
    exact handled_loggedInState P hst h
  · cases h
  · cases h
  · cases h

/-! ### Packets -/

@[simp] theorem toControl_countIteration (mr : Nat) :
    (countIteration mr s).toControl =
      if mr ≠ 0 then { s.toControl with cmdIterCount := s.cmdIterCount + 1 } else s.toControl := by
  unfold countIteration
  split <;> rfl

@[simp] theorem deviceState_countIteration (mr : Nat) :
    (countIteration mr s).deviceState = s.deviceState := by
  unfold countIteration
  split <;> rfl

/-- The command of a packet that is neither refused for its length nor special
    to `cmd_packet_recv`. -/
def ordinary (cmd : Command) : Prop :=
  cmd ≠ .disconnect ∧ cmd ≠ .cancelButtonPress ∧ cmd ≠ .startup ∧ cmd ≠ .getDeviceState

/-- The ways `cmd_packet_recv` can end, from the state with the packet in its
    buffer. -/
inductive Received (s : Dev) : Dev → Prop where
  | disconnect : packetCmd s.cmdPacketBuf = .disconnect → Received s (cmdDisconnect s)
  | ignored : packetCmd s.cmdPacketBuf = .cancelButtonPress → s.activeCmd ≠ none →
      waiting s = false → Received s s
  | canceled : packetCmd s.cmdPacketBuf = .cancelButtonPress → s.activeCmd ≠ none →
      waiting s = true →
      Received s (finishCommandResp .buttonPressCanceled (endButtonPressWait s))
  | misfire : packetCmd s.cmdPacketBuf = .cancelButtonPress → s.activeCmd = none →
      Received s { activate s with activeCmd := none }
  | startup : packetCmd s.cmdPacketBuf = .startup → Received s (startupCmd P (activate s))
  | getDeviceState : packetCmd s.cmdPacketBuf = .getDeviceState →
      Received s (finishCommand .okay [s.deviceState.code] (activate s))
  | tooLong : ordinary (packetCmd s.cmdPacketBuf) →
      packetDataLen s.cmdPacketBuf > CMD_PACKET_PAYLOAD_SIZE →
      Received s (finishCommandResp .invalidInput (activate s))
  | rejected : ordinary (packetCmd s.cmdPacketBuf) →
      packetDataLen s.cmdPacketBuf ≤ CMD_PACKET_PAYLOAD_SIZE →
      dispatch P (activate s) = .rejected →
      Received s (countIteration (packetMessagesRemaining s.cmdPacketBuf)
        (finishCommandResp .invalidState (activate s)))
  | handled {s₂} : ordinary (packetCmd s.cmdPacketBuf) →
      packetDataLen s.cmdPacketBuf ≤ CMD_PACKET_PAYLOAD_SIZE →
      dispatch P (activate s) = .handled s₂ →
      Received s (countIteration (packetMessagesRemaining s.cmdPacketBuf) s₂)

theorem received_cmdPacketRecv (h : cmdPacketRecv P s = some s') : Received P s s' := by
  have hbuf : (activate s).cmdPacketBuf = s.cmdPacketBuf := rfl
  unfold cmdPacketRecv at h
  simp only at h
  split at h
  · cases h
    exact .disconnect ‹_›
  · rename_i hd
    split at h
    · rename_i hc
      split at h
      · cases h
        exact .canceled hc.1 hc.2 ‹_›
      · cases h
        exact .ignored hc.1 hc.2 (by simpa using ‹¬ waiting s = true›)
    · rename_i hc
      unfold runPacket at h
      simp only [hbuf] at h
      split at h
      · cases h
        exact .startup ‹_›
      · rename_i hs
        split at h
        · cases h
          exact .getDeviceState ‹_›
        · rename_i hg
          split at h
          · rename_i hcb
            cases h
            exact .misfire hcb (by simpa [hcb] using hc)
          · rename_i hcb
            have hord : ordinary (packetCmd s.cmdPacketBuf) := ⟨hd, hcb, hs, hg⟩
            split at h
            · cases h
              exact .tooLong hord ‹_›
            · have hlen : packetDataLen s.cmdPacketBuf ≤ CMD_PACKET_PAYLOAD_SIZE := by omega
              split at h
              · cases h
                exact .rejected hord hlen ‹_›
              · cases h
                exact .handled hord hlen ‹_›
              · cases h

/-- The state `cmd_packet_recv` runs in, when the event completes a command
    packet. -/
def delivered (s : Dev) : Event → Option Dev
  | .hidRx packet =>
    if ¬ s.hung ∧ rxFits packet ∧ rxLast packet then some (rxStore packet s) else none
  | _ => none

theorem delivered_of_ne {e : Event} (he : ∀ packet, e ≠ .hidRx packet) : delivered s e = none := by
  cases e with
  | hidRx packet => exact absurd rfl (he packet)
  | _ => rfl

/-- Storing a HID packet changes the packet buffer only. -/
theorem delivered_eq {e : Event} {s₀ : Dev} (h : delivered s e = some s₀) :
    s₀.toControl = s.toControl ∧ s₀.cmdData = s.cmdData := by
  cases e with
  | hidRx packet =>
    simp only [delivered] at h
    split at h
    · cases h
      exact ⟨rfl, rfl⟩
    · cases h
  | _ => cases h

theorem delivered_outputs {e : Event} {s₀ : Dev} (h : delivered s e = some s₀) :
    s₀.outputs = s.outputs := by
  cases e with
  | hidRx packet =>
    simp only [delivered] at h
    split at h
    · cases h
      rfl
    · cases h
  | _ => cases h

/-- A HID packet that completes no command. -/
theorem step_undelivered {packet : Bytes} (h : delivered s (.hidRx packet) = none) :
    (step P s (.hidRx packet)).toControl = s.toControl ∧
      (step P s (.hidRx packet)).cmdData = s.cmdData := by
  unfold delivered at h
  unfold step usbRawHidRx
  split
  · exact ⟨rfl, rfl⟩
  · by_cases hf : rxFits packet = true
    · by_cases hl : rxLast packet = true
      · simp [*] at h
      · simp only [hf, hl]
        exact ⟨rfl, rfl⟩
    · simp only [hf]
      exact ⟨rfl, rfl⟩

/-- A packet that `cmd_packet_recv` ends in a reset for. -/
theorem step_reset_eq {e : Event} {s₀ : Dev} (h : delivered s e = some s₀)
    (hr : cmdPacketRecv P s₀ = none) :
    step P s e = { powerOn P s₀.flash with outputs := s₀.outputs } := by
  cases e with
  | hidRx packet =>
    simp only [delivered] at h
    split at h
    · rename_i hcond
      cases h
      unfold step usbRawHidRx
      rw [if_neg hcond.1]
      simp only [hcond.2.1, hcond.2.2, if_true, hr]
      rfl
    · cases h
  | _ => cases h

theorem step_reset {e : Event} {s₀ : Dev} (h : delivered s e = some s₀)
    (hr : cmdPacketRecv P s₀ = none) :
    (step P s e).toControl = (powerOn P s₀.flash).toControl := by
  rw [step_reset_eq P h hr]

/-- A packet that `cmd_packet_recv` handles. -/
theorem step_recv {e : Event} {s₀ : Dev} (h : delivered s e = some s₀)
    (hr : cmdPacketRecv P s₀ = some s') : step P s e = s' := by
  cases e with
  | hidRx packet =>
    simp only [delivered] at h
    split at h
    · rename_i hcond
      cases h
      unfold step usbRawHidRx
      rw [if_neg hcond.1]
      simp only [hcond.2.1, hcond.2.2, if_true, hr]
    · cases h
  | _ => cases h

/-- A packet that completes a command: the device resets, or `cmd_packet_recv`
    ends in one of its ways. -/
theorem step_delivered {e : Event} {s₀ : Dev} (h : delivered s e = some s₀) :
    (step P s e).toControl = (powerOn P s₀.flash).toControl ∨ Received P s₀ (step P s e) := by
  cases hr : cmdPacketRecv P s₀ with
  | none => exact .inl (step_reset P h hr)
  | some s' =>
    rw [step_recv P h hr]
    exact .inr (received_cmdPacketRecv P hr)

/-- A HID packet has no output unless it completes a command that
    `cmd_packet_recv` handles. -/
theorem outputs_hidRx {packet : Bytes} (h : ∀ s₀, delivered s (.hidRx packet) = some s₀ →
    cmdPacketRecv P s₀ = none) : (step P s (.hidRx packet)).outputs = s.outputs := by
  unfold delivered at h
  unfold step usbRawHidRx
  split
  · rfl
  · by_cases hf : rxFits packet = true
    · by_cases hl : rxLast packet = true
      · have hnone := h (rxStore packet s) (by simp [*])
        simp only [hf, hl, if_true, hnone]
      · simp only [hf, hl]
        rfl
    · simp only [hf]
      rfl

/-- Handling a packet that was dispatched. -/
theorem handled_dispatch {s₁ s₂ : Dev} (h : dispatch P s₁ = .handled s₂) :
    Handled (packetCmd s₁.cmdPacketBuf) s₁.toControl s₂.toControl :=
  handled_stateFunction P h

/-- The active command of a state that a dispatched packet leads to. -/
theorem activeCmd_handled {cmd : Command} {c c' : Control} (hactive : c.activeCmd = some cmd)
    (hh : Handled cmd c c') : c'.activeCmd = some cmd ∨ c'.activeCmd = none := by
  cases hh with
  | answered h => exact h.activeCmd.imp (·.trans hactive) id
  | waiting hk =>
    rename_i k
    cases k <;> exact .inl hactive
  | stuck => exact .inl hactive
  | entered _ h => exact h.activeCmd.imp (·.trans hactive) id
  | disconnected _ => exact .inr rfl

/-- The device states a packet leads to. -/
inductive PacketEnters (s : Dev) : DeviceState → Prop where
  | stays : PacketEnters s s.deviceState
  | leaves {st} : st = .disconnected ∨ st = .uninitialized ∨ st = .loggedOut ∨
      st = .erasingPages → PacketEnters s st
  | backupDone : packetCmd s.cmdPacketBuf = .backupDeviceDone →
      s.deviceState = .backingUpDevice → PacketEnters s s.backupPrevState

theorem packetEnters_received (hr : Received P s s') : PacketEnters s s'.deviceState := by
  cases hr with
  | disconnect _ => exact .leaves (.inl rfl)
  | ignored _ _ _ => exact .stays
  | canceled _ _ _ => exact .stays
  | misfire _ _ => exact .stays
  | startup _ =>
    obtain ⟨st, hor, hreach⟩ := reaches_startupCmd P (activate s)
    rw [hreach.deviceState]
    rcases hor with rfl | rfl
    · exact .leaves (.inr (.inl rfl))
    · exact .leaves (.inr (.inr (.inl rfl)))
  | getDeviceState _ => exact .stays
  | tooLong _ _ => exact .stays
  | rejected _ _ _ =>
    rw [deviceState_countIteration]
    exact .stays
  | @handled s₂ _ _ hdisp =>
    rw [deviceState_countIteration]
    have hh := handled_dispatch P hdisp
    generalize s₂.toControl = c₂ at hh
    cases hh with
    | answered h =>
      rw [h.deviceState]
      exact .stays
    | @waiting k _ => cases k <;> exact .stays
    | stuck => exact .stays
    | entered he h =>
      rw [h.deviceState]
      generalize hcmd : packetCmd (activate s).cmdPacketBuf = cmd at he
      cases he with
      | logout _ => exact .leaves (.inr (.inr (.inl rfl)))
      | backupDone hst => exact .backupDone hcmd hst
      | restoreDone _ => exact .leaves (.inl rfl)
      | erase _ => exact .leaves (.inr (.inr (.inr rfl)))
    | disconnected _ => exact .leaves (.inl rfl)

/-! ### Events that are not packets -/

/-- The device states a flash completion enters. -/
inductive FlashEnters : DeviceState → DeviceState → Prop where
  | initialized : FlashEnters .initializing .loggedOut
  | inconsistent : FlashEnters .initializing .uninitialized
  | wiped : FlashEnters .wiping .uninitialized
  | erased : FlashEnters .erasingPages .firmwareUpdate

/-- The device states a long press enters for the active command. -/
inductive LongEnters : Command → DeviceState → Prop where
  | updateFirmware : LongEnters .updateFirmware .firmwareUpdate
  | wipe : LongEnters .wipe .wiping
  | restoreDevice : LongEnters .restoreDevice .restoringDevice
  | initializeDevice : LongEnters .initializeDevice .initializing

/-- The key material in `cmd_data` logs in, against the stored data. -/
def LoginSucceeds (s : Dev) : Prop :=
  s.rootPage RootPage.signature = 2 ∧
    (s.activeCmd = some .login ∧
        (attemptLogin P s (s.cmdData.read CmdData.loginPassword AES_256_KEY_SIZE)).isSome ∨
      s.activeCmd = some .loginToken ∧
        (attemptLoginToken P s (s.cmdData.read CmdData.loginTokenToken AES_256_KEY_SIZE)).isSome)

/-- The event is a press of this kind, and the wait for it is pending. -/
def Pressed (s : Dev) : PressKind → Event → Prop
  | .short, e => e = .buttonDown ∧ s.buttonState = false ∧ s.waitingForButtonPress = true
  | .long, e => e = .buttonHeld ∧ s.buttonState = true ∧ s.waitingForLongButtonPress = true

/-- `blink_timeout` ends the pending waits. -/
def TimesOut (s : Dev) (e : Event) : Prop :=
  e = .blinkTimeout ∧ s.hung = false ∧ s.blinking = true ∧ s.blinkPaused = false ∧
    waiting s = true

/-- What an event other than a packet can do to the control state. -/
inductive Tick (s : Dev) : Event → Control → Prop where
  | quiet {e c'} : s.toControl.Clears c' → Tick s e c'
  | stuck {e} : s.activeCmd = some .readAllUids → Tick s e { s.toControl with hung := true }
  | pressed {c'} : s.buttonState = false → s.waitingForButtonPress = true →
      (s.toControl.endWait .short).Clears c' → Tick s .buttonDown c'
  | loggedIn {c'} : s.buttonState = false → s.waitingForButtonPress = true → LoginSucceeds P s →
      (s.toControl.endWait .short).Reaches .loggedIn c' → Tick s .buttonDown c'
  | held {c'} : Pressed s .long .buttonHeld → (s.toControl.endWait .long).Clears c' →
      Tick s .buttonHeld c'
  | heldStuck : Pressed s .long .buttonHeld → s.activeCmd = some .readAllUids →
      Tick s .buttonHeld { s.toControl.endWait .long with hung := true }
  | heldEntered {cmd st c'} : Pressed s .long .buttonHeld → s.activeCmd = some cmd →
      LongEnters cmd st → (s.toControl.endWait .long).Reaches st c' → Tick s .buttonHeld c'
  | heldBackup {c₁ c'} : Pressed s .long .buttonHeld → s.activeCmd = some .backupDevice →
      (s.toControl.endWait .long).Clears c₁ →
      Clears ({ c₁ with backupPrevState := s.deviceState }.enter .backingUpDevice) c' →
      Tick s .buttonHeld c'
  | timeout {c'} : TimesOut s .blinkTimeout →
      ((s.toControl.endWait .short).endWait .long).Clears c' → Tick s .blinkTimeout c'
  | token {e c'} : s.activeCmd = some .login →
      s.deviceState = .initializing ∨ s.cmdData.get32 CmdData.loginAuthenticated ≠ 0 →
      s.toControl.Reaches .loggedIn c' → Tick s e c'
  | flashed {e st c'} : FlashEnters s.deviceState st → s.toControl.Reaches st c' → Tick s e c'

theorem initializingWriteComplete_cases (s : Dev) :
    s.toControl.Clears (initializingWriteComplete P s).toControl ∨
      (∃ st, (st = .loggedOut ∨ st = .uninitialized) ∧
        s.toControl.Reaches st (initializingWriteComplete P s).toControl) := by
  unfold initializingWriteComplete
  simp only
  generalize hs₁ : getProgressCheck _ = s₁
  have h₁ : s.toControl.Clears s₁.toControl := by
    rw [← hs₁]
    refine Clears.trans ?_ (clears_getProgressCheck _)
    exact .same
  split
  · rw [toControl_writeInitialBlock]
    exact .inl h₁
  · split
    · rw [toControl_finalizeRootPageCheck]
      exact .inl h₁
    · right
      split
      · refine ⟨_, .inl rfl, reaches_enterState ?_⟩
        rw [toControl_db2StartupScan]
        exact h₁
      · refine ⟨_, .inr rfl, reaches_enterState ?_⟩
        rw [toControl_db2StartupScan]
        exact h₁

theorem wipingWriteComplete_cases (s : Dev) :
    s.toControl.Clears (wipingWriteComplete s).toControl ∨
      s.toControl.Reaches .uninitialized (wipingWriteComplete s).toControl := by
  unfold wipingWriteComplete
  simp only
  generalize hs₁ : getProgressCheck _ = s₁
  have h₁ : s.toControl.Clears s₁.toControl := by
    rw [← hs₁]
    refine Clears.trans ?_ (clears_getProgressCheck _)
    exact .same
  split
  · exact .inr (reaches_enterState h₁)
  · rw [toControl_flashWritePage]
    exact .inl h₁

theorem erasingPagesWriteComplete_cases (s : Dev) :
    s.toControl.Clears (erasingPagesWriteComplete s).toControl ∨
      s.toControl.Reaches .firmwareUpdate (erasingPagesWriteComplete s).toControl := by
  unfold erasingPagesWriteComplete
  simp only
  generalize hs₁ : getProgressCheck _ = s₁
  have h₁ : s.toControl.Clears s₁.toControl := by
    rw [← hs₁]
    refine Clears.trans ?_ (clears_getProgressCheck _)
    exact .same
  split
  · exact .inr (reaches_enterState h₁)
  · rw [toControl_flashWritePage]
    exact .inl h₁

theorem stateWriteComplete_cases (s : Dev) :
    s.toControl.Clears (stateWriteComplete P s).toControl ∨
      ∃ st, FlashEnters s.deviceState st ∧
        s.toControl.Reaches st (stateWriteComplete P s).toControl := by
  unfold stateWriteComplete
  split
  · rename_i hst
    rcases initializingWriteComplete_cases P s with h | ⟨st, rfl | rfl, h⟩
    · exact .inl h
    · exact .inr ⟨_, hst ▸ .initialized, h⟩
    · exact .inr ⟨_, hst ▸ .inconsistent, h⟩
  · rename_i hst
    exact (wipingWriteComplete_cases s).imp_right fun h => ⟨_, hst ▸ .wiped, h⟩
  · rename_i hst
    exact (erasingPagesWriteComplete_cases s).imp_right fun h => ⟨_, hst ▸ .erased, h⟩
  · exact .inl .same

theorem clears_commandWriteComplete (s : Dev) :
    s.toControl.Clears (commandWriteComplete P s).toControl := by
  unfold commandWriteComplete
  split
  · exact clears_finish _ _
  · exact clears_finish _ _
  · exact clears_finish _ _
  · exact clears_finish _ _
  · exact clears_finish _ _
  · exact clears_updateUidCmdWriteFinished P s
  · exact clears_updateUidCmdWriteFinished P s
  · exact clears_startupCmdIter P s
  · exact .same

/-- A flash completion answers the active command, or enters a state first. -/
theorem flashWriteComplete_cases (s : Dev) :
    s.toControl.Clears (flashWriteComplete P s).toControl ∨
      ∃ st, FlashEnters s.deviceState st ∧
        s.toControl.Reaches st (flashWriteComplete P s).toControl := by
  have hcmd := clears_commandWriteComplete P (stateWriteComplete P s)
  rcases stateWriteComplete_cases P s with h | ⟨st, hst, h⟩
  · exact .inl (h.trans hcmd)
  · exact .inr ⟨st, hst, h.trans hcmd⟩

theorem clears_flashWriteFailed (s : Dev) : s.toControl.Clears (flashWriteFailed s).toControl := by
  unfold flashWriteFailed
  split
  · exact clears_finish _ _
  · exact .same

theorem clears_initializingRandUpdate (s : Dev) :
    s.toControl.Clears (initializingRandUpdate P s).toControl := by
  unfold initializingRandUpdate
  simp only [toControl_finalizeRootPageCheck]
  split
  · refine Clears.trans ?_ (clears_getProgressCheck _)
    exact .same
  · exact .same

theorem clears_timerTimeout (s : Dev) : s.toControl.Clears (timerTimeout s).toControl := by
  unfold timerTimeout
  simp only
  split
  · refine Clears.trans ?_ (clears_usbKeyboardType _ _ _)
    exact .same
  · exact .same

theorem clears_buttonReleaseDisconnected (s : Dev) :
    s.toControl.Clears (buttonReleaseDisconnected s).toControl := by
  unfold buttonReleaseDisconnected
  simp only
  split
  · exact .same
  · split
    · refine Clears.trans ?_ (clears_timerTimeout _)
      exact .same
    · refine Clears.trans ?_ (clears_usbKeyboardType _ _ _)
      exact .same

theorem clears_longButtonPressDisconnected (s : Dev) :
    s.toControl.Clears (longButtonPressDisconnected P s).toControl := by
  unfold longButtonPressDisconnected
  simp only
  split
  · split
    · refine Clears.trans ?_ (clears_usbKeyboardType _ _ _)
      exact .same
    · exact clears_timerTimeout s
  · exact .same

theorem clears_usbTxKeyboard (s : Dev) : s.toControl.Clears (usbTxKeyboard s).toControl := by
  unfold usbTxKeyboard
  split
  · split
    · refine Clears.trans ?_ (clears_usbKeyboardTypingDone _)
      exact .same
    · exact .same
  · exact .same

@[simp] theorem toControl_usbKeyboardIdle (elapsed : Bool) (s : Dev) :
    (usbKeyboardIdle elapsed s).toControl = s.toControl := by
  unfold usbKeyboardIdle
  split <;> rfl

/-! ### Presses -/

theorem toControl_loginPressed (key : Option Bytes) (s : Dev) :
    s.toControl.Clears (loginPressed key s).toControl ∨
      key.isSome ∧ s.toControl.Reaches .loggedIn (loginPressed key s).toControl := by
  unfold loginPressed
  split
  · refine .inr ⟨rfl, reaches_enterState ?_⟩
    exact clears_finish _ _
  · exact .inl (clears_finish _ _)

/-- The action of a short press logs in only with the right key. -/
theorem buttonPressed_cases (s : Dev) :
    s.toControl.Clears (buttonPressed P s).toControl ∨
      LoginSucceeds P s ∧ s.toControl.Reaches .loggedIn (buttonPressed P s).toControl := by
  unfold buttonPressed
  split
  · exact .inl (clears_finish _ _)
  · simp only [toControl_flashWritePage]
    exact .inl .same
  · rename_i hcmd
    split
    · rename_i hsig
      simp only
      split
      · rename_i hkey
        rcases toControl_loginCmdIter P (loginAuthenticated
          ((attemptLogin P s (s.cmdData.read CmdData.loginPassword AES_256_KEY_SIZE)).getD []) s)
          with h | ⟨-, h⟩
        · rw [h]
          exact .inl .same
        · exact .inr ⟨⟨hsig, .inl ⟨hcmd, hkey.1⟩⟩, h⟩
      · exact (toControl_loginPressed _ s).imp_right fun h => ⟨⟨hsig, .inl ⟨hcmd, h.1⟩⟩, h.2⟩
    · exact .inl (clears_finish _ _)
  · rename_i hcmd
    split
    · rename_i hsig
      exact (toControl_loginPressed _ s).imp_right fun h => ⟨⟨hsig, .inr ⟨hcmd, h.1⟩⟩, h.2⟩
    · exact .inl .same
  · rw [toControl_updateUidCmdComplete]
    exact .inl .same
  · exact .inl (clears_finish _ _)
  · exact .inl (clears_finish _ _)
  · exact .inl .same

/-- The action of a long press, by what it does to the control state. -/
theorem longButtonPressed_cases (s : Dev) :
    s.toControl.Clears (longButtonPressed P s).toControl ∨
      s.activeCmd = some .readAllUids ∧
        (longButtonPressed P s).toControl = { s.toControl with hung := true } ∨
      (∃ cmd st, s.activeCmd = some cmd ∧ LongEnters cmd st ∧
        s.toControl.Reaches st (longButtonPressed P s).toControl) ∨
      s.activeCmd = some .backupDevice ∧ ∃ c₁, s.toControl.Clears c₁ ∧
        Clears ({ c₁ with backupPrevState := s.deviceState }.enter .backingUpDevice)
          (longButtonPressed P s).toControl := by
  unfold longButtonPressed
  split
  · rename_i hcmd
    rcases toControl_readAllUidsCmdIter P s with ⟨mr, h⟩ | h
    · exact .inl (h ▸ clears_finish _ _)
    · exact .inr (.inl ⟨hcmd, h⟩)
  · rw [toControl_updateUidCmdComplete]
    exact .inl .same
  · rename_i hcmd
    refine .inr (.inr (.inl ⟨_, _, hcmd, .updateFirmware, reaches_enterState ?_⟩))
    exact clears_finish _ _
  · rename_i hcmd
    refine .inr (.inr (.inl ⟨_, _, hcmd, .wipe, reaches_enterProgressingState ?_⟩))
    rw [toControl_flashWritePage]
    exact clears_finish _ _
  · rename_i hcmd
    refine .inr (.inr (.inr ⟨hcmd, s.toControl.finish 0, clears_finish _ _, ?_⟩))
    refine Clears.trans ?_ (clears_enterState _ _)
    exact .same
  · rename_i hcmd
    refine .inr (.inr (.inl ⟨_, _, hcmd, .restoreDevice, reaches_enterState ?_⟩))
    exact clears_finish _ _
  · rename_i hcmd
    exact .inr (.inr (.inl ⟨_, _, hcmd, .initializeDevice, reaches_initializeCmdComplete P s⟩))
  · split
    · simp only [toControl_flashWritePage]
      exact .inl .same
    · exact .inl (clears_finish _ _)
  · exact .inl .same

/-! ### The step lemma -/

theorem commandRandUpdate_cases (s : Dev) :
    s.toControl.Clears (commandRandUpdate P s).toControl ∨
      s.activeCmd = some .login ∧ s.cmdData.get32 CmdData.loginAuthenticated ≠ 0 ∧
        s.toControl.Reaches .loggedIn (commandRandUpdate P s).toControl := by
  unfold commandRandUpdate
  split
  · exact .inl (clears_getRandBitsCmdCheck s)
  · rename_i hcmd
    rcases toControl_loginCmdIter P s with h | ⟨hauth, h⟩
    · rw [h]
      exact .inl .same
    · exact .inr ⟨hcmd, hauth, h⟩
  · exact .inl .same

/-- A random word, with `s₀` the state after it was queued. -/
theorem tick_cmdRandUpdate {e : Event} {s s₀ : Dev} (h₀ : s₀.toControl = s.toControl)
    (hdata : s₀.cmdData = s.cmdData) : Tick P s e (cmdRandUpdate P s₀).toControl := by
  have hst : s₀.deviceState = s.deviceState := congrArg Control.deviceState h₀
  unfold cmdRandUpdate
  by_cases hinit : s₀.deviceState = .initializing
  · rw [if_pos hinit]
    have h₁ := clears_initializingRandUpdate P s₀
    rw [h₀] at h₁
    rcases commandRandUpdate_cases P (initializingRandUpdate P s₀) with h | ⟨hcmd, -, h⟩
    · exact .quiet (h₁.trans h)
    · have heq := h₁.eq_of_active (by simp [hcmd])
      refine .token (heq ▸ hcmd) (.inl (hst ▸ hinit)) ?_
      rw [heq] at h
      exact h
  · rw [if_neg hinit]
    rcases commandRandUpdate_cases P s₀ with h | ⟨hcmd, hauth, h⟩
    · exact .quiet (h₀ ▸ h)
    · refine .token ?_ (.inr (hdata ▸ hauth)) (h₀ ▸ h)
      exact (congrArg Control.activeCmd h₀).symm.trans hcmd

/-- A flash completion, with `s₀` the state the driver left. -/
theorem tick_flashWriteComplete {e : Event} {s s₀ : Dev} (h₀ : s₀.toControl = s.toControl) :
    Tick P s e (flashWriteComplete P s₀).toControl := by
  have hst : s₀.deviceState = s.deviceState := congrArg Control.deviceState h₀
  rcases flashWriteComplete_cases P s₀ with h | ⟨st, hf, h⟩
  · exact .quiet (h₀ ▸ h)
  · exact .flashed (hst ▸ hf) (h₀ ▸ h)

@[simp] theorem toControl_pageErased (s : Dev) : (pageErased s).toControl = s.toControl := rfl

theorem tick_flashHandler (s : Dev) (eop : Bool) {e : Event} :
    Tick P s e (flashHandler P eop s).toControl := by
  unfold flashHandler
  have hpage := toControl_pageErased s
  generalize pageErased s = s₁ at hpage ⊢
  split
  · split
    · simp only
      split
      · exact .quiet (hpage ▸ .same)
      · exact tick_flashWriteComplete P hpage
    · refine .quiet (Clears.trans ?_ (clears_flashWriteFailed _))
      exact .same
  · exact .quiet .same

theorem tick_flashIdle (s : Dev) (err : Option Nat) {e : Event} :
    Tick P s e (flashIdle P err s).toControl := by
  have hloop := toControl_programLoop s 32 err
  unfold flashIdle
  generalize programLoop 32 err s = r at hloop ⊢
  split
  · simp only
    split
    · refine .quiet (Clears.trans ?_ (clears_flashWriteFailed _))
      rw [← hloop]
      exact .same
    · split
      · exact tick_flashWriteComplete P hloop
      · rw [hloop]
        exact .quiet .same
  · exact .quiet .same

/-- **What an event that is not a packet can do.** -/
theorem tick_step (s : Dev) {e : Event} (he : ∀ packet, e ≠ .hidRx packet) (hh : s.hung = false) :
    Tick P s e (step P s e).toControl := by
  unfold step
  rw [if_neg (by simp [hh])]
  cases e with
  | hidRx packet => exact absurd rfl (he packet)
  | packetSent =>
    simp only
    split
    · unfold cmdPacketSent
      split
      · rename_i hcmd
        rcases toControl_readAllUidsCmdIter P { s with rawHidTxPending := false } with ⟨mr, h⟩ | h
        · exact .quiet (h ▸ clears_finish _ _)
        · exact h ▸ .stuck hcmd
      · exact .quiet .same
    · exact .quiet .same
  | buttonDown =>
    simp only
    split
    · exact .quiet .same
    · rename_i hb
      rw [Bool.not_eq_true] at hb
      unfold buttonPress
      split
      · rename_i hw
        rcases buttonPressed_cases P (endButtonPressWait s) with h | ⟨hl, h⟩
        · exact .pressed hb hw h
        · exact .loggedIn hb hw hl h
      · split
        · exact .quiet .same
        · split
          · exact .quiet .same
          · exact .quiet .same
  | buttonUp =>
    simp only
    split
    · unfold buttonRelease
      split
      · exact .quiet .same
      · split
        · exact .quiet (clears_buttonReleaseDisconnected s)
        · exact .quiet .same
    · exact .quiet .same
  | buttonHeld =>
    dsimp only
    split
    · rename_i hb
      unfold longButtonPress
      split
      · rename_i hw
        have hp : Pressed s .long .buttonHeld := ⟨rfl, hb, hw⟩
        rcases longButtonPressed_cases P
          (endLongButtonPressWait { s with buttonState := false }) with
          h | ⟨hcmd, h⟩ | ⟨cmd, st, hcmd, hst, h⟩ | ⟨hcmd, c₁, h₁, h⟩
        · exact .held hp h
        · exact h ▸ .heldStuck hp hcmd
        · exact .heldEntered hp hcmd hst h
        · exact .heldBackup hp hcmd h₁ h
      · split
        · refine .quiet (Clears.trans ?_ (clears_longButtonPressDisconnected P _))
          exact .same
        · exact .quiet .same
    · exact .quiet .same
  | blinkTimeout =>
    dsimp only
    split
    · rename_i hb
      unfold blinkTimeout
      split
      · rename_i hw
        have ht : TimesOut s .blinkTimeout := ⟨rfl, hh, hb.1, by simpa using hb.2, hw⟩
        exact .timeout ht (clears_finish _ _)
      · exact .quiet .same
    · exact .quiet .same
  | timer =>
    simp only
    split
    · exact .quiet (clears_timerTimeout s)
    · exact .quiet .same
  | rtcWord w => exact tick_cmdRandUpdate P rfl rfl
  | rngWord w => exact tick_cmdRandUpdate P rfl rfl
  | flashHandler eop => exact tick_flashHandler P s eop
  | flashIdle err => exact tick_flashIdle P s err
  | txKeyboard => exact .quiet (clears_usbTxKeyboard s)
  | keyboardIdle elapsed =>
    simp only [toControl_usbKeyboardIdle]
    exact .quiet .same

/-- No event but a packet makes a command the active one. -/
theorem activeCmd_tick {e : Event} {c' : Control} (ht : Tick P s e c') :
    c'.activeCmd = s.activeCmd ∨ c'.activeCmd = none := by
  cases ht with
  | quiet h => exact h.activeCmd
  | stuck _ => exact .inl rfl
  | pressed _ _ h => exact h.activeCmd
  | loggedIn _ _ _ h => exact h.activeCmd
  | held _ h => exact h.activeCmd
  | heldStuck _ _ => exact .inl rfl
  | heldEntered _ _ _ h => exact h.activeCmd
  | heldBackup _ _ h₁ h =>
    rcases h.activeCmd with h | h
    · exact h₁.activeCmd.imp h.trans h.trans
    · exact .inr h
  | timeout _ h => exact h.activeCmd
  | token _ _ h => exact h.activeCmd
  | flashed _ h => exact h.activeCmd

/-- A long press of a command that starts an operation. -/
def StartsOperation (cmd : Command) : Prop := cmd = .backupDevice ∨ ∃ st, LongEnters cmd st

/-- From the two states that one logs in from and to, an event that is not a
    packet leaves only by logging in or by the start of an operation. -/
theorem deviceState_tick {e : Event} {c' : Control} (ht : Tick P s e c')
    (hst : s.deviceState = .loggedOut ∨ s.deviceState = .loggedIn) :
    c'.deviceState = s.deviceState ∨ c'.deviceState = .loggedIn ∨
      c'.waitingForLongButtonPress = false ∧ ∃ cmd, s.activeCmd = some cmd ∧ StartsOperation cmd := by
  cases ht with
  | quiet h => exact .inl h.deviceState
  | stuck _ => exact .inl rfl
  | pressed _ _ h => exact .inl h.deviceState
  | loggedIn _ _ _ h => exact .inr (.inl h.deviceState)
  | held _ h => exact .inl h.deviceState
  | heldStuck _ _ => exact .inl rfl
  | heldEntered _ hcmd hlong h =>
    exact .inr (.inr ⟨h.waits .long, _, hcmd, .inr ⟨_, hlong⟩⟩)
  | heldBackup _ hcmd h₁ h =>
    exact .inr (.inr ⟨(h.waits .long).trans (h₁.waits .long), _, hcmd, .inl rfl⟩)
  | timeout _ h => exact .inl h.deviceState
  | token _ _ h => exact .inr (.inl h.deviceState)
  | flashed hf _ => rcases hst with h | h <;> rw [h] at hf <;> cases hf

/-- A wait ends at its press or when it times out; only packets begin one. -/
theorem waits_tick {e : Event} {c' : Control} (ht : Tick P s e c') (k : PressKind) :
    c'.waits k = s.waits k ∨ c'.waits k = false ∧ (Pressed s k e ∨ TimesOut s e) := by
  cases ht with
  | quiet h => exact .inl (h.waits k)
  | stuck _ => exact .inl (by cases k <;> rfl)
  | pressed hb hw h =>
    cases k with
    | short => exact .inr ⟨h.waits .short, .inl ⟨rfl, hb, hw⟩⟩
    | long => exact .inl (h.waits .long)
  | loggedIn hb hw _ h =>
    cases k with
    | short => exact .inr ⟨h.waits .short, .inl ⟨rfl, hb, hw⟩⟩
    | long => exact .inl (h.waits .long)
  | held hp h =>
    cases k with
    | short => exact .inl (h.waits .short)
    | long => exact .inr ⟨h.waits .long, .inl hp⟩
  | heldStuck hp _ =>
    cases k with
    | short => exact .inl rfl
    | long => exact .inr ⟨rfl, .inl hp⟩
  | heldEntered hp _ _ h =>
    cases k with
    | short => exact .inl (h.waits .short)
    | long => exact .inr ⟨h.waits .long, .inl hp⟩
  | heldBackup hp _ h₁ h =>
    cases k with
    | short => exact .inl ((h.waits .short).trans (h₁.waits .short))
    | long => exact .inr ⟨(h.waits .long).trans (h₁.waits .long), .inl hp⟩
  | timeout hto h =>
    have hw := h.waits k
    cases k with
    | short => exact .inr ⟨hw, .inr hto⟩
    | long => exact .inr ⟨hw, .inr hto⟩
  | token _ _ h => exact .inl (h.waits k)
  | flashed _ h => exact .inl (h.waits k)

/-- Only packets are counted. -/
theorem cmdIterCount_tick {e : Event} {c' : Control} (ht : Tick P s e c') :
    c'.cmdIterCount = s.cmdIterCount := by
  cases ht with
  | quiet h => exact h.cmdIterCount
  | stuck _ => rfl
  | pressed _ _ h => exact h.cmdIterCount
  | loggedIn _ _ _ h => exact h.cmdIterCount
  | held _ h => exact h.cmdIterCount
  | heldStuck _ _ => rfl
  | heldEntered _ _ _ h => exact h.cmdIterCount
  | heldBackup _ _ h₁ h => exact h.cmdIterCount.trans h₁.cmdIterCount
  | timeout _ h => exact h.cmdIterCount
  | token _ _ h => exact h.cmdIterCount
  | flashed _ h => exact h.cmdIterCount

end SignetBase.Firmware

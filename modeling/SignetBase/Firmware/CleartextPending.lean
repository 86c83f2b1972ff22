/-
  SignetBase/Firmware/CleartextPending.lean
  =========================================
  **What a press confirms is what was accepted.**

  The commands that wait for a press take from `cmd_data` which slot or block it is for.
  As long as none of them is refused and yet left to a press (`StorePacket`), what the active
  one was accepted with is still there (`PressReady`): between packets only its own handler
  touches `cmd_data`, and a packet that is not a cancel takes its place.
-/
import SignetBase.Firmware.ButtonAuth
import SignetBase.Firmware.CleartextStore

namespace SignetBase.Firmware

open Control

variable (P : Platform)

variable {s s' s₀ s₁ : Dev} {e : Event} {h : History Dev (Option Event)} {cmd : Command}
  {k : PressKind}

/-- The command is active, and the press is awaited. -/
structure AwaitsPress (cmd : Command) (k : PressKind) (s : Dev) : Prop where
  active : s.activeCmd = some cmd
  waits : s.toControl.waits k = true

/-- The command has been accepted with a slot of the table, which is in `cmd_data`, and for a
    write also the data. -/
def SlotReady (cmd : Command) (h : History Dev (Option Event)) (s : Dev) : Prop :=
  s.deviceState = .loggedIn ∧ ∃ slot data, lastAsked cmd h = some (slot, data) ∧
    slot < NUM_CLEARTEXT_PASS ∧ s.cmdData.get32 CmdData.readCleartextPasswordIdx = slot ∧
    (cmd = .writeCleartextPassword →
      s.cmdData.read CmdData.writeCleartextPasswordData CLEARTEXT_PASS_SIZE = data)

/-- A command that a press would confirm was accepted, and the update is for another block than
    that of the root page. -/
structure PressReady (h : History Dev (Option Event)) (s : Dev) : Prop where
  slot : ∀ cmd, isCleartext cmd → AwaitsPress cmd .short s → SlotReady cmd h s
  block : AwaitsPress .updateUid .short s ∨ AwaitsPress .updateUids .long s →
    s.deviceState = .loggedIn ∧ updateBlockNum s ≠ 0

/-! ### Between packets -/

/-- A command that takes from `cmd_data` what a press of this kind confirms. -/
inductive Confirms : Command → PressKind → Prop
  | read : Confirms .readCleartextPassword .short
  | write : Confirms .writeCleartextPassword .short
  | updateUid : Confirms .updateUid .short
  | updateUids : Confirms .updateUids .long

theorem isCleartext.confirms (hcmd : isCleartext cmd) : Confirms cmd .short := by
  rcases hcmd with rfl | rfl
  · exact .read
  · exact .write

theorem Confirms.pressKind (hc : Confirms cmd k) : pressKind cmd = some k := by
  cases hc <;> rfl

theorem Confirms.not_starts (hc : Confirms cmd k) : ¬ StartsOperation cmd := by
  rintro (rfl | ⟨st, hlong⟩)
  · cases hc
  · cases hlong
    all_goals cases hc

/-- None of them draws random numbers. -/
theorem Confirms.randUpdate (hc : Confirms cmd k) (hactive : s.activeCmd = some cmd) :
    commandRandUpdate P s = s := by
  unfold commandRandUpdate
  rw [hactive]
  cases hc <;> rfl

theorem waits_pressed (hh : s.hung = false) (hp : Pressed s k e) :
    (step P s e).toControl.waits k = false := by
  have hnot : ¬ s.hung = true := by simp [hh]
  cases k with
  | short =>
    obtain ⟨rfl, hb, hw⟩ := hp
    have hstep : step P s .buttonDown =
        { buttonPressed P (endButtonPressWait s) with buttonState := true } := by
      unfold step buttonPress
      rw [if_neg hnot, hb, hw]
      rfl
    rw [hstep]
    rcases buttonPressed_cases P (endButtonPressWait s) with hclears | ⟨-, hreach⟩
    · exact hclears.waits .short
    · exact hreach.waits .short
  | long =>
    obtain ⟨rfl, hb, hw⟩ := hp
    have hstep : step P s .buttonHeld = longButtonPressed P
        (endLongButtonPressWait { s with buttonState := false }) := by
      unfold step longButtonPress
      rw [if_neg hnot]
      dsimp only
      rw [if_pos hb, if_pos hw]
    rw [hstep]
    generalize hs₁ : endLongButtonPressWait { s with buttonState := false } = s₁
    have hw₁ : s₁.toControl.waits .long = false := by
      rw [← hs₁]
      rfl
    rcases longButtonPressed_cases P s₁ with hclears | ⟨-, hstuck⟩ | ⟨_, _, -, -, hreach⟩ |
      ⟨-, c₁, hclears, hback⟩
    · exact (hclears.waits .long).trans hw₁
    · rw [hstuck]
      exact hw₁
    · exact (hreach.waits .long).trans hw₁
    · exact (hback.waits .long).trans ((hclears.waits .long).trans hw₁)

/-- Only a packet makes a command wait. -/
theorem AwaitsPress.of_tick (he : ∀ packet, e ≠ .hidRx packet) (hh : s.hung = false)
    (haw : AwaitsPress cmd k (step P s e)) : AwaitsPress cmd k s := by
  have ht := tick_step P s he hh
  constructor
  · refine ((activeCmd_tick P ht).resolve_right ?_).symm.trans haw.active
    rw [haw.active]
    exact Option.some_ne_none _
  · rcases waits_tick P ht k with hsame | ⟨hno, -⟩
    · exact hsame.symm.trans haw.waits
    · rw [haw.waits] at hno
      cases hno

theorem loggedIn_tick (he : ∀ packet, e ≠ .hidRx packet) (hh : s.hung = false)
    (hc : Confirms cmd k) (hactive : s.activeCmd = some cmd) (hst : s.deviceState = .loggedIn) :
    (step P s e).deviceState = .loggedIn := by
  rcases deviceState_tick P (tick_step P s he hh) (.inr hst) with hsame | hin | ⟨-, cmd', hcmd, hop⟩
  · exact hsame.trans hst
  · exact hin
  · rw [hactive] at hcmd
    cases hcmd
    exact absurd hop hc.not_starts

/-- While the press is awaited, only the driver's events can change `cmd_data`. -/
theorem AwaitsPress.cmdData_tick (he : ∀ packet, e ≠ .hidRx packet) (hh : s.hung = false)
    (hflash : e.isFlash = false) (hc : Confirms cmd k) (hst : s.deviceState = .loggedIn)
    (haw : AwaitsPress cmd k (step P s e)) : (step P s e).cmdData = s.cmdData := by
  have hactive := (haw.of_tick P he hh).active
  have hhandler : ∀ eop, e ≠ .flashHandler eop := by
    rintro eop rfl
    cases hflash
  have hidle : ∀ err, e ≠ .flashIdle err := by
    rintro err rfl
    cases hflash
  have hpress : ∀ k', Pressed s k' e → s.activeCmd.bind Firmware.pressKind ≠ some k' := by
    intro k' hp hkind
    rw [hactive, Option.bind_some, hc.pressKind] at hkind
    cases hkind
    have hno := waits_pressed P hh hp
    rw [haw.waits] at hno
    cases hno
  rcases cmdData_tick_of_not_flash P hactive (.inr hst) he hhandler hidle with
    hsame | ⟨-, rfl, -⟩ | ⟨hp, hdata⟩ | ⟨hp, hdata⟩ | ⟨s₁, hdata₁, hcmd₁, hdata⟩
  · exact hsame
  · cases hc
  · rw [hdata, buttonPressed_of_ne P (s := endButtonPressWait s) (hpress .short hp)]
    rfl
  · rw [hdata, longButtonPressed_of_ne P
      (s := endLongButtonPressWait { s with buttonState := false }) (hpress .long hp)]
    rfl
  · rw [hdata, hc.randUpdate P (hcmd₁.trans hactive), hdata₁]

/-- The driver's events leave the slot of a cleartext password command alone. -/
theorem cmdData_cleartext (he : ∀ packet, e ≠ .hidRx packet) (hh : s.hung = false)
    (hcmd : isCleartext cmd) (hst : s.deviceState = .loggedIn)
    (haw : AwaitsPress cmd .short (step P s e)) : (step P s e).cmdData = s.cmdData := by
  have hactive := (haw.of_tick P he hh).active
  have hrec : ¬ writesRecords cmd := by
    rcases hcmd with rfl | rfl
    all_goals
      rintro (h | h | h)
      all_goals cases h
  have hnot : ¬ s.hung = true := by simp [hh]
  cases hflash : e.isFlash with
  | false => exact haw.cmdData_tick P he hh hflash hcmd.confirms hst
  | true =>
    cases e with
    | flashHandler eop =>
      unfold step
      rw [if_neg hnot]
      exact cmdData_flashHandler P hactive hrec (.inr hst) eop
    | flashIdle err =>
      unfold step
      rw [if_neg hnot]
      exact cmdData_flashIdle P hactive hrec (.inr hst) err
    | _ => cases hflash

/-- An update that is completed keeps its block. -/
theorem updateBlockNum_flashWriteComplete (hst : s.deviceState = .loggedIn)
    (hactive : s.activeCmd = some .updateUid ∨ s.activeCmd = some .updateUids) :
    updateBlockNum (flashWriteComplete P s) = updateBlockNum s := by
  have hstate : stateWriteComplete P s = s := by
    refine stateWriteComplete_of_none P ?_
    rw [hst]
    rfl
  unfold flashWriteComplete
  rw [hstate]
  unfold commandWriteComplete
  rcases hactive with hactive | hactive
  · rw [hactive]
    exact updateBlockNum_updateUidCmdWriteFinished P s
  · rw [hactive]
    exact updateBlockNum_updateUidCmdWriteFinished P s

theorem updateBlockNum_flash (hflash : e.isFlash = true) (hst : s.deviceState = .loggedIn)
    (hactive : s.activeCmd = some .updateUid ∨ s.activeCmd = some .updateUids) :
    updateBlockNum (step P s e) = updateBlockNum s := by
  cases hcomp : completion s e with
  | some s₁ =>
    obtain ⟨d, hd⟩ := completion_frame hcomp
    rw [step_of_completion P hcomp, updateBlockNum_flashWriteComplete P]
    · rw [hd]
      rfl
    · rw [hd]
      exact hst
    · rw [hd]
      exact hactive
  | none =>
    obtain ⟨d, ⟨hd, -⟩ | ⟨-, hd⟩⟩ := driver_frame P hflash hcomp
    · rw [hd]
      rfl
    · unfold updateBlockNum
      rw [hd, cmdData_flashWriteFailed]

/-! ### Packets -/

/-- The handler of a command that takes from `cmd_data` what a press confirms. -/
def pressHandler (cmd : Command) (data : Mem) (dataLen : Int) (s : Dev) : Dev :=
  match cmd with
  | .readCleartextPassword => readCleartextPassword data dataLen s
  | .writeCleartextPassword => writeCleartextPassword data dataLen s
  | _ => updateUidPacket P cmd data dataLen s

/-- They are taken in DS_LOGGED_IN only. -/
theorem Confirms.stateFunction (hc : Confirms cmd k) (data : Mem) (dataLen : Int) (s : Dev) :
    stateFunction P cmd data dataLen s =
      if s.deviceState = .loggedIn then .handled (pressHandler P cmd data dataLen s)
      else .rejected := by
  unfold Firmware.stateFunction
  cases hst : s.deviceState
  all_goals
    cases hc
    all_goals rfl

/-- The handler of the packet in `cmd_packet_buf`, of a command that a press confirms. -/
def handledPress (s : Dev) : Dev :=
  pressHandler P (packetCmd s.cmdPacketBuf) (s.cmdPacketBuf.window CMD_PACKET_HEADER_SIZE)
    (packetDataLen s.cmdPacketBuf) (activate s)

/-- How a packet leaves the command active: it is a cancel, or one of the command, which is refused
    with more messages announced, or handled. -/
inductive ReceivedActive (cmd : Command) (s s' : Dev) : Prop
  | kept : packetCmd s.cmdPacketBuf = .cancelButtonPress → s.activeCmd = some cmd →
      (waiting s = true → s.cmdMessagesRemaining ≠ 0 ∧
        s' = finishCommandResp .buttonPressCanceled (endButtonPressWait s)) →
      (waiting s = false → s' = s) → ReceivedActive cmd s s'
  | refused : packetCmd s.cmdPacketBuf = cmd → packetMessagesRemaining s.cmdPacketBuf ≠ 0 →
      (∀ k, s'.toControl.waits k = s.toControl.waits k) → flashView s' = flashView s →
      packetDataLen s.cmdPacketBuf > CMD_PACKET_PAYLOAD_SIZE ∨ s.deviceState ≠ .loggedIn →
      ReceivedActive cmd s s'
  | handled : packetCmd s.cmdPacketBuf = cmd → s.deviceState = .loggedIn →
      packetDataLen s.cmdPacketBuf ≤ CMD_PACKET_PAYLOAD_SIZE →
      s' = countIteration (packetMessagesRemaining s.cmdPacketBuf) (handledPress P s) →
      ReceivedActive cmd s s'

/-- How a packet leaves the command waiting for its press: it is no packet of the command, or it
    begins the wait, or it is refused in a wait that was pending. -/
inductive ReceivedWait (cmd : Command) (k : PressKind) (s s' : Dev) : Prop
  | kept : packetCmd s.cmdPacketBuf = .cancelButtonPress → AwaitsPress cmd k s →
      s'.cmdData = s.cmdData → s'.deviceState = s.deviceState → ReceivedWait cmd k s s'
  | begun : packetCmd s.cmdPacketBuf = cmd → s.deviceState = .loggedIn →
      packetDataLen s.cmdPacketBuf ≤ CMD_PACKET_PAYLOAD_SIZE →
      s'.cmdData = (handledPress P s).cmdData → s'.deviceState = .loggedIn →
      ((handledPress P s).toControl = (activate s).toControl.finish 0 → AcceptsPending P s) →
      ReceivedWait cmd k s s'

theorem Confirms.handled (hc : Confirms cmd k) (data : Mem) (dataLen : Int) (s : Dev) :
    Handled cmd s.toControl (pressHandler P cmd data dataLen s).toControl := by
  cases hc with
  | read =>
    exact .of_finish_or_wait (k := .short) rfl (toControl_readCleartextPassword s data dataLen)
  | write =>
    exact .of_finish_or_wait (k := .short) rfl (toControl_writeCleartextPassword s data dataLen)
  | updateUid => exact handled_updateUidPacket P (.inl rfl) data dataLen
  | updateUids => exact handled_updateUidPacket P (.inr rfl) data dataLen

theorem waits_countIteration (n : Nat) (s : Dev) (k : PressKind) :
    (countIteration n s).toControl.waits k = s.toControl.waits k := by
  unfold countIteration
  split
  · cases k <;> rfl
  · rfl

theorem AcceptsPending.loggedIn (hc : Confirms (packetCmd s.cmdPacketBuf) k)
    (ha : AcceptsPending P s) :
    s.deviceState = .loggedIn ∧ packetDataLen s.cmdPacketBuf ≤ CMD_PACKET_PAYLOAD_SIZE := by
  have hcleartext : ∀ cmd, isCleartext cmd → AcceptsCleartext cmd s →
      s.deviceState = .loggedIn ∧ packetDataLen s.cmdPacketBuf ≤ CMD_PACKET_PAYLOAD_SIZE := by
    rintro cmd hcmd ⟨hst, -, hlen, -⟩
    refine ⟨hst, ?_⟩
    rw [hlen]
    rcases hcmd with rfl | rfl
    · decide
    · decide
  unfold AcceptsPending at ha
  generalize hcmd : packetCmd s.cmdPacketBuf = cmd at hc ha
  cases hc with
  | read => exact hcleartext _ (.inl rfl) ha
  | write => exact hcleartext _ (.inr rfl) ha
  | updateUid => exact ⟨ha.1, ha.2.1⟩
  | updateUids => exact ⟨ha.1, ha.2.1⟩

theorem dispatch_confirms (hc : Confirms (packetCmd s.cmdPacketBuf) k) :
    dispatch P (activate s) =
      if s.deviceState = .loggedIn then .handled (handledPress P s) else .rejected :=
  hc.stateFunction P _ _ _

/-- The handlers stay in the state. -/
theorem deviceState_handledPress {c c' : Control} (hc : Confirms cmd k) (hh : Handled cmd c c') :
    c'.deviceState = c.deviceState := by
  cases hh with
  | answered hclears => exact hclears.deviceState
  | @waiting k' _ => cases k' <;> rfl
  | stuck => rfl
  | entered he _ =>
    cases he
    all_goals cases hc
  | disconnected hcmd =>
    subst hcmd
    cases hc

theorem activeCmd_startupCmd (hc : Confirms cmd k) (hcmd : packetCmd s.cmdPacketBuf = .startup) :
    (startupCmd P (activate s)).activeCmd ≠ some cmd := by
  have hactive : (activate s).activeCmd = some .startup := congrArg some hcmd
  have hstartup : (startupControl (activate s).toControl).activeCmd ≠ some cmd := by
    unfold startupControl
    split
    · exact nofun
    · rw [hactive]
      rintro ⟨⟩
      cases hc
  obtain ⟨st, -, hreach⟩ := reaches_startupCmd P (activate s)
  intro h
  rcases hreach.activeCmd with hsame | hnone
  · exact hstartup (hsame.symm.trans h)
  · cases hnone.symm.trans h

/-- A packet that is not a cancel makes its own command the active one. -/
theorem packetCmd_of_active {c : Control} (hactive : c.activeCmd = some cmd)
    (hor : c.activeCmd = some (packetCmd s.cmdPacketBuf) ∨ c.activeCmd = none) :
    packetCmd s.cmdPacketBuf = cmd := by
  rcases hor with hor | hor
  · exact Option.some.inj (hor.symm.trans hactive)
  · cases hor.symm.trans hactive

theorem receivedActive (hc : Confirms cmd k) (hr : Received P s s')
    (hactive : s'.activeCmd = some cmd) : ReceivedActive P cmd s s' := by
  have hanswer : ∀ {c : Control}, c = (activate s).toControl.finish 0 → c.activeCmd = some cmd →
      packetCmd s.cmdPacketBuf = cmd ∧ packetMessagesRemaining s.cmdPacketBuf ≠ 0 := by
    rintro c rfl hcmd
    obtain ⟨hpacket, hmr⟩ := active_finish hcmd
    exact ⟨Option.some.inj hpacket, hmr⟩
  cases hr with
  | disconnect _ => cases hactive
  | ignored hcancel _ hno =>
    refine .kept hcancel hactive (fun hw => ?_) fun _ => rfl
    rw [hno] at hw
    cases hw
  | canceled hcancel _ hw =>
    obtain ⟨hbefore, hmr⟩ := active_finish (c := (endButtonPressWait s).toControl) hactive
    refine .kept hcancel hbefore (fun _ => ⟨hmr, rfl⟩) fun hno => ?_
    rw [hw] at hno
    cases hno
  | misfire _ _ => cases hactive
  | startup hstartup => exact absurd hactive (activeCmd_startupCmd P hc hstartup)
  | getDeviceState hget =>
    obtain ⟨hcmd, -⟩ := hanswer (c := (activate s).toControl.finish 0) rfl hactive
    rw [hget] at hcmd
    subst hcmd
    cases hc
  | tooLong _ hlen =>
    obtain ⟨hcmd, hmr⟩ := hanswer (c := (activate s).toControl.finish 0) rfl hactive
    exact .refused hcmd hmr (fun k => (clears_finish _ 0).waits k) rfl (.inl hlen)
  | rejected _ _ hdisp =>
    rw [activeCmd_countIteration] at hactive
    obtain ⟨hcmd, hmr⟩ := hanswer (c := (activate s).toControl.finish 0) rfl hactive
    refine .refused hcmd hmr (fun k => ?_) (flashView_countIteration _ _) (.inr fun hst => ?_)
    · rw [waits_countIteration]
      exact (clears_finish (activate s).toControl 0).waits k
    · subst hcmd
      rw [dispatch_confirms P hc, if_pos hst] at hdisp
      cases hdisp
  | @handled s₂ _ hlen hdisp =>
    rw [activeCmd_countIteration] at hactive
    have htaken := handled_dispatch P hdisp
    have hcmd : packetCmd s.cmdPacketBuf = cmd :=
      packetCmd_of_active hactive (activeCmd_handled (c := (activate s).toControl) rfl htaken)
    subst hcmd
    rw [dispatch_confirms P hc] at hdisp
    by_cases hst : s.deviceState = .loggedIn
    · rw [if_pos hst] at hdisp
      cases hdisp
      exact .handled rfl hst hlen rfl
    · rw [if_neg hst] at hdisp
      cases hdisp

theorem receivedWait (hc : Confirms cmd k) (hpkt : StorePacket P s) (hr : Received P s s')
    (haw : AwaitsPress cmd k s') : ReceivedWait P cmd k s s' := by
  have hw := haw.waits
  cases receivedActive P hc hr haw.active with
  | kept hcancel hactive hcanceled hignored =>
    cases hwaiting : waiting s with
    | true =>
      rw [(hcanceled hwaiting).2] at hw ⊢
      refine .kept hcancel ⟨hactive, ?_⟩ rfl rfl
      cases k with
      | short => cases hw
      | long => exact hw
    | false =>
      rw [hignored hwaiting] at hw ⊢
      exact .kept hcancel ⟨hactive, hw⟩ rfl rfl
  | refused hcmd hmr hwaits _ hbad =>
    subst hcmd
    have ha := hpkt.refused k hc.pressKind ((hwaits k).symm.trans hw) hmr
    obtain ⟨hst, hlen⟩ := AcceptsPending.loggedIn P hc ha
    rcases hbad with hbad | hbad
    · exact absurd hlen (not_le_of_gt hbad)
    · exact absurd hst hbad
  | handled hcmd hst hlen hs' =>
    subst hcmd
    subst hs'
    rw [waits_countIteration] at hw
    have hactive := haw.active
    rw [activeCmd_countIteration] at hactive
    refine .begun rfl hst hlen (cmdData_countIteration _ _) ?_ fun hfin => ?_
    · rw [deviceState_countIteration]
      exact (deviceState_handledPress hc (hc.handled P _ _ _)).trans hst
    · rw [hfin] at hactive hw
      refine hpkt.refused k hc.pressKind ?_ (active_finish hactive).2
      exact ((clears_finish (activate s).toControl 0).waits k).symm.trans hw

/-! ### What is accepted -/

/-- The handlers refuse what they do not accept. -/
theorem refuses_cleartext (hcmd : isCleartext cmd) (heq : packetCmd s.cmdPacketBuf = cmd)
    (hst : s.deviceState = .loggedIn) (hno : ¬ AcceptsCleartext cmd s) :
    (handledPress P s).toControl = (activate s).toControl.finish 0 := by
  have hcond : packetDataLen s.cmdPacketBuf ≠ cleartextDataLen cmd ∨
      packetSlot s > NUM_CLEARTEXT_PASS := by
    by_contra hor
    rw [not_or, not_not, not_lt] at hor
    exact hno ⟨hst, heq, hor⟩
  unfold handledPress
  rw [heq]
  rcases hcmd with rfl | rfl
  · exact congrArg Dev.toControl (if_pos hcond)
  · exact congrArg Dev.toControl (if_pos hcond)

theorem acceptsCleartext_of_begun (hcmd : isCleartext cmd)
    (heq : packetCmd s.cmdPacketBuf = cmd) (hst : s.deviceState = .loggedIn)
    (hrefused : (handledPress P s).toControl = (activate s).toControl.finish 0 →
      AcceptsPending P s) : AcceptsCleartext cmd s := by
  by_contra hno
  have ha := hrefused (refuses_cleartext P hcmd heq hst hno)
  unfold AcceptsPending at ha
  rw [heq] at ha
  rcases hcmd with rfl | rfl
  · exact hno ha
  · exact hno ha

theorem packetSlot_lt (s : Dev) : packetSlot s < 2 ^ 32 :=
  Nat.lt_trans (s.cmdPacketBuf CMD_PACKET_HEADER_SIZE).toNat_lt (by decide)

/-- What the handlers leave in `cmd_data`. -/
theorem cmdData_accepted (hcmd : isCleartext cmd) (ha : AcceptsCleartext cmd s) :
    (handledPress P s).cmdData.get32 CmdData.readCleartextPasswordIdx = packetSlot s ∧
      (cmd = .writeCleartextPassword → (handledPress P s).cmdData.read
        CmdData.writeCleartextPasswordData CLEARTEXT_PASS_SIZE = (packetAsks s).2) := by
  obtain ⟨-, heq, hlen, hslot⟩ := ha
  have hcond : ¬ (packetDataLen s.cmdPacketBuf ≠ cleartextDataLen cmd ∨
      packetSlot s > NUM_CLEARTEXT_PASS) := by
    rw [not_or, not_not, not_lt]
    exact ⟨hlen, hslot⟩
  have hmod : packetSlot s % 2 ^ 32 = packetSlot s := Nat.mod_eq_of_lt (packetSlot_lt s)
  unfold handledPress
  rw [heq]
  rcases hcmd with rfl | rfl
  · refine ⟨?_, nofun⟩
    dsimp only [pressHandler]
    unfold readCleartextPassword
    split
    · exact absurd ‹_› hcond
    · exact (Mem.get32_put32 _ _ _).trans hmod
  · dsimp only [pressHandler]
    unfold writeCleartextPassword
    split
    · exact absurd ‹_› hcond
    · dsimp only
      refine ⟨?_, fun _ => (Mem.read_copy _ _ _ _ _).trans (Mem.read_window _ _ _ _)⟩
      refine Eq.trans (Mem.get32_congr fun i hi => ?_) ((Mem.get32_put32 s.cmdData 0 _).trans hmod)
      refine Mem.copy_apply_of_notMem _ _ (.inl ?_)
      change 0 + i < 4
      omega

theorem lastAsked_delivered (hd : delivered s e = some s₀) : lastAsked cmd ((s, some e) :: h) =
    if AcceptsCleartext cmd s₀ then some (packetAsks s₀) else lastAsked cmd h := by
  simp only [lastAsked, Option.bind_some, hd]

theorem lastAsked_undelivered (hd : delivered s e = none) :
    lastAsked cmd ((s, some e) :: h) = lastAsked cmd h := by
  simp only [lastAsked, Option.bind_some, hd]

/-- A packet of another command. -/
theorem lastAsked_other (hd : delivered s e = some s₀) (hne : packetCmd s₀.cmdPacketBuf ≠ cmd) :
    lastAsked cmd ((s, some e) :: h) = lastAsked cmd h := by
  rw [lastAsked_delivered hd, if_neg]
  exact fun ha => hne ha.2.1

/-- The update of a packet is for another block than that of the root page. -/
theorem updateBlockNum_handledPress (hmap : MapBytes s.tables)
    (heq : packetCmd s.cmdPacketBuf = .updateUid ∨ packetCmd s.cmdPacketBuf = .updateUids)
    (hrefused : (handledPress P s).toControl = (activate s).toControl.finish 0 →
      AcceptsPending P s) : updateBlockNum (handledPress P s) ≠ 0 := by
  have hpress : handledPress P s = updateUidPacket P (packetCmd s.cmdPacketBuf)
      (s.cmdPacketBuf.window CMD_PACKET_HEADER_SIZE) (packetDataLen s.cmdPacketBuf)
      (activate s) := by
    unfold handledPress
    rcases heq with heq | heq
    · rw [heq]
      rfl
    · rw [heq]
      rfl
  have htaken : AcceptsPending P s → updateBlockNum (handledPress P s) ≠ 0 := by
    intro ha
    rw [hpress]
    unfold AcceptsPending at ha
    rcases heq with heq | heq
    · simp only [heq] at ha
      rw [heq]
      exact ha.2.2.2
    · simp only [heq] at ha
      rw [heq]
      exact ha.2.2.2
  by_cases hfin : (handledPress P s).toControl = (activate s).toControl.finish 0
  · exact htaken (hrefused hfin)
  · rw [hpress] at hfin ⊢
    unfold updateUidPacket at hfin ⊢
    dsimp only at hfin ⊢
    split
    · rename_i hbad
      rw [if_pos hbad] at hfin
      exact absurd rfl hfin
    · rename_i hgood
      rw [if_neg hgood] at hfin
      refine ((updateBlockNum_updateUidCmd P (s := activate s) hmap _ _ _ _).resolve_left ?_).2
      exact fun h => hfin h.1

/-! ### Steps -/

theorem pressReady_none (hactive : s.activeCmd = none) : PressReady h s where
  slot _ _ haw := by cases hactive.symm.trans haw.active
  block haw := by
    rcases haw with haw | haw
    · cases hactive.symm.trans haw.active
    · cases hactive.symm.trans haw.active

/-- A step that changes nothing a press would use. -/
theorem PressReady.same (hready : PressReady h s) (hd : delivered s e = none)
    (hctl : s'.toControl = s.toControl) (hdata : s'.cmdData = s.cmdData) :
    PressReady ((s, some e) :: h) s' := by
  have hst : s'.deviceState = s.deviceState := congrArg Control.deviceState hctl
  have hbefore : ∀ {cmd k}, AwaitsPress cmd k s' → AwaitsPress cmd k s := by
    intro cmd k haw
    exact ⟨hctl ▸ haw.active, hctl ▸ haw.waits⟩
  constructor
  · intro cmd hcmd haw
    obtain ⟨hin, slot, data, hasked, hslot, hidx, hread⟩ := hready.slot cmd hcmd (hbefore haw)
    refine ⟨hst.trans hin, slot, data, (lastAsked_undelivered hd).trans hasked, hslot, ?_, ?_⟩
    · rw [hdata]
      exact hidx
    · rw [hdata]
      exact hread
  · intro haw
    obtain ⟨hin, hnum⟩ := hready.block (haw.imp hbefore hbefore)
    refine ⟨hst.trans hin, ?_⟩
    unfold updateBlockNum
    rw [hdata]
    exact hnum

theorem PressReady.tick (hready : PressReady h s) (he : ∀ packet, e ≠ .hidRx packet)
    (hh : s.hung = false) : PressReady ((s, some e) :: h) (step P s e) := by
  have hno : delivered s e = none := delivered_of_ne he
  constructor
  · intro cmd hcmd haw
    have hbefore := haw.of_tick P he hh
    obtain ⟨hst, slot, data, hasked, hslot, hidx, hdata⟩ := hready.slot cmd hcmd hbefore
    have hkept := cmdData_cleartext P he hh hcmd hst haw
    refine ⟨loggedIn_tick P he hh hcmd.confirms hbefore.active hst, slot, data,
      (lastAsked_undelivered hno).trans hasked, hslot, ?_, fun hw => ?_⟩
    · rw [hkept]
      exact hidx
    · rw [hkept]
      exact hdata hw
  · intro haw
    have hbefore : AwaitsPress .updateUid .short s ∨ AwaitsPress .updateUids .long s :=
      haw.imp (·.of_tick P he hh) (·.of_tick P he hh)
    obtain ⟨hst, hnum⟩ := hready.block hbefore
    have hst' : (step P s e).deviceState = .loggedIn := by
      rcases hbefore with hbefore | hbefore
      · exact loggedIn_tick P he hh .updateUid hbefore.active hst
      · exact loggedIn_tick P he hh .updateUids hbefore.active hst
    refine ⟨hst', ?_⟩
    cases hflash : e.isFlash with
    | true =>
      rw [updateBlockNum_flash P hflash hst (hbefore.imp (·.active) (·.active))]
      exact hnum
    | false =>
      have hkept : (step P s e).cmdData = s.cmdData := by
        rcases haw with haw | haw
        · exact haw.cmdData_tick P he hh hflash .updateUid hst
        · exact haw.cmdData_tick P he hh hflash .updateUids hst
      unfold updateBlockNum
      rw [hkept]
      exact hnum

theorem PressReady.packet (hready : PressReady h s) (hd : delivered s e = some s₀)
    (hmap : MapBytes s₀.tables) (hpkt : StorePacket P s₀) (hr : Received P s₀ s') :
    PressReady ((s, some e) :: h) s' := by
  obtain ⟨hctl, hdata₀⟩ := delivered_eq hd
  have hbefore : ∀ {cmd k}, AwaitsPress cmd k s₀ → AwaitsPress cmd k s := by
    intro cmd k haw
    exact ⟨hctl ▸ haw.active, hctl ▸ haw.waits⟩
  have hst₀ : s₀.deviceState = s.deviceState := congrArg Control.deviceState hctl
  constructor
  · intro cmd hcmd haw
    cases receivedWait P hcmd.confirms hpkt hr haw with
    | kept hcancel haw₀ hdata hst =>
      obtain ⟨hin, slot, data, hasked, hslot, hidx, hread⟩ := hready.slot cmd hcmd (hbefore haw₀)
      have hne : packetCmd s₀.cmdPacketBuf ≠ cmd := by
        rw [hcancel]
        rcases hcmd with rfl | rfl
        · exact nofun
        · exact nofun
      refine ⟨hst.trans (hst₀.trans hin), slot, data, (lastAsked_other hd hne).trans hasked, hslot,
        ?_, fun hw => ?_⟩
      · rw [hdata, hdata₀]
        exact hidx
      · rw [hdata, hdata₀]
        exact hread hw
    | begun heq hst _ hdata hst' hrefused =>
      have ha := acceptsCleartext_of_begun P hcmd heq hst hrefused
      obtain ⟨hidx, hread⟩ := cmdData_accepted P hcmd ha
      have hslot := Nat.lt_of_le_of_ne ha.2.2.2 (hpkt.slot cmd hcmd ha)
      refine ⟨hst', packetSlot s₀, (packetAsks s₀).2, ?_, hslot, ?_, fun hw => ?_⟩
      · rw [lastAsked_delivered hd, if_pos ha]
        rfl
      · rw [hdata]
        exact hidx
      · rw [hdata]
        exact hread hw
  · intro haw
    have hwait : ReceivedWait P .updateUid .short s₀ s' ∨ ReceivedWait P .updateUids .long s₀ s' :=
      haw.imp (receivedWait P .updateUid hpkt hr) (receivedWait P .updateUids hpkt hr)
    have hkept : AwaitsPress .updateUid .short s₀ ∨ AwaitsPress .updateUids .long s₀ →
        s'.cmdData = s₀.cmdData → s'.deviceState = s₀.deviceState →
        s'.deviceState = .loggedIn ∧ updateBlockNum s' ≠ 0 := by
      intro haw₀ hdata hst
      obtain ⟨hin, hnum⟩ := hready.block (haw₀.imp hbefore hbefore)
      refine ⟨hst.trans (hst₀.trans hin), ?_⟩
      unfold updateBlockNum
      rw [hdata, hdata₀]
      exact hnum
    have hbegun : ∀ cmd, cmd = .updateUid ∨ cmd = .updateUids → packetCmd s₀.cmdPacketBuf = cmd →
        s'.cmdData = (handledPress P s₀).cmdData →
        ((handledPress P s₀).toControl = (activate s₀).toControl.finish 0 → AcceptsPending P s₀) →
        updateBlockNum s' ≠ 0 := by
      rintro cmd hcmd rfl hdata hrefused
      unfold updateBlockNum
      rw [hdata]
      exact updateBlockNum_handledPress P hmap hcmd hrefused
    rcases hwait with hwait | hwait
    · cases hwait with
      | kept _ haw₀ hdata hst => exact hkept (.inl haw₀) hdata hst
      | begun heq _ _ hdata hst' hrefused =>
        exact ⟨hst', hbegun _ (.inl rfl) heq hdata hrefused⟩
    · cases hwait with
      | kept _ haw₀ hdata hst => exact hkept (.inr haw₀) hdata hst
      | begun heq _ _ hdata hst' hrefused =>
        exact ⟨hst', hbegun _ (.inr rfl) heq hdata hrefused⟩

end SignetBase.Firmware

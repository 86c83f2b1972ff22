/-
  SignetBase/Firmware/Events.lean
  ===============================
  **Packets, button, timers, randomness, flash: one step of the original device.**

  Every interrupt handler and every action of the main loop that touches the
  modelled state is one event; `step` runs it to its end.  A host packet arrives
  as 64-byte HID packets, the last of which runs `cmd_packet_recv`.
-/
import SignetBase.Firmware.Commands
import SignetBase.Run

namespace SignetBase.Firmware

variable (P : Platform)

/-! ### Packets -/

/-- The fields of the packet header in `cmd_packet_buf`. -/
def packetDataLen (buf : Mem) : Int := (buf.get16 0 : Int) - CMD_PACKET_HEADER_SIZE

def packetCmd (buf : Mem) : Command := Command.ofCode (buf 2)

def packetMessagesRemaining (buf : Mem) : Nat := buf.get16 3

/-- The end of `cmd_packet_recv`: count the packets that announce more. -/
def countIteration (messagesRemaining : Nat) (s : Dev) : Dev :=
  if messagesRemaining ≠ 0 then { s with cmdIterCount := s.cmdIterCount + 1 } else s

/-- What the state function of the current state does with the packet. -/
def dispatch (s : Dev) : Ret :=
  stateFunction P (packetCmd s.cmdPacketBuf) (s.cmdPacketBuf.window CMD_PACKET_HEADER_SIZE)
    (packetDataLen s.cmdPacketBuf) s

/-- The part of `cmd_packet_recv` after the command was made the active one;
    `none` when the device resets itself. -/
def runPacket (s : Dev) : Option Dev :=
  let messagesRemaining := packetMessagesRemaining s.cmdPacketBuf
  let cmd := packetCmd s.cmdPacketBuf
  if cmd = .startup then some (startupCmd P s)
  else if cmd = .getDeviceState then some (finishCommand .okay [s.deviceState.code] s)
  else if cmd = .cancelButtonPress then some { s with activeCmd := none }
  else if packetDataLen s.cmdPacketBuf > CMD_PACKET_PAYLOAD_SIZE then
    some (finishCommandResp .invalidInput s)
  else
    match dispatch P s with
    | .rejected => some (countIteration messagesRemaining (finishCommandResp .invalidState s))
    | .handled s => some (countIteration messagesRemaining s)
    | .reset => none

/-- Make the command of the packet the active one. -/
def activate (s : Dev) : Dev :=
  let next := packetCmd s.cmdPacketBuf
  { s with
    cmdIterCount := if s.activeCmd = some next then s.cmdIterCount else 0
    activeCmd := some next
    cmdMessagesRemaining := packetMessagesRemaining s.cmdPacketBuf }

/-- A wait for either kind of press. -/
def waiting (s : Dev) : Bool := s.waitingForButtonPress || s.waitingForLongButtonPress

/-- `cmd_packet_recv` on the packet in `cmd_packet_buf`; `none` when the device
    resets itself. -/
def cmdPacketRecv (s : Dev) : Option Dev :=
  let next := packetCmd s.cmdPacketBuf
  if next = .disconnect then some (cmdDisconnect s)
  else if next = .cancelButtonPress ∧ s.activeCmd ≠ none then
    if waiting s then some (finishCommandResp .buttonPressCanceled (endButtonPressWait s))
    else some s
  else runPacket P (activate s)

/-! ### Random words, flash completions, timeouts -/

/-- The `DS_INITIALIZING` part of `cmd_rand_update`. -/
def initializingRandUpdate (s : Dev) : Dev :=
  let avail := randAvail s
  let s :=
    if avail ≤ (INIT_RAND_DATA_SZ / 4 : Nat) then
      let gathered := avail - s.cmdData.getInt CmdData.initDataRandAvailInit
      getProgressCheck
        { s with
          cmdData := s.cmdData.putInt CmdData.initDataRandomDataGathered gathered
          progressLevel := fun i => if i = 1 then gathered else s.progressLevel i }
    else s
  finalizeRootPageCheck P s

/-- The part of `cmd_rand_update` that serves the active command. -/
def commandRandUpdate (s : Dev) : Dev :=
  match s.activeCmd with
  | some .getRandBits => getRandBitsCmdCheck s
  | some .login => loginCmdIter P s
  | _ => s

/-- `cmd_rand_update`. -/
def cmdRandUpdate (s : Dev) : Dev :=
  commandRandUpdate P (if s.deviceState = .initializing then initializingRandUpdate P s else s)

/-- The `DS_INITIALIZING` part of `flash_write_complete`. -/
def initializingWriteComplete (s : Dev) : Dev :=
  let written := s.cmdData.getInt CmdData.initDataBlocksWritten + 1
  let gathered := s.cmdData.getInt CmdData.initDataRandomDataGathered
  let level := if written > s.progressMaximum 0 then s.progressMaximum 0 else written
  let s := getProgressCheck
    { s with
      cmdData := s.cmdData.putInt CmdData.initDataBlocksWritten written
      progressLevel := fun i =>
        if i = 0 then level else if i = 1 then gathered else s.progressLevel i }
  if written < NUM_DATA_BLOCKS then writeInitialBlock P written.toNat s
  else if written = NUM_DATA_BLOCKS then finalizeRootPageCheck P s
  else
    let (ok, s) := db2StartupScan P CmdData.initDataBlock CmdData.initDataBlkInfo
      { s with headerVersion := 2, dbVersion := 2 }
    if ok then enterState .loggedOut s else enterState .uninitialized s

/-- The `DS_WIPING` part of `flash_write_complete`. -/
def wipingWriteComplete (s : Dev) : Dev :=
  let next := s.cmdData.getInt CmdData.wipeDataBlock + 1
  let s := getProgressCheck
    { s with
      cmdData := s.cmdData.putInt CmdData.wipeDataBlock next
      progressLevel := fun i => if i = 0 then next else s.progressLevel i }
  if next = NUM_STORAGE_BLOCKS then enterState .uninitialized s
  else flashWritePage (idBlk next.toNat) none 0 s

/-- The `DS_ERASING_PAGES` part of `flash_write_complete`. -/
def erasingPagesWriteComplete (s : Dev) : Dev :=
  let next := (s.cmdData.get16 CmdData.eraseFlashPagesIndex + 1) % 65536
  let s := getProgressCheck
    { s with
      cmdData := s.cmdData.put16 CmdData.eraseFlashPagesIndex next
      progressLevel := fun i => if i = 0 then next else s.progressLevel i }
  if next = s.cmdData.get16 CmdData.eraseFlashPagesNumPages then enterState .firmwareUpdate s
  else flashWritePage (FLASH_MEM_BASE_ADDR + FLASH_PAGE_SIZE * next) none 0 s

/-- The part of `flash_write_complete` that continues a long operation. -/
def stateWriteComplete (s : Dev) : Dev :=
  match s.deviceState with
  | .initializing => initializingWriteComplete P s
  | .wiping => wipingWriteComplete s
  | .erasingPages => erasingPagesWriteComplete s
  | _ => s

/-- The part of `flash_write_complete` that serves the active command. -/
def commandWriteComplete (s : Dev) : Dev :=
  match s.activeCmd with
  | some .writeCleartextPassword | some .changeMasterPassword | some .writeBlock
  | some .eraseBlock | some .writeFlash => finishCommandResp .okay s
  | some .updateUids | some .updateUid => updateUidCmdWriteFinished P s
  | some .startup => startupCmdIter P s
  | _ => s

/-- `flash_write_complete`. -/
def flashWriteComplete (s : Dev) : Dev := commandWriteComplete P (stateWriteComplete P s)

/-- `flash_write_failed`. -/
def flashWriteFailed (s : Dev) : Dev :=
  if s.activeCmd ≠ none then finishCommandResp .writeFailed s else s

/-- `blink_timeout`. -/
def blinkTimeout (s : Dev) : Dev :=
  if waiting s then
    finishCommandResp .buttonPressTimeout (endLongButtonPressWait (endButtonPressWait s))
  else s

/-- `cmd_packet_sent`. -/
def cmdPacketSent (s : Dev) : Dev :=
  if s.activeCmd = some .readAllUids then readAllUidsCmdIter P s else s

/-! ### Typing passwords while disconnected -/

/-- `generate_backspaces`. -/
def generateBackspaces (n : Nat) (buf : Mem) : Mem :=
  buf.write 0 ((List.range n).flatMap fun _ => [0, 42, 0, 0])

/-- `timer_timeout`. -/
def timerTimeout (s : Dev) : Dev :=
  let index := s.cleartextPassIndex
  let s := { s with cleartextPassIndex := -1 }
  if index ≥ 0 then
    let n := index.toNat + 1
    usbKeyboardType usbKeyboardTypingDone ⟨.cleartextTypeBuf, 0⟩ (n * 2)
      { s with
        cleartextTypeBuf := generateBackspaces n s.cleartextTypeBuf
        cleartextPassTyping := true }
  else s

/-- `button_press_disconnected`. -/
def buttonPressDisconnected (s : Dev) : Dev := { s with timerRunning := false }

/-- `button_release_disconnected`. -/
def buttonReleaseDisconnected (s : Dev) : Dev :=
  if s.cleartextPassTyping then s
  else
    let index := s.cleartextPassIndex + 1
    let s := { s with cleartextPassIndex := index }
    if index = NUM_CLEARTEXT_PASS then { timerTimeout s with timerRunning := false }
    else
      let s := usbKeyboardType usbKeyboardTypingDone ⟨.cleartextTypeBuf, 0⟩ 2
        { s with
          cleartextTypeBuf := s.cleartextTypeBuf.write 0 [0, UInt8.ofNat (30 + index).toNat]
          cleartextPassTyping := true }
      { s with timerRunning := true }

/-- The bytes of `cleartext_passwords[index]`, where the index may be -1. -/
def cleartextPass (s : Dev) (index : Int) : Mem := fun a =>
  let off := (RootPage.cleartextPasswords : Int) + CLEARTEXT_PASS_SIZE * index + a
  if off ≥ 0 then s.rootPage off.toNat else P.beforeRootPage (-off).toNat

/-- `long_button_press_disconnected`. -/
def longButtonPressDisconnected (s : Dev) : Dev :=
  if s.rootPage RootPage.signature = 2 then
    let index := s.cleartextPassIndex
    let p := cleartextPass P s index
    let entries := (p 1).toNat
    if p 0 ≠ 0xff ∧ p 0 ≠ 0 ∧ entries * 2 ≤ 126 then
      let n := (index + 1).toNat
      let buf := (generateBackspaces n s.cleartextTypeBuf).copy (n * 4) p 130 (entries * 2)
      usbKeyboardType usbKeyboardTypingDone ⟨.cleartextTypeBuf, 0⟩ (entries + n * 2)
        { s with cleartextPassIndex := -1, cleartextTypeBuf := buf, cleartextPassTyping := true }
    else { timerTimeout s with timerRunning := false }
  else s

/-! ### The button -/

/-- A LOGIN that asked for a token has the right key: only the token is missing. -/
def loginAuthenticated (encryptKey : Bytes) (s : Dev) : Dev :=
  { s with encryptKey, cmdData := s.cmdData.put32 CmdData.loginAuthenticated 1 }

/-- The outcome of a login attempt in `button_press`. -/
def loginPressed (key : Option Bytes) (s : Dev) : Dev :=
  match key with
  | some encryptKey => enterState .loggedIn (finishCommandResp .okay { s with encryptKey })
  | none => finishCommandResp .badPassword s

/-- The action of a short press for the active command. -/
def buttonPressed (s : Dev) : Dev :=
  match s.activeCmd with
  | some .readCleartextPassword =>
    let idx := s.cmdData.get32 CmdData.readCleartextPasswordIdx
    finishCommand .okay (s.rootPage.read (cleartextPassOff idx) CLEARTEXT_PASS_SIZE) s
  | some .writeCleartextPassword =>
    let idx := s.cmdData.get32 CmdData.writeCleartextPasswordIdx
    flashWritePage (idBlk 0) (some ⟨.rootPage, 0⟩) RootPage.size
      { s with
        rootPage := s.rootPage.copy (cleartextPassOff idx) s.cmdData
          CmdData.writeCleartextPasswordData CLEARTEXT_PASS_SIZE }
  | some .login =>
    if s.rootPage RootPage.signature = 2 then
      let key := attemptLogin P s (s.cmdData.read CmdData.loginPassword AES_256_KEY_SIZE)
      if key.isSome ∧ s.cmdData.get32 CmdData.loginGenToken ≠ 0 then
        loginCmdIter P (loginAuthenticated (key.getD []) s)
      else loginPressed key s
    else finishCommandResp .unknownDbFormat s
  | some .loginToken =>
    if s.rootPage RootPage.signature = 2 then
      loginPressed
        (attemptLoginToken P s (s.cmdData.read CmdData.loginTokenToken AES_256_KEY_SIZE)) s
    else s
  | some .updateUid => updateUidCmdComplete P s
  | some .readUid => readUidCmdComplete P s
  | some .buttonWait => finishCommandResp .okay s
  | _ => s

/-- `button_press`. -/
def buttonPress (s : Dev) : Dev :=
  if s.waitingForButtonPress then buttonPressed P (endButtonPressWait s)
  else if s.waitingForLongButtonPress then { s with blinkPaused := true }
  else if s.deviceState = .disconnected then buttonPressDisconnected s
  else s.emit (.event 1)

/-- The action of a long press for the active command. -/
def longButtonPressed (s : Dev) : Dev :=
  match s.activeCmd with
  | some .readAllUids => readAllUidsCmdIter P s
  | some .updateUids => updateUidCmdComplete P s
  | some .updateFirmware => enterState .firmwareUpdate (finishCommandResp .okay s)
  | some .wipe =>
    let s := finishCommandResp .okay s
    let s := { s with cmdData := s.cmdData.put32 CmdData.wipeDataBlock 0 }
    enterProgressingState .wiping [(NUM_STORAGE_BLOCKS : Int)] (flashWritePage (idBlk 0) none 0 s)
  | some .backupDevice =>
    let s := finishCommandResp .okay s
    enterState .backingUpDevice { s with backupPrevState := s.deviceState }
  | some .restoreDevice => enterState .restoringDevice (finishCommandResp .okay s)
  | some .initializeDevice => initializeCmdComplete P s
  | some .changeMasterPassword =>
    if s.rootPage RootPage.signature = 2 then
      flashWritePage (idBlk 0) (some ⟨.rootPage, 0⟩) RootPage.size
        { s with rootPage := changedRootPage P s }
    else finishCommandResp .unknownDbFormat s
  | _ => s

/-- `long_button_press`. -/
def longButtonPress (s : Dev) : Dev :=
  if s.waitingForLongButtonPress then longButtonPressed P (endLongButtonPressWait s)
  else if s.deviceState = .disconnected then longButtonPressDisconnected P s
  else s

/-- `button_release`. -/
def buttonRelease (s : Dev) : Dev :=
  if s.waitingForLongButtonPress then { s with blinkPaused := false }
  else if s.deviceState = .disconnected then buttonReleaseDisconnected s
  else s

/-! ### The flash driver -/

/-- Program the next double word and advance. -/
def programDoubleWord (s : Dev) : Dev :=
  match s.flashWriteData with
  | none => s
  | some p =>
    { s with
      flash := s.flash.copy s.flashWriteAddr (s.object p.object) p.off 8
      flashWriteData := some { p with off := p.off + 8 }
      flashWriteAddr := s.flashWriteAddr + 8 }

/-- The loop of `flash_write_state`: `n` double words at most; `err` counts down
    to the one the hardware reports an error for.  The result tells whether there
    was one. -/
def programLoop : Nat → Option Nat → Dev → Bool × Dev
  | 0, _, s => (false, s)
  | n + 1, err, s =>
    if s.flashWriteCount = 0 then (false, s)
    else
      let s := programDoubleWord s
      if err = some 0 then (true, s)
      else programLoop n (err.map (· - 1)) { s with flashWriteCount := s.flashWriteCount - 1 }

/-- `flash_idle`, which in the writing state runs `flash_write_state`. -/
def flashIdle (err : Option Nat) (s : Dev) : Dev :=
  if s.flashState = .writing then
    let (failed, s) := programLoop 32 err s
    if failed then flashWriteFailed { s with flashState := .idle }
    else if s.flashWriteCount = 0 then flashWriteComplete P { s with flashState := .idle }
    else s
  else s

/-- The first address of the flash page of an address (`addr_to_pg`); flash
    itself begins at a page boundary. -/
def pageAddr (addr : Nat) : Nat := addr / FLASH_PAGE_SIZE * FLASH_PAGE_SIZE

/-- The chip has erased the page of the pending request. -/
def pageErased (s : Dev) : Dev :=
  { s with flash := s.flash.fill (pageAddr s.flashWriteAddr) FLASH_PAGE_SIZE 0xff }

/-- `flash_handler`: the erase ended, well (`eop`) or not. -/
def flashHandler (eop : Bool) (s : Dev) : Dev :=
  if s.flashState = .erasing then
    if eop then
      let s := pageErased s
      if s.flashWriteData.isSome then { s with flashState := .writing }
      else flashWriteComplete P { s with flashState := .idle }
    else flashWriteFailed { s with flashState := .idle }
  else s

/-! ### USB -/

/-- The place of a HID packet's payload in `cmd_packet_buf`. -/
def rxIndex (packet : Bytes) : Nat := (packet.getD 0 0).toNat % 128 * RAW_HID_PAYLOAD_SIZE

/-- The flag of the last HID packet of a command. -/
def rxLast (packet : Bytes) : Bool := (packet.getD 0 0).toNat ≥ 128

/-- The packet fits in `cmd_packet_buf`. -/
def rxFits (packet : Bytes) : Bool := rxIndex packet + RAW_HID_PAYLOAD_SIZE ≤ CMD_PACKET_BUF_SIZE

/-- Store the payload of a HID packet. -/
def rxStore (packet : Bytes) (s : Dev) : Dev :=
  { s with
    cmdPacketBuf := s.cmdPacketBuf.write (rxIndex packet)
      ((List.range RAW_HID_PAYLOAD_SIZE).map fun i => packet.getD (i + 1) 0) }

/-- `usb_raw_hid_rx`: one HID packet; the last one of a command runs it. -/
def usbRawHidRx (packet : Bytes) (s : Dev) : Option Dev :=
  if rxFits packet then
    if rxLast packet then cmdPacketRecv P (rxStore packet s) else some (rxStore packet s)
  else some s

/-- A packet that fits changes nothing behind `cmd_packet_buf` when it is stored, and one that
    does not fit changes nothing at all. -/
structure StoresSafely (packet : Bytes) (s : Dev) : Prop where
  within : rxFits packet = true →
    ∀ a, CMD_PACKET_BUF_SIZE ≤ a → (rxStore packet s).cmdPacketBuf a = s.cmdPacketBuf a
  unfit : rxFits packet = false → usbRawHidRx P packet s = some s

theorem storesSafely (packet : Bytes) (s : Dev) : StoresSafely P packet s where
  within := by
    intro hfits a ha
    have hle : rxIndex packet + RAW_HID_PAYLOAD_SIZE ≤ CMD_PACKET_BUF_SIZE :=
      of_decide_eq_true hfits
    refine Mem.write_apply_of_notMem _ (.inr ?_)
    rw [List.length_map, List.length_range]
    exact Nat.le_trans hle ha
  unfit := by
    intro hfits
    unfold usbRawHidRx
    rw [hfits, if_neg Bool.false_ne_true]

/-- `usb_tx_keyboard`: a keyboard report was transmitted. -/
def usbTxKeyboard (s : Dev) : Dev :=
  if s.typing then
    if s.charPos = s.nChars then usbKeyboardTypingDone { s with typing := false }
    else { s with charPosToType := s.charPos }
  else s

/-- `usb_keyboard_idle`; `elapsed` says that the typing interval is over. -/
def usbKeyboardIdle (elapsed : Bool) (s : Dev) : Dev :=
  if s.typing ∧ s.charPosToType ≥ 0 ∧ elapsed then
    let p := { s.chars with off := s.chars.off + s.charPosToType.toNat * 2 }
    { s.emit (.keyboardReport (s.deref p 2)) with
      charPosToType := -1
      charPos := (s.charPos + 1) % 256 }
  else s

/-! ### Power-on and steps -/

/-- What can happen to the device. -/
inductive Event where
  | hidRx (packet : Bytes)
  | packetSent
  | buttonDown
  | buttonUp
  | buttonHeld
  | blinkTimeout
  | timer
  | rtcWord (w : UInt32)
  | rngWord (w : UInt32)
  | flashHandler (eop : Bool)
  | flashIdle (err : Option Nat)
  | txKeyboard
  | keyboardIdle (elapsed : Bool)

def emptyRing : RandRing where
  buf := fun _ => 0
  head := 0
  tail := 0
  level := 0

/-- The state after a reset, with the given flash contents: all globals have
    their initial values and `cmd_init` has run. -/
def powerOn (flash : Mem) : Dev :=
  cmdInit P
    { activeCmd := none
      cmdIterCount := 0
      cmdMessagesRemaining := 0
      deviceState := .disconnected
      cmdPacketBuf := fun _ => 0
      cmdData := fun _ => 0
      encryptKey := List.replicate AES_256_KEY_SIZE 0
      tokenAuthRandCt := List.replicate AES_256_KEY_SIZE 0
      tokenEncryptKeyCt := List.replicate AES_256_KEY_SIZE 0
      headerVersion := 0
      dbVersion := 0
      backupPrevState := .disconnected
      rootPage := fun _ => 0
      nProgressComponents := 0
      progressLevel := fun _ => 0
      progressMaximum := fun _ => 0
      progressCheck := 0
      progressTargetState := 0
      waitingForButtonPress := false
      waitingForLongButtonPress := false
      cleartextPassIndex := -1
      cleartextTypeBuf := fun _ => 0
      cleartextPassTyping := false
      cmdResp := fun _ => 0
      tables := { blockInfoTbl := fun _ => ⟨0, 0, 0, 0, 0, 0⟩, uidMap := fun _ => 0 }
      flash
      flashState := .idle
      flashWriteData := none
      flashWriteAddr := 0
      flashWriteCount := 0
      rtcRand := emptyRing
      rngRand := emptyRing
      typing := false
      nChars := 0
      chars := ⟨.cmdData, 0⟩
      charPos := 0
      charPosToType := 0
      rawHidTxPending := false
      blinking := true
      blinkPaused := false
      timerRunning := false
      buttonState := false
      hung := false
      outputs := [] }

/-- One event.  A hung device does nothing any more. -/
def step (s : Dev) (e : Event) : Dev :=
  if s.hung then s
  else
    match e with
    | .hidRx packet =>
      match usbRawHidRx P packet s with
      | some s => s
      | none => { powerOn P s.flash with outputs := s.outputs }
    | .packetSent =>
      if s.rawHidTxPending then cmdPacketSent P { s with rawHidTxPending := false } else s
    | .buttonDown => if s.buttonState then s else { buttonPress P s with buttonState := true }
    | .buttonUp => if s.buttonState then { buttonRelease s with buttonState := false } else s
    | .buttonHeld => if s.buttonState then longButtonPress P { s with buttonState := false } else s
    | .blinkTimeout =>
      if s.blinking ∧ ¬ s.blinkPaused then blinkTimeout { s with blinking := false } else s
    | .timer => if s.timerRunning then { timerTimeout s with timerRunning := false } else s
    | .rtcWord w => cmdRandUpdate P { s with rtcRand := s.rtcRand.put w }
    | .rngWord w => cmdRandUpdate P { s with rngRand := s.rngRand.put w }
    | .flashHandler eop => flashHandler P eop s
    | .flashIdle err => flashIdle P err s
    | .txKeyboard => usbTxKeyboard s
    | .keyboardIdle elapsed => usbKeyboardIdle elapsed s

/-- Power-on with any flash contents. -/
def Initial (s : Dev) : Prop := ∃ flash, s = powerOn P flash

/-- The runs of the device whose steps all satisfy `ok`. -/
abbrev DevRun (ok : Dev → Event → Prop) := Run (Initial P) (step P) ok

end SignetBase.Firmware

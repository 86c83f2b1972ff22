/-
  SignetBase/Firmware/CleartextStore.lean
  =======================================
  **The slots of the root page as a store of passwords.**

  WRITE_CLEARTEXT_PASSWORD and READ_CLEARTEXT_PASSWORD are accepted with a slot and wait for
  a press; what they then do to the slot is taken out of `cmd_data`, and a write is answered
  when the whole root page is in flash.  `storedSlots` says what the slots hold by what was
  answered, over a run with power cycles, and `SlotsRight` that a step keeps to it.

  The handlers let the slot behind the last one through, and that is read and written outside
  the table.  Other things go wrong when a refused command is confirmed, and when the
  write of the root page is broken off; `StoreStep` says which steps do neither.
-/
import SignetBase.Firmware.RootSteps

namespace SignetBase.Firmware

open Control

variable (P : Platform)

/-! ### What is stored -/

/-- Power is lost and comes back. -/
def powerCycle (s : Dev) : Dev := { powerOn P s.flash with outputs := s.outputs }

/-- An event, or a power cycle. -/
def stepOrCycle (s : Dev) : Option Event → Dev
  | some e => step P s e
  | none => powerCycle P s

/-- The two commands for one slot. -/
def isCleartext (cmd : Command) : Prop :=
  cmd = .readCleartextPassword ∨ cmd = .writeCleartextPassword

/-- The data length that the handler of the command checks. -/
def cleartextDataLen (cmd : Command) : Int :=
  if cmd = .writeCleartextPassword then CLEARTEXT_PASS_SIZE + 1 else 1

/-- The slot in the packet in `cmd_packet_buf`. -/
def packetSlot (s : Dev) : Nat := (s.cmdPacketBuf CMD_PACKET_HEADER_SIZE).toNat

/-- The packet in `cmd_packet_buf` is one of the command `cmd` that its handler accepts. -/
def AcceptsCleartext (cmd : Command) (s : Dev) : Prop :=
  s.deviceState = .loggedIn ∧ packetCmd s.cmdPacketBuf = cmd ∧
    packetDataLen s.cmdPacketBuf = cleartextDataLen cmd ∧ packetSlot s ≤ NUM_CLEARTEXT_PASS

instance (cmd : Command) (s : Dev) : Decidable (AcceptsCleartext cmd s) :=
  inferInstanceAs (Decidable (_ ∧ _ ∧ _ ∧ _))

/-- The slot and, for a write, the data that the packet asks for. -/
def packetAsks (s : Dev) : Nat × Bytes :=
  (packetSlot s, s.cmdPacketBuf.read (CMD_PACKET_HEADER_SIZE + 1) CLEARTEXT_PASS_SIZE)

/-- What the last accepted packet of the command asks for. -/
def lastAsked (cmd : Command) : History Dev (Option Event) → Option (Nat × Bytes)
  | [] => none
  | (s, e) :: h =>
    match e.bind (delivered s) with
    | some s₀ => if AcceptsCleartext cmd s₀ then some (packetAsks s₀) else lastAsked cmd h
    | none => lastAsked cmd h

/-- The command is answered OKAY on the way from `s` to `s'`. -/
def answersOkay (cmd : Command) (s s' : Dev) : Bool := (newOutputs s s').any (Output.isOkayTo cmd)

/-- The contents of slot `i`: those of the last write to it that was answered OKAY, or at first
    those in `root`. -/
def storedSlots (root : Mem) : History Dev (Option Event) → Nat → Bytes
  | [], i => root.read (cleartextPassOff i) CLEARTEXT_PASS_SIZE
  | (s, e) :: h, i =>
    match lastAsked .writeCleartextPassword h with
    | some (slot, data) =>
      if answersOkay .writeCleartextPassword s (stepOrCycle P s e) ∧ i = slot then data
      else storedSlots root h i
    | none => storedSlots root h i

/-- A press is consumed for the command. -/
def consumesPress (cmd : Command) (s : Dev) : Option Event → Bool
  | some .buttonDown =>
    !s.hung && !s.buttonState && s.waitingForButtonPress && decide (s.activeCmd = some cmd)
  | _ => false

/-- The root page before the last write that was confirmed. -/
def rootAtPress : History Dev (Option Event) → Option Mem
  | [] => none
  | (s, e) :: h =>
    if consumesPress .writeCleartextPassword s e then some s.rootPage else rootAtPress h

/-- The index into `cleartext_passwords` that the step uses. -/
def usedSlot (s : Dev) (e : Option Event) : Option Nat :=
  if consumesPress .readCleartextPassword s e then
    some (s.cmdData.get32 CmdData.readCleartextPasswordIdx)
  else if consumesPress .writeCleartextPassword s e then
    some (s.cmdData.get32 CmdData.writeCleartextPasswordIdx)
  else none

/-- The driver is writing the root page. -/
def SavesRoot (s : Dev) : Prop :=
  s.flashState ≠ .idle ∧ ∃ p ∈ s.flashWriteData, p.object = .rootPage

/-- The root page is in flash what it is in RAM. -/
def RootSynced (s : Dev) : Prop := ∀ a < RootPage.size, s.flash (idBlk 0 + a) = s.rootPage a

/-- The slots of a root page hold `slots`. -/
def SlotsAre (root : Mem) (slots : Nat → Bytes) : Prop :=
  ∀ i < NUM_CLEARTEXT_PASS, root.read (cleartextPassOff i) CLEARTEXT_PASS_SIZE = slots i

/-- The step, and the state before it, are right, in a run from the flash contents `flash`: an
    access is inside the table; a READ that is answered OKAY returns what is stored; a confirmed
    WRITE changes its slot and nothing else in the root page, and so does, in flash, one that is
    answered OKAY; and unless the root page is just being written, it is in flash what it is in
    RAM, and its slots hold what is stored. -/
structure SlotsRight (flash : Mem) (h : History Dev (Option Event)) (s : Dev)
    (e : Option Event) : Prop where
  inside : ∀ i ∈ usedSlot s e, cleartextPassOff i + CLEARTEXT_PASS_SIZE ≤
    RootPage.cleartextPasswords + NUM_CLEARTEXT_PASS * CLEARTEXT_PASS_SIZE
  read : ∀ r, .response r ∈ newOutputs s (stepOrCycle P s e) →
    r.resp = .okay → r.cmd = some .readCleartextPassword → ∃ slot data,
      lastAsked .readCleartextPassword h = some (slot, data) ∧
        r.payload = storedSlots P (powerOn P flash).rootPage h slot
  write : consumesPress .writeCleartextPassword s e = true → ∃ slot data,
    lastAsked .writeCleartextPassword h = some (slot, data) ∧
      (stepOrCycle P s e).rootPage = s.rootPage.write (cleartextPassOff slot) data
  saved : answersOkay .writeCleartextPassword s (stepOrCycle P s e) = true → ∃ slot data root,
    lastAsked .writeCleartextPassword h = some (slot, data) ∧ rootAtPress h = some root ∧
      (stepOrCycle P s e).rootPage = root.write (cleartextPassOff slot) data ∧
      RootSynced (stepOrCycle P s e)
  synced : ¬ SavesRoot s → RootSynced s
  slots : ¬ SavesRoot s → SlotsAre s.rootPage (storedSlots P (powerOn P flash).rootPage h)

/-- Every step of every run is right. -/
def SlotsAlwaysRight : Prop :=
  ∀ flash h s e, Run (· = powerOn P flash) (stepOrCycle P) anyStep h s →
    SlotsRight P flash h s e

/-! ### The slot behind the table -/

/-- A login, and a READ_CLEARTEXT_PASSWORD for the slot. -/
def readSlot (slot : UInt8) : List Event :=
  loginWithKey ++ [.buttonDown, .buttonUp] ++ hidPackets 38 7 0 [slot]

/-- The run up to the press that confirms the READ. -/
def readRun (slot : UInt8) : History Dev (Option Event) × Dev :=
  replay (stepOrCycle addPlatform) ((readSlot slot).map some) ([], powerOn addPlatform keyedFlash)

theorem run_readRun (slot : UInt8) : Run (· = powerOn addPlatform keyedFlash)
    (stepOrCycle addPlatform) anyStep (readRun slot).1 (readRun slot).2 :=
  run_replay _ ([], powerOn addPlatform keyedFlash) (.start rfl)

/-- **The slot behind the last one is read**: `idx > NUM_CLEARTEXT_PASS` lets 4 through. -/
theorem slot_outside : ¬ SlotsAlwaysRight addPlatform := by
  intro hall
  have hright := hall _ _ _ (some .buttonDown) (run_readRun 4)
  have hused : usedSlot (readRun 4).2 (some .buttonDown) = some 4 := by decide +kernel
  have hinside := hright.inside 4 hused
  revert hinside
  decide

/-! ### Steps that spoil nothing -/

/-- The packet in `cmd_packet_buf` is accepted, if it is one of the commands that take what a
    press confirms from `cmd_data` to the root page or to an address in storage. -/
def AcceptsPending (s : Dev) : Prop :=
  match packetCmd s.cmdPacketBuf with
  | .readCleartextPassword => AcceptsCleartext .readCleartextPassword s
  | .writeCleartextPassword => AcceptsCleartext .writeCleartextPassword s
  | .updateUid | .updateUids => s.deviceState = .loggedIn ∧
      packetDataLen s.cmdPacketBuf ≤ CMD_PACKET_PAYLOAD_SIZE ∧
      UpdateTaken P (packetCmd s.cmdPacketBuf) (s.cmdPacketBuf.window CMD_PACKET_HEADER_SIZE)
        (packetDataLen s.cmdPacketBuf) (activate s)
  | _ => True

/-- A packet that is executed spoils nothing: the slot it is accepted with is one of the table;
    it is not refused and yet left to a press that is awaited; and it restores another block than
    that of the root page. -/
structure StorePacket (s : Dev) : Prop where
  slot : ∀ cmd, isCleartext cmd → AcceptsCleartext cmd s → packetSlot s ≠ NUM_CLEARTEXT_PASS
  refused : ∀ k, pressKind (packetCmd s.cmdPacketBuf) = some k → s.toControl.waits k = true →
    packetMessagesRemaining s.cmdPacketBuf ≠ 0 → AcceptsPending P s
  restored : s.deviceState = .restoringDevice → packetCmd s.cmdPacketBuf = .writeBlock ∨
    packetCmd s.cmdPacketBuf = .eraseBlock → packetSlot s ≠ 0

/-- A step spoils nothing: no write is disturbed, no packet spoils anything, neither WIPE nor
    UPDATE_FIRMWARE is confirmed, and while the root page is being written neither the chip
    fails nor power. -/
def StoreStep (s : Dev) : Option Event → Prop
  | some e => Undisturbed P s e ∧ (∀ s₀, delivered s e = some s₀ → StorePacket P s₀) ∧
      (Pressed s .long e → s.activeCmd ≠ some .wipe ∧ s.activeCmd ≠ some .updateFirmware) ∧
      (SavesRoot s → ¬ DriverFails s e)
  | none => ¬ SavesRoot s

end SignetBase.Firmware

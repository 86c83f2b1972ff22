/-
  SignetBase/FirmwareHc/PacketReads.lean
  ======================================
  **What the command handlers of the Signet HC read of a packet (`commands.c`, `db.c`,
  `firmware_update_state.c`, `bootloader_state.c`).**

  `cmd_packet_recv` takes the length of the data from the header and compares it only with
  the largest length there may be.  Each handler then makes its own checks.  The spans that
  a handler reads are counted from the data behind the header.

  `write_flash_cmd` makes no check: with less than four bytes of data it copies a negative
  number of bytes.  All others stay in the buffer (`cmdPacketRecvReads_within`), and
  `rawHidReceive_safe` puts this together with where packets are stored.
-/
import SignetBase.Firmware.Events
import SignetBase.FirmwareHc.RawHidRx

namespace SignetBase.FirmwareHc

/-! ### Sizes -/

def BLK_SIZE : Nat := 16384
def HC_HASH_FUNCTION_PARAMS_LENGTH : Nat := 16
def HC_HASH_FN_SALT_SZ : Nat := 32
def HC_KEYSTORE_KEY_SIZE : Nat := 32

/-- `sizeof(struct hc_firmware_info)`. -/
def hcFirmwareInfoSize : Nat := 80

/-- `enum hc_boot_mode`. -/
inductive HcBootMode where
  | bootloader | application | unknown
deriving DecidableEq, Repr

/-! ### Handlers -/

section Handlers

variable (dataLen : Int)

def getProgressCmdReads : List Span := [⟨0, 1⟩, ⟨1, 1⟩, ⟨2, 1⟩, ⟨3, 1⟩]

def initializeCmdReads : List Span :=
  if dataLen < INITIALIZE_CMD_SIZE then []
  else
    [⟨0, AES_256_KEY_SIZE⟩, ⟨AES_256_KEY_SIZE, AES_BLK_SIZE⟩,
      ⟨AES_256_KEY_SIZE + AES_BLK_SIZE, SALT_SZ_V2⟩,
      ⟨AES_256_KEY_SIZE + AES_BLK_SIZE + SALT_SZ_V2, INIT_RAND_DATA_SZ⟩]

/-- `update_firmware_cmd`: the comparison is unsigned. -/
def updateFirmwareCmdReads : List Span :=
  if sizeT dataLen < hcFirmwareInfoSize then [] else [⟨0, hcFirmwareInfoSize⟩]

def writeFlashCmdReads (mode : HcBootMode) : List Span :=
  match mode with
  | .bootloader | .application =>
    [⟨0, 1⟩, ⟨1, 1⟩, ⟨2, 1⟩, ⟨3, 1⟩, ⟨4, sizeT (dataLen - 4)⟩]
  | .unknown => []

def readBlockCmdReads : List Span := if dataLen ≠ 2 then [] else [⟨0, 2⟩]

def writeBlockCmdReads : List Span :=
  if dataLen ≠ 2 + BLK_SIZE then [] else [⟨0, 2⟩, ⟨2, BLK_SIZE⟩]

def eraseBlockCmdReads : List Span := if dataLen ≠ 2 then [] else [⟨0, 2⟩]

/-- `change_master_password_cmd`: the old key is used if the root page has a known format. -/
def changeMasterPasswordCmdReads (formatCurrent : Bool) : List Span :=
  if dataLen ≠ (AES_256_KEY_SIZE * 2 + HASH_FN_SZ + SALT_SZ_V2 : Nat) then []
  else
    [⟨AES_256_KEY_SIZE * 2, HC_HASH_FUNCTION_PARAMS_LENGTH⟩,
      ⟨AES_256_KEY_SIZE * 2 + HASH_FN_SZ, HC_HASH_FN_SALT_SZ⟩,
      ⟨AES_256_KEY_SIZE, HC_KEYSTORE_KEY_SIZE⟩] ++
    if formatCurrent then [⟨0, AES_256_KEY_SIZE⟩] else []

def getRandBitsCmdReads : List Span := if dataLen < 2 then [] else [⟨0, 1⟩, ⟨1, 1⟩]

def loginCmdReads : List Span :=
  if dataLen < AES_256_KEY_SIZE then []
  else
    ⟨0, AES_256_KEY_SIZE⟩ ::
      if dataLen - AES_256_KEY_SIZE > 0 then [⟨AES_256_KEY_SIZE, 1⟩] else []

def loginTokenCmdReads : List Span :=
  if dataLen ≠ AES_256_KEY_SIZE then [] else [⟨0, AES_256_KEY_SIZE⟩]

/-- READ_UID in `logged_in_state`. -/
def readUidReads : List Span := if dataLen < 3 then [] else [⟨0, 1⟩, ⟨1, 1⟩, ⟨2, 1⟩]

/-- UPDATE_UID and UPDATE_UIDS in `logged_in_state`, with the copy of `update_uid_cmd`. -/
def updateUidReads (data : Mem) : List Span :=
  if dataLen < 4 then []
  else
    let uid := data.get16 0
    let blkCount := sizeToSubBlkCount (data.get16 2)
    [⟨0, 1⟩, ⟨1, 1⟩, ⟨2, 1⟩, ⟨3, 1⟩] ++
    if uid < MIN_UID ∨ uid > MAX_UID ∨ dataLen - 4 ≠ (blkCount * SUB_BLK_SIZE : Nat) then []
    else [⟨4, sizeT (dataLen - 4)⟩]

/-- READ_ALL_UIDS in `logged_in_state`. -/
def readAllUidsReads : List Span := if dataLen < 1 then [] else [⟨0, 1⟩]

/-- TYPE in `logged_in_state`; `cmd_data.type_data.chars` has the size of a payload. -/
def typeReads : List Span :=
  let nChars := dataLen / 2
  if sizeT (nChars * 4) > hcLink.cmdPacketPayloadSize then []
  else (List.range nChars.toNat).flatMap fun i => [⟨i * 2, 1⟩, ⟨i * 2 + 1, 1⟩]

end Handlers

/-! ### Dispatching -/

/-- What decides how a packet is handled: the build, the globals that `commands.c` branches
    on, what `flash_get_boot_mode` returns and what `request_device` returns. -/
structure Receiver where
  bootModeB : Bool
  deviceState : DeviceState
  activeCmd : Option Command
  uninitializedWiped : Bool
  formatCurrent : Bool
  bootMode : HcBootMode
  granted : Bool

namespace Receiver

variable (c : Receiver) (cmd : Command) (data : Mem) (dataLen : Int)

def uninitializedStateReads : List Span :=
  match cmd with
  | .getProgress => getProgressCmdReads
  | .initializeDevice => initializeCmdReads dataLen
  | .updateFirmware => if c.uninitializedWiped then updateFirmwareCmdReads dataLen else []
  | _ => []

/-- `initializing_state`, `wiping_state` and `erasing_pages_state`. -/
def progressOnlyStateReads : List Span :=
  match cmd with
  | .getProgress => getProgressCmdReads
  | _ => []

def loggedOutStateReads : List Span :=
  match cmd with
  | .getProgress => getProgressCmdReads
  | .changeMasterPassword => changeMasterPasswordCmdReads dataLen c.formatCurrent
  | .initializeDevice => initializeCmdReads dataLen
  | .login => loginCmdReads dataLen
  | .loginToken => loginTokenCmdReads dataLen
  | _ => []

def loggedInStateReads : List Span :=
  match cmd with
  | .getProgress => getProgressCmdReads
  | .changeMasterPassword => changeMasterPasswordCmdReads dataLen c.formatCurrent
  | .getRandBits => getRandBitsCmdReads dataLen
  | .readUid => readUidReads dataLen
  | .updateUids | .updateUid => updateUidReads dataLen data
  | .readAllUids => readAllUidsReads dataLen
  | .type => typeReads dataLen
  | .updateFirmware => updateFirmwareCmdReads dataLen
  | _ => []

def backingUpDeviceStateReads : List Span :=
  match cmd with
  | .readBlockHc => readBlockCmdReads dataLen
  | _ => []

def restoringDeviceStateReads : List Span :=
  match cmd with
  | .writeBlockHc => writeBlockCmdReads dataLen
  | .eraseBlockHc => eraseBlockCmdReads dataLen
  | _ => []

def firmwareUpdateStateReads : List Span :=
  match cmd with
  | .writeFlash => writeFlashCmdReads dataLen c.bootMode
  | _ => []

def bootloaderStateReads : List Span :=
  match cmd with
  | .updateFirmware => updateFirmwareCmdReads dataLen
  | _ => []

/-- The state functions, of which the bootloader has only some. -/
def stateReads : List Span :=
  match c.deviceState with
  | .firmwareUpdate => c.firmwareUpdateStateReads cmd dataLen
  | .erasingPages => progressOnlyStateReads cmd
  | .bootloader => bootloaderStateReads cmd dataLen
  | .uninitialized => if c.bootModeB then c.uninitializedStateReads cmd dataLen else []
  | .initializing | .wiping => if c.bootModeB then progressOnlyStateReads cmd else []
  | .backingUpDevice => if c.bootModeB then backingUpDeviceStateReads cmd dataLen else []
  | .restoringDevice => if c.bootModeB then restoringDeviceStateReads cmd dataLen else []
  | .loggedOut => if c.bootModeB then c.loggedOutStateReads cmd dataLen else []
  | .loggedIn => if c.bootModeB then c.loggedInStateReads cmd data dataLen else []
  | .disconnected | .reset => []

end Receiver

/-- `data_len` of a packet. -/
def packetDataLen (buf : Mem) : Int := buf.get16 0 - CMD_PACKET_HEADER_SIZE

/-- What `restart_signet_command` reads of `cmd_packet_buf`. -/
def restartSignetCommandReads (c : Receiver) (cmd : Command) (buf : Mem) : List Span :=
  [⟨0, 1⟩, ⟨1, 1⟩, ⟨3, 1⟩, ⟨4, 1⟩] ++
  if ¬ c.granted then []
  else if cmd = .startup ∨ cmd = .getDeviceState ∨ cmd = .cancelButtonPress then []
  else if packetDataLen buf > hcLink.cmdPacketPayloadSize then []
  else (c.stateReads cmd (buf.window CMD_PACKET_HEADER_SIZE) (packetDataLen buf)).map
    (Span.shift CMD_PACKET_HEADER_SIZE)

/-- The command of a packet. -/
def packetCmd (buf : Mem) : Command := .ofCode (buf 2)

/-- What `cmd_packet_recv` and the handlers it calls read of `cmd_packet_buf`. -/
def cmdPacketRecvReads (c : Receiver) (buf : Mem) : List Span :=
  [⟨0, 1⟩, ⟨1, 1⟩, ⟨2, 1⟩, ⟨3, 1⟩, ⟨4, 1⟩] ++
  if packetCmd buf = .disconnect then []
  -- cancelled or ignored, whether a button press is waited for or not
  else if c.activeCmd.isSome ∧ packetCmd buf = .cancelButtonPress then []
  else restartSignetCommandReads c (packetCmd buf) buf

/-! ### Each handler stays in the data -/

section Within

variable {dataLen : Int}

/-- The largest length there may be, and the bytes of the data that are in the buffer. -/
theorem payload_le : CMD_PACKET_HEADER_SIZE + hcLink.cmdPacketPayloadSize ≤
    hcLink.cmdPacketBufSize := by
  decide

theorem getProgressCmdReads_within :
    Span.AllWithin hcLink.cmdPacketPayloadSize getProgressCmdReads := by
  decide

theorem initializeCmdReads_within :
    Span.AllWithin hcLink.cmdPacketPayloadSize (initializeCmdReads dataLen) := by
  unfold initializeCmdReads
  split <;> decide

theorem updateFirmwareCmdReads_within :
    Span.AllWithin hcLink.cmdPacketPayloadSize (updateFirmwareCmdReads dataLen) := by
  unfold updateFirmwareCmdReads
  split <;> decide

theorem readBlockCmdReads_within :
    Span.AllWithin hcLink.cmdPacketPayloadSize (readBlockCmdReads dataLen) := by
  unfold readBlockCmdReads
  split <;> decide

theorem writeBlockCmdReads_within :
    Span.AllWithin hcLink.cmdPacketPayloadSize (writeBlockCmdReads dataLen) := by
  unfold writeBlockCmdReads
  split <;> decide

theorem eraseBlockCmdReads_within :
    Span.AllWithin hcLink.cmdPacketPayloadSize (eraseBlockCmdReads dataLen) := by
  unfold eraseBlockCmdReads
  split <;> decide

theorem changeMasterPasswordCmdReads_within (formatCurrent : Bool) :
    Span.AllWithin hcLink.cmdPacketPayloadSize
      (changeMasterPasswordCmdReads dataLen formatCurrent) := by
  unfold changeMasterPasswordCmdReads
  split
  · decide
  · cases formatCurrent <;> decide

theorem getRandBitsCmdReads_within :
    Span.AllWithin hcLink.cmdPacketPayloadSize (getRandBitsCmdReads dataLen) := by
  unfold getRandBitsCmdReads
  split <;> decide

theorem loginCmdReads_within :
    Span.AllWithin hcLink.cmdPacketPayloadSize (loginCmdReads dataLen) := by
  unfold loginCmdReads
  split
  · decide
  · split <;> decide

theorem loginTokenCmdReads_within :
    Span.AllWithin hcLink.cmdPacketPayloadSize (loginTokenCmdReads dataLen) := by
  unfold loginTokenCmdReads
  split <;> decide

theorem readUidReads_within :
    Span.AllWithin hcLink.cmdPacketPayloadSize (readUidReads dataLen) := by
  unfold readUidReads
  split <;> decide

theorem readAllUidsReads_within :
    Span.AllWithin hcLink.cmdPacketPayloadSize (readAllUidsReads dataLen) := by
  unfold readAllUidsReads
  split <;> decide

/-- The copy of the record is what is left of the data. -/
theorem updateUidReads_within (hle : dataLen ≤ hcLink.cmdPacketPayloadSize) (data : Mem) :
    Span.AllWithin hcLink.cmdPacketPayloadSize (updateUidReads dataLen data) := by
  have hsize : hcLink.cmdPacketPayloadSize = 16391 := rfl
  unfold updateUidReads
  split
  · exact Span.allWithin_nil
  · dsimp only
    rw [Span.allWithin_append]
    refine ⟨by decide, ?_⟩
    split
    · exact Span.allWithin_nil
    · rename_i hlen _
      rw [Span.allWithin_cons]
      refine ⟨?_, Span.allWithin_nil⟩
      unfold Span.Within
      rw [sizeT_of_nonneg (by omega) (by omega)]
      dsimp only
      omega

/-- TYPE reads two bytes for each character, of which there are at most so many that four
    bytes for each of them fit. -/
theorem typeReads_within (hle : dataLen ≤ hcLink.cmdPacketPayloadSize) :
    Span.AllWithin hcLink.cmdPacketPayloadSize (typeReads dataLen) := by
  have hsize : hcLink.cmdPacketPayloadSize = 16391 := rfl
  unfold typeReads
  dsimp only
  split
  · exact Span.allWithin_nil
  · intro r hr
    obtain ⟨i, hi, hr⟩ := List.mem_flatMap.mp hr
    rw [List.mem_range] at hi
    have hlt : (i : Int) < dataLen / 2 := by omega
    rw [List.mem_cons, List.mem_singleton] at hr
    rcases hr with rfl | rfl
    · change i * 2 + 1 ≤ _
      omega
    · change i * 2 + 1 + 1 ≤ _
      omega

/-- **`write_flash_cmd` stays in the data just when there are four bytes of it.** -/
theorem writeFlashCmdReads_within (hge : -6 ≤ dataLen)
    (hle : dataLen ≤ hcLink.cmdPacketPayloadSize) (mode : HcBootMode) :
    Span.AllWithin hcLink.cmdPacketPayloadSize (writeFlashCmdReads dataLen mode) ↔
      (mode ≠ .unknown → 4 ≤ dataLen) := by
  have hsize : hcLink.cmdPacketPayloadSize = 16391 := rfl
  have hcopy : Span.AllWithin hcLink.cmdPacketPayloadSize
      [⟨0, 1⟩, ⟨1, 1⟩, ⟨2, 1⟩, ⟨3, 1⟩, ⟨4, sizeT (dataLen - 4)⟩] ↔ 4 ≤ dataLen := by
    constructor
    · intro h
      have hlast : 4 + sizeT (dataLen - 4) ≤ hcLink.cmdPacketPayloadSize :=
        h ⟨4, sizeT (dataLen - 4)⟩ (by simp)
      by_contra hlt
      have hlarge := lt_sizeT_of_neg (n := dataLen - 4) (by omega) (by omega)
      omega
    · intro h
      rw [sizeT_of_nonneg (by omega) (by omega)]
      simp only [Span.allWithin_cons, Span.allWithin_nil, Span.Within, and_true]
      omega
  cases mode with
  | bootloader => exact hcopy.trans (by simp)
  | application => exact hcopy.trans (by simp)
  | unknown =>
    constructor
    · intro _ h
      exact absurd rfl h
    · intro _
      exact Span.allWithin_nil

end Within

/-! ### A packet -/

/-- WRITE_FLASH is handled with less than four bytes of data. -/
def Receiver.ShortWriteFlash (c : Receiver) (cmd : Command) (buf : Mem) : Prop :=
  c.granted = true ∧ c.deviceState = .firmwareUpdate ∧ c.bootMode ≠ .unknown ∧
    cmd = .writeFlash ∧ packetDataLen buf < 4

variable {c : Receiver} {cmd : Command} {buf data : Mem} {dataLen : Int}

theorem uninitializedStateReads_within :
    Span.AllWithin hcLink.cmdPacketPayloadSize (c.uninitializedStateReads cmd dataLen) := by
  unfold Receiver.uninitializedStateReads
  split
  · exact getProgressCmdReads_within
  · exact initializeCmdReads_within
  · split
    · exact updateFirmwareCmdReads_within
    · exact Span.allWithin_nil
  · exact Span.allWithin_nil

theorem progressOnlyStateReads_within :
    Span.AllWithin hcLink.cmdPacketPayloadSize (Receiver.progressOnlyStateReads cmd) := by
  unfold Receiver.progressOnlyStateReads
  split
  · exact getProgressCmdReads_within
  · exact Span.allWithin_nil

theorem loggedOutStateReads_within :
    Span.AllWithin hcLink.cmdPacketPayloadSize (c.loggedOutStateReads cmd dataLen) := by
  unfold Receiver.loggedOutStateReads
  split
  · exact getProgressCmdReads_within
  · exact changeMasterPasswordCmdReads_within _
  · exact initializeCmdReads_within
  · exact loginCmdReads_within
  · exact loginTokenCmdReads_within
  · exact Span.allWithin_nil

theorem loggedInStateReads_within (hle : dataLen ≤ hcLink.cmdPacketPayloadSize) :
    Span.AllWithin hcLink.cmdPacketPayloadSize (c.loggedInStateReads cmd data dataLen) := by
  unfold Receiver.loggedInStateReads
  split
  · exact getProgressCmdReads_within
  · exact changeMasterPasswordCmdReads_within _
  · exact getRandBitsCmdReads_within
  · exact readUidReads_within
  · exact updateUidReads_within hle data
  · exact updateUidReads_within hle data
  · exact readAllUidsReads_within
  · exact typeReads_within hle
  · exact updateFirmwareCmdReads_within
  · exact Span.allWithin_nil

theorem blockStateReads_within :
    Span.AllWithin hcLink.cmdPacketPayloadSize (Receiver.backingUpDeviceStateReads cmd dataLen) ∧
      Span.AllWithin hcLink.cmdPacketPayloadSize
        (Receiver.restoringDeviceStateReads cmd dataLen) := by
  unfold Receiver.backingUpDeviceStateReads Receiver.restoringDeviceStateReads
  constructor
  · split
    · exact readBlockCmdReads_within
    · exact Span.allWithin_nil
  · split
    · exact writeBlockCmdReads_within
    · exact eraseBlockCmdReads_within
    · exact Span.allWithin_nil

theorem bootloaderStateReads_within :
    Span.AllWithin hcLink.cmdPacketPayloadSize (Receiver.bootloaderStateReads cmd dataLen) := by
  unfold Receiver.bootloaderStateReads
  split
  · exact updateFirmwareCmdReads_within
  · exact Span.allWithin_nil

theorem firmwareUpdateStateReads_within (hge : -6 ≤ dataLen)
    (hle : dataLen ≤ hcLink.cmdPacketPayloadSize) :
    Span.AllWithin hcLink.cmdPacketPayloadSize (c.firmwareUpdateStateReads cmd dataLen) ↔
      ¬ (c.bootMode ≠ .unknown ∧ cmd = .writeFlash ∧ dataLen < 4) := by
  unfold Receiver.firmwareUpdateStateReads
  split
  · rw [writeFlashCmdReads_within hge hle]
    simp only [true_and, not_and, Int.not_lt]
  · rename_i hne
    constructor
    · rintro - ⟨-, heq, -⟩
      exact hne heq
    · intro _
      exact Span.allWithin_nil

/-- What only the application has. -/
theorem allWithin_ite {n : Nat} {b : Bool} {l : List Span} (h : Span.AllWithin n l) :
    Span.AllWithin n (if b then l else []) := by
  split
  · exact h
  · exact Span.allWithin_nil

/-- One case for each state. -/
theorem stateReads_within (hge : -6 ≤ dataLen) (hle : dataLen ≤ hcLink.cmdPacketPayloadSize) :
    Span.AllWithin hcLink.cmdPacketPayloadSize (c.stateReads cmd data dataLen) ↔
      ¬ (c.deviceState = .firmwareUpdate ∧ c.bootMode ≠ .unknown ∧ cmd = .writeFlash ∧
        dataLen < 4) := by
  by_cases hstate : c.deviceState = .firmwareUpdate
  · have hreads : c.stateReads cmd data dataLen = c.firmwareUpdateStateReads cmd dataLen := by
      unfold Receiver.stateReads
      rw [hstate]
    rw [hreads, firmwareUpdateStateReads_within hge hle]
    simp only [hstate, true_and]
  · refine ⟨fun _ h => hstate h.1, fun _ => ?_⟩
    unfold Receiver.stateReads
    split
    · rename_i heq
      exact absurd heq hstate
    · exact progressOnlyStateReads_within
    · exact bootloaderStateReads_within
    · exact allWithin_ite uninitializedStateReads_within
    · exact allWithin_ite progressOnlyStateReads_within
    · exact allWithin_ite progressOnlyStateReads_within
    · exact allWithin_ite blockStateReads_within.1
    · exact allWithin_ite blockStateReads_within.2
    · exact allWithin_ite loggedOutStateReads_within
    · exact allWithin_ite (loggedInStateReads_within hle)
    · exact Span.allWithin_nil
    · exact Span.allWithin_nil

/-- Reading the data behind the header stays in the buffer just when it stays in the data. -/
theorem shifted_within {l : List Span} (hl : Span.AllWithin hcLink.cmdPacketPayloadSize l) :
    Span.AllWithin hcLink.cmdPacketBufSize (l.map (Span.shift CMD_PACKET_HEADER_SIZE)) :=
  (Span.allWithin_shift.mpr hl).mono payload_le

theorem packetDataLen_ge (buf : Mem) : -6 ≤ packetDataLen buf := by
  unfold packetDataLen CMD_PACKET_HEADER_SIZE
  omega

/-- **A command is handled without reading behind the buffer, unless it is a short
    WRITE_FLASH.** -/
theorem restartSignetCommandReads_within :
    Span.AllWithin hcLink.cmdPacketBufSize (restartSignetCommandReads c cmd buf) ↔
      ¬ c.ShortWriteFlash cmd buf := by
  have hge := packetDataLen_ge buf
  unfold restartSignetCommandReads Receiver.ShortWriteFlash
  rw [Span.allWithin_append]
  have hheader : Span.AllWithin hcLink.cmdPacketBufSize [⟨0, 1⟩, ⟨1, 1⟩, ⟨3, 1⟩, ⟨4, 1⟩] := by
    decide
  rw [and_iff_right hheader]
  split
  · rename_i hgranted
    simp [hgranted]
  · rename_i hgranted
    split
    · rename_i hcmd
      refine ⟨fun _ h => ?_, fun _ => Span.allWithin_nil⟩
      rw [h.2.2.2.1] at hcmd
      exact absurd hcmd (by decide)
    · split
      · rename_i hlong
        refine ⟨fun _ h => ?_, fun _ => Span.allWithin_nil⟩
        have hsize : hcLink.cmdPacketPayloadSize = 16391 := rfl
        have hshort := h.2.2.2.2
        omega
      · rename_i hle
        rw [Int.not_lt] at hle
        have hiff : Span.AllWithin hcLink.cmdPacketPayloadSize (c.stateReads cmd
            (buf.window CMD_PACKET_HEADER_SIZE) (packetDataLen buf)) ↔
            ¬ (c.deviceState = .firmwareUpdate ∧ c.bootMode ≠ .unknown ∧ cmd = .writeFlash ∧
              packetDataLen buf < 4) := stateReads_within hge hle
        have hyes : c.granted = true := by simpa using hgranted
        rw [and_iff_right hyes, ← hiff]
        refine ⟨fun h => ?_, shifted_within⟩
        -- the copy of a short WRITE_FLASH is in no buffer at all
        by_contra hout
        rw [hiff, not_not] at hout
        obtain ⟨hstate, hmode, rfl, hshort⟩ := hout
        have hreads : ⟨4, sizeT (packetDataLen buf - 4)⟩ ∈ c.stateReads .writeFlash
            (buf.window CMD_PACKET_HEADER_SIZE) (packetDataLen buf) := by
          unfold Receiver.stateReads
          rw [hstate]
          unfold Receiver.firmwareUpdateStateReads writeFlashCmdReads
          revert hmode
          cases c.bootMode <;> simp
        have hin := h _ (List.mem_map_of_mem hreads)
        have hlarge := lt_sizeT_of_neg (n := packetDataLen buf - 4) (by omega) (by omega)
        have hbuf : hcLink.cmdPacketBufSize = 16907 := rfl
        change CMD_PACKET_HEADER_SIZE + 4 + sizeT (packetDataLen buf - 4) ≤ _ at hin
        omega

/-! ### Sequences of packets -/

/-- A packet arrives, or the device is given to a command that waited for it. -/
inductive RxEvent where
  | packet (data : Mem) (c : Receiver)
  | restart (c : Receiver)

/-- What an event makes of `cmd_packet_buf`. -/
def rxStep (buf : Mem) : RxEvent → Mem
  | .packet data _ => (usbRawHidRx data buf).buf
  | .restart _ => buf

/-- What is read when the device is given to a command that waited; there may be none left. -/
def releasedReads (c : Receiver) (buf : Mem) : List Span :=
  match c.activeCmd with
  | some cmd => restartSignetCommandReads c cmd buf
  | none => [⟨0, 1⟩, ⟨1, 1⟩, ⟨3, 1⟩, ⟨4, 1⟩]

/-- What is read of `cmd_packet_buf`. -/
def rxReads (buf : Mem) : RxEvent → List Span
  | .packet data c =>
    let r := usbRawHidRx data buf
    if r.received then cmdPacketRecvReads c r.buf else []
  | .restart c => releasedReads c buf

/-- The events of a sequence, each with the buffer it meets; it is zeroed at power-on. -/
def received (events : List RxEvent) : History Mem RxEvent :=
  (replay rxStep events ([], fun _ => 0)).1

/-- The payload goes into the buffer, a packet that does not fit changes nothing and is not
    taken for a command, and no byte behind the buffer is read. -/
structure ReceivesSafely (buf : Mem) (e : RxEvent) : Prop where
  stored : ∀ data c, e = .packet data c → (usbRawHidRx data buf).Safe data buf
  reads : Span.AllWithin hcLink.cmdPacketBufSize (rxReads buf e)

/-- A packet has a place, and none makes a short WRITE_FLASH. -/
def RxInOrder (buf : Mem) : RxEvent → Prop
  | .packet data c => RxFits data ∧ (rxLast data = true →
      packetCmd (rxStore data buf) ≠ .disconnect →
        ¬ c.ShortWriteFlash (packetCmd (rxStore data buf)) (rxStore data buf))
  | .restart c => ∀ cmd, c.activeCmd = some cmd → ¬ c.ShortWriteFlash cmd buf

theorem cmdPacketRecvReads_within :
    Span.AllWithin hcLink.cmdPacketBufSize (cmdPacketRecvReads c buf) ↔
      (packetCmd buf ≠ .disconnect → ¬ c.ShortWriteFlash (packetCmd buf) buf) := by
  have hheader : Span.AllWithin hcLink.cmdPacketBufSize
      [⟨0, 1⟩, ⟨1, 1⟩, ⟨2, 1⟩, ⟨3, 1⟩, ⟨4, 1⟩] := by
    decide
  unfold cmdPacketRecvReads
  rw [Span.allWithin_append, and_iff_right hheader]
  split
  · rename_i hcmd
    exact ⟨fun _ hne => absurd hcmd hne, fun _ => Span.allWithin_nil⟩
  · rename_i hdisconnect
    split
    · rename_i hcancel
      refine ⟨fun _ _ h => ?_, fun _ => Span.allWithin_nil⟩
      have hwrite := h.2.2.2.1
      rw [hcancel.2] at hwrite
      cases hwrite
    · rw [restartSignetCommandReads_within]
      exact ⟨fun h _ => h, fun h => h hdisconnect⟩

theorem releasedReads_within :
    Span.AllWithin hcLink.cmdPacketBufSize (releasedReads c buf) ↔
      ∀ cmd, c.activeCmd = some cmd → ¬ c.ShortWriteFlash cmd buf := by
  unfold releasedReads
  split
  · rename_i cmd hcmd
    rw [restartSignetCommandReads_within, hcmd]
    constructor
    · rintro h _ ⟨⟩
      exact h
    · intro h
      exact h cmd rfl
  · rename_i hnone
    rw [hnone]
    constructor
    · rintro - _ ⟨⟩
    · intro _
      decide

/-- **An event is safe just when it is in order.** -/
theorem receivesSafely_iff (buf : Mem) (e : RxEvent) : ReceivesSafely buf e ↔ RxInOrder buf e := by
  cases e with
  | packet data c =>
    have hreads : Span.AllWithin hcLink.cmdPacketBufSize (rxReads buf (.packet data c)) ↔
        (rxLast data = true → packetCmd (rxStore data buf) ≠ .disconnect →
          ¬ c.ShortWriteFlash (packetCmd (rxStore data buf))
            (rxStore data buf)) := by
      change Span.AllWithin _ (if rxLast data = true then
        cmdPacketRecvReads c (rxStore data buf) else []) ↔ _
      split
      · rename_i hlast
        rw [cmdPacketRecvReads_within]
        exact ⟨fun h _ => h, fun h => h hlast⟩
      · rename_i hlast
        exact ⟨fun _ h => absurd h hlast, fun _ => Span.allWithin_nil⟩
    constructor
    · intro h
      exact ⟨safe_usbRawHidRx.mp (h.stored data c rfl), hreads.mp h.reads⟩
    · rintro ⟨hfits, hshort⟩
      refine ⟨?_, hreads.mpr hshort⟩
      rintro data' c' ⟨⟩
      exact safe_usbRawHidRx.mpr hfits
  | restart c =>
    constructor
    · intro h
      exact releasedReads_within.mp h.reads
    · intro h
      exact ⟨by rintro data c ⟨⟩, releasedReads_within.mpr h⟩

/-- **All packets of a sequence are received safely just when each is in order**; the original
    device stores every packet safely. -/
theorem rawHidReceive_safe (events : List RxEvent) :
    ((∀ x ∈ received events, ReceivesSafely x.1 x.2) ↔
        ∀ x ∈ received events, RxInOrder x.1 x.2) ∧
      ∀ P packet s, Firmware.StoresSafely P packet s :=
  ⟨forall₂_congr fun x _ => receivesSafely_iff x.1 x.2,
    fun P packet s => Firmware.storesSafely P packet s⟩

/-- A device that waits for its first packet. -/
def startedReceiver : Receiver where
  bootModeB := true
  deviceState := .disconnected
  activeCmd := none
  uninitializedWiped := false
  formatCurrent := true
  bootMode := .application
  granted := true

/-- A packet with nothing but its number. -/
def numberedPacket (seq : UInt8) : Mem := fun a => if a = 0 then seq else 0

/-- **Packet 33 is stored partly behind the buffer**, and a WRITE_FLASH without data copies
    what no buffer has. -/
theorem usbRawHidRx_overrun :
    ¬ Span.AllWithin hcLink.cmdPacketBufSize
        (usbRawHidRx (numberedPacket 33) fun _ => 0).written ∧
      ¬ Span.AllWithin hcLink.cmdPacketBufSize
        (cmdPacketRecvReads { startedReceiver with deviceState := .firmwareUpdate }
          (Mem.write (fun _ => 0) 0 [6, 0, 13, 0, 0, 0])) := by
  decide

end SignetBase.FirmwareHc

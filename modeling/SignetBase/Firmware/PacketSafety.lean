/-
  SignetBase/Firmware/PacketSafety.lean
  =====================================
  **What a packet can make the handlers do.**

  `cmd_packet_recv` compares the length of a packet's data only with the largest length there
  may be.  Most handlers make the rest of the checks: they stay in the objects they work on
  (`Touch.AllWithin`), and data of a wrong length is answered INVALID_INPUT and changes
  nothing (`RejectedInput`).  The handlers that do not are those of `lengthHandled`:
  GET_PROGRESS and WRITE_FLASH without enough data, TYPE and ERASE_FLASH_PAGES with a negative
  length, LOGIN, which clears two fields first, READ_ALL_UIDS on an empty store and
  READ_CLEARTEXT_PASSWORD_NAMES always.  The commands on records stay in their objects if the
  block, or the record, that they get to fits (`RecordsFit`), as those of a store in order do
  (`StoreFits.recordsFit`).
-/
import SignetBase.Firmware.ButtonAuth
import SignetBase.Firmware.RecordTouches
import SignetBase.Firmware.PowerLoss

namespace SignetBase.Firmware

/-! ### What is expected -/

/-- The data of a command has a length its handler can work with. -/
def dataLenOk (cmd : Command) (data : Mem) (dataLen : Int) : Prop :=
  match cmd with
  | .getProgress | .writeFlash => 4 ≤ dataLen
  | .initializeDevice => INITIALIZE_CMD_SIZE ≤ dataLen
  | .readBlock | .eraseBlock | .readCleartextPassword => dataLen = 1
  | .writeBlock => dataLen = 1 + BLK_SIZE
  | .changeMasterPassword => dataLen = (AES_256_KEY_SIZE * 2 + HASH_FN_SZ + SALT_SZ_V2 : Nat)
  | .getRandBits => 2 ≤ dataLen
  | .login => AES_256_KEY_SIZE ≤ dataLen
  | .loginToken => dataLen = AES_256_KEY_SIZE
  | .readUid => 3 ≤ dataLen
  | .updateUid | .updateUids => dataLen = 4 + sizeToSubBlkCount (data.get16 2) * SUB_BLK_SIZE
  | .readAllUids => 1 ≤ dataLen
  | .type | .eraseFlashPages => 0 ≤ dataLen
  | .writeCleartextPassword => dataLen = CLEARTEXT_PASS_SIZE + 1
  | _ => True

/-- The packet's command is one that looks at its data, and the data is too long, or a handler
    is given it and it is too short or too long for that handler. -/
structure BadLength (P : Platform) (s : Dev) : Prop where
  cmd : packetCmd s.cmdPacketBuf ∉ [Command.disconnect, .startup, .getDeviceState,
    .cancelButtonPress]
  length : packetDataLen s.cmdPacketBuf > CMD_PACKET_PAYLOAD_SIZE ∨
    dispatch P (activate s) ≠ .rejected ∧
      ¬ dataLenOk (packetCmd s.cmdPacketBuf) (s.cmdPacketBuf.window CMD_PACKET_HEADER_SIZE)
        (packetDataLen s.cmdPacketBuf)

/-- The command was answered INVALID_INPUT; only the bookkeeping of the protocol changed. -/
structure RejectedInput (s s' : Dev) : Prop where
  answered : ∃ r : Response, s'.outputs = .response r :: s.outputs ∧ r.resp = .invalidInput
  unchanged : s' = { s with
    activeCmd := s'.activeCmd
    cmdIterCount := s'.cmdIterCount
    cmdMessagesRemaining := s'.cmdMessagesRemaining
    cmdResp := s'.cmdResp
    rawHidTxPending := s'.rawHidTxPending
    outputs := s'.outputs }

/-- The packet in `cmd_packet_buf` makes no handler leave its objects, and is rejected if its
    data has a wrong length. -/
structure HandlersSafe (P : Platform) (s : Dev) : Prop where
  touches : Touch.AllWithin (cmdPacketRecvTouches P s)
  lengths : BadLength P s → ∃ s', cmdPacketRecv P s = some s' ∧ RejectedInput s s'

/-- What the handlers that do not check enough need of a packet. -/
def lengthHandled (s : Dev) (data : Mem) (dataLen : Int) : DeviceState → Command → Prop
  | .uninitialized, .getProgress | .initializing, .getProgress | .wiping, .getProgress
  | .erasingPages, .getProgress | .loggedOut, .getProgress | .loggedIn, .getProgress => 4 ≤ dataLen
  | .loggedOut, .login => AES_256_KEY_SIZE ≤ dataLen ∨
      s.cmdData.get32 CmdData.loginGenToken = 0 ∧ s.cmdData.get32 CmdData.loginAuthenticated = 0
  | .loggedIn, .type | .firmwareUpdate, .eraseFlashPages => 0 ≤ dataLen
  | .firmwareUpdate, .writeFlash => 4 ≤ dataLen ∨
      ¬ (inFlashRange (data.get32 0) ∧
        inFlashRange ((data.get32 0 + (dataLen - 4)) % 2 ^ 32).toNat)
  | .loggedIn, .readAllUids => dataLen < 1 ∨ data 0 = 0 ∨ (nextMappedUid s.tables MIN_UID).isSome
  | .loggedIn, .readCleartextPasswordNames => False
  | _, _ => True

/-- The packet is one that its handler copes with. -/
def LengthHandled (s : Dev) : Prop :=
  packetDataLen s.cmdPacketBuf ≤ CMD_PACKET_PAYLOAD_SIZE →
    lengthHandled s (s.cmdPacketBuf.window CMD_PACKET_HEADER_SIZE) (packetDataLen s.cmdPacketBuf)
      s.deviceState (packetCmd s.cmdPacketBuf)

/-- What the commands on records need of the block, or the record, that they get to. -/
def recordsFit (P : Platform) (s : Dev) (data : Mem) (dataLen : Int) :
    DeviceState → Command → Prop
  | .loggedIn, .readUid => ReadUidFits P s data dataLen
  | .loggedIn, .updateUid | .loggedIn, .updateUids => UpdateUidFits P s data dataLen
  | .loggedIn, .readAllUids => ReadAllUidsFits P s data dataLen
  | _, _ => True

/-- The block, or the record, that the packet's command gets to fits. -/
structure RecordsFit (P : Platform) (s : Dev) : Prop where
  startup : packetCmd s.cmdPacketBuf = .startup → StartupFits P s
  records : packetDataLen s.cmdPacketBuf ≤ CMD_PACKET_PAYLOAD_SIZE →
    recordsFit P s (s.cmdPacketBuf.window CMD_PACKET_HEADER_SIZE) (packetDataLen s.cmdPacketBuf)
      s.deviceState (packetCmd s.cmdPacketBuf)

/-! ### Other handlers -/

section Others

variable {s : Dev} {data : Mem} {dataLen : Int}

theorem initializeCmdTouches_within : Touch.AllWithin (initializeCmdTouches dataLen) := by
  unfold initializeCmdTouches
  split <;> decide

theorem readBlockCmdTouches_within : Touch.AllWithin (readBlockCmdTouches dataLen) := by
  unfold readBlockCmdTouches
  split <;> decide

theorem writeBlockCmdTouches_within : Touch.AllWithin (writeBlockCmdTouches dataLen) := by
  unfold writeBlockCmdTouches
  split <;> decide

theorem eraseBlockCmdTouches_within : Touch.AllWithin (eraseBlockCmdTouches dataLen) := by
  unfold eraseBlockCmdTouches
  split <;> decide

theorem changeMasterPasswordCmdTouches_within :
    Touch.AllWithin (changeMasterPasswordCmdTouches s dataLen) := by
  unfold changeMasterPasswordCmdTouches
  split
  · decide
  · split <;> decide

theorem getRandBitsCmdTouches_within : Touch.AllWithin (getRandBitsCmdTouches data dataLen) := by
  have hmember : memberSize .getRandBits = 2 + BLK_SIZE := rfl
  unfold getRandBitsCmdTouches
  split
  · decide
  · dsimp only
    rw [Touch.allWithin_append]
    refine ⟨by decide, ?_⟩
    split
    · exact Touch.allWithin_nil
    · rename_i hsz
      have hblk : BLK_SIZE = 2048 := rfl
      simp only [Touch.allWithin_cons, Touch.allWithin_nil, and_true]
      refine ⟨memberAt_within ?_, memberAt_within ?_, memberAt_within ?_⟩ <;>
        · rw [hmember]
          unfold CmdData.getRandBitsBlock
          omega

theorem loginCmdTouches_within : Touch.AllWithin (loginCmdTouches dataLen) := by
  unfold loginCmdTouches
  split
  · decide
  · split <;> decide

theorem loginTokenCmdTouches_within : Touch.AllWithin (loginTokenCmdTouches dataLen) := by
  unfold loginTokenCmdTouches
  split <;> decide

theorem readCleartextPasswordTouches_within :
    Touch.AllWithin (readCleartextPasswordTouches dataLen) := by
  unfold readCleartextPasswordTouches
  split <;> decide

theorem writeCleartextPasswordTouches_within :
    Touch.AllWithin (writeCleartextPasswordTouches dataLen) := by
  unfold writeCleartextPasswordTouches
  split <;> decide

/-- TYPE copies the data, so it needs a length that is not negative. -/
theorem typeCmdTouches_within (hge : -6 ≤ dataLen) (hle : dataLen ≤ CMD_PACKET_PAYLOAD_SIZE) :
    Touch.AllWithin (typeCmdTouches dataLen) ↔ 0 ≤ dataLen := by
  have hpayload : CMD_PACKET_PAYLOAD_SIZE = 2055 := rfl
  have hbuf : CMD_PACKET_BUF_SIZE = 2123 := rfl
  constructor
  · intro h
    by_contra hneg
    have hdata : (dataAt 0 (sizeT (dataLen / 2 * 2))).Within := h _ List.mem_cons_self
    change 6 + 0 + sizeT (dataLen / 2 * 2) ≤ CMD_PACKET_BUF_SIZE at hdata
    have hsize := lt_sizeT_of_neg (show dataLen / 2 * 2 < 0 by omega) (by omega)
    omega
  · intro h
    have hsize : sizeT (dataLen / 2 * 2) ≤ 2055 := by
      rw [sizeT_of_nonneg (by omega) (by omega)]
      omega
    unfold typeCmdTouches
    simp only [Touch.allWithin_cons, Touch.allWithin_nil, and_true]
    refine ⟨dataAt_within (by omega), memberAt_within ?_, by decide⟩
    change 0 + _ ≤ CMD_PACKET_PAYLOAD_SIZE
    omega

/-- The names are one byte longer than their places in `cmd_data`. -/
theorem readCleartextPasswordNamesTouches_not_within :
    ¬ Touch.AllWithin readCleartextPasswordNamesTouches := by
  decide

/-- ERASE_FLASH_PAGES copies the data as well. -/
theorem eraseFlashPagesCmdTouches_within (hge : -6 ≤ dataLen)
    (hle : dataLen ≤ CMD_PACKET_PAYLOAD_SIZE) :
    Touch.AllWithin (eraseFlashPagesCmdTouches data dataLen) ↔ 0 ≤ dataLen := by
  have hpayload : CMD_PACKET_PAYLOAD_SIZE = 2055 := rfl
  have hbuf : CMD_PACKET_BUF_SIZE = 2123 := rfl
  constructor
  · intro h
    by_contra hneg
    have hzero : dataLen.toNat = 0 := Int.toNat_eq_zero.mpr (by omega)
    have hdata : (dataAt 0 (sizeT dataLen)).Within := by
      apply h
      unfold eraseFlashPagesCmdTouches
      rw [hzero]
      exact List.mem_append_right _ (List.mem_cons_of_mem _ (List.mem_cons_of_mem _
        List.mem_cons_self))
    change 6 + 0 + sizeT dataLen ≤ CMD_PACKET_BUF_SIZE at hdata
    have hsize := lt_sizeT_of_neg (show dataLen < 0 by omega) (by omega)
    omega
  · intro h
    have hsize : sizeT dataLen ≤ 2055 := by
      rw [sizeT_of_nonneg h (by omega)]
      omega
    unfold eraseFlashPagesCmdTouches
    dsimp only
    rw [Touch.allWithin_append]
    refine ⟨?_, ?_⟩
    · unfold Touch.AllWithin
      rw [List.forall_mem_map]
      intro i hi
      have hlt := List.mem_range.mp hi
      rw [Mem.length_read] at hlt
      exact dataAt_within (by omega)
    · split
      · exact Touch.allWithin_nil
      · simp only [Touch.allWithin_cons, Touch.allWithin_nil, and_true]
        refine ⟨by decide, by decide, dataAt_within (by omega), memberAt_within ?_⟩
        change 4 + _ ≤ 4 + CMD_PACKET_PAYLOAD_SIZE
        omega

/-- What WRITE_FLASH hands to the driver is in the buffer if there are four bytes of data. -/
theorem writeFlashCmdTouches_within (hle : dataLen ≤ CMD_PACKET_PAYLOAD_SIZE)
    (hlen : 4 ≤ dataLen ∨ ¬ (inFlashRange (data.get32 0) ∧
      inFlashRange ((data.get32 0 + (dataLen - 4)) % 2 ^ 32).toNat)) :
    Touch.AllWithin (writeFlashCmdTouches data dataLen) := by
  have hpayload : CMD_PACKET_PAYLOAD_SIZE = 2055 := rfl
  unfold writeFlashCmdTouches
  dsimp only
  rw [Touch.allWithin_append]
  refine ⟨by decide, ?_⟩
  split
  · exact Touch.allWithin_nil
  · rename_i hrange
    have hge : 4 ≤ dataLen := by
      rcases hlen with hge | hnot
      · exact hge
      · exact absurd (not_or.mp hrange) (fun h => hnot ⟨not_not.mp h.1, not_not.mp h.2⟩)
    have hwords : 8 * doubleWords (dataLen - 4) ≤ 2058 := by
      unfold doubleWords
      rw [Int.tdiv_eq_ediv_of_nonneg (by omega)]
      omega
    rw [Touch.allWithin_cons]
    exact ⟨dataAt_within (by omega), Touch.allWithin_nil⟩

end Others

/-! ### State functions -/

section StateFunctions

variable {P : Platform} {s : Dev} {data : Mem} {dataLen : Int} {cmd : Command}

theorem stateFunctionTouches_within (hfits : recordsFit P s data dataLen s.deviceState cmd)
    (hge : -6 ≤ dataLen)
    (hle : dataLen ≤ CMD_PACKET_PAYLOAD_SIZE)
    (hlen : lengthHandled s data dataLen s.deviceState cmd) :
    Touch.AllWithin (stateFunctionTouches P s data dataLen cmd) := by
  unfold stateFunctionTouches
  cases hstate : s.deviceState with
  | uninitialized =>
    dsimp only
    unfold uninitializedStateTouches
    split
    · decide
    · exact initializeCmdTouches_within
    · exact Touch.allWithin_nil
  | initializing | wiping | erasingPages =>
    dsimp only
    unfold progressOnlyStateTouches
    split
    · decide
    · exact Touch.allWithin_nil
  | backingUpDevice =>
    dsimp only
    unfold backingUpDeviceStateTouches
    split
    · exact readBlockCmdTouches_within
    · exact Touch.allWithin_nil
  | restoringDevice =>
    dsimp only
    unfold restoringDeviceStateTouches
    split
    · exact writeBlockCmdTouches_within
    · exact eraseBlockCmdTouches_within
    · exact Touch.allWithin_nil
  | firmwareUpdate =>
    rw [hstate] at hlen
    dsimp only
    unfold firmwareUpdateStateTouches
    split
    · exact (eraseFlashPagesCmdTouches_within hge hle).mpr hlen
    · exact writeFlashCmdTouches_within hle hlen
    · exact Touch.allWithin_nil
  | loggedOut =>
    dsimp only
    unfold loggedOutStateTouches
    split
    · decide
    · exact changeMasterPasswordCmdTouches_within
    · exact initializeCmdTouches_within
    · exact loginCmdTouches_within
    · exact loginTokenCmdTouches_within
    · exact Touch.allWithin_nil
  | loggedIn =>
    rw [hstate] at hlen hfits
    dsimp only
    unfold loggedInStateTouches
    split
    · decide
    · exact changeMasterPasswordCmdTouches_within
    · exact getRandBitsCmdTouches_within
    · exact readUidPacketTouches_within.mpr hfits
    · exact (updateUidPacketTouches_within (.inr rfl)).mpr hfits
    · exact (updateUidPacketTouches_within (.inl rfl)).mpr hfits
    · exact readAllUidsPacketTouches_within.mpr ⟨hlen, hfits⟩
    · exact (typeCmdTouches_within hge hle).mpr hlen
    · exact absurd hlen id
    · exact readCleartextPasswordTouches_within
    · exact writeCleartextPasswordTouches_within
    · exact Touch.allWithin_nil
  | disconnected | reset | bootloader => exact Touch.allWithin_nil

/-- What a handler that checks its data does when the length is wrong. -/
abbrev Rejects (r : Ret) (s : Dev) : Prop := r = .handled (finishCommandResp .invalidInput s)

theorem put32_zero {m : Mem} {off : Nat} (h : m.get32 off = 0) : m.put32 off 0 = m := by
  funext a
  by_cases ha : a < off ∨ off + 4 ≤ a
  · exact Mem.put32_apply_of_notMem _ _ ha
  · have hget := Mem.get32_put32 m off 0
    have hzero : ∀ m' : Mem, m'.get32 off = 0 → m' a = 0 := by
      intro m' hm
      change (m' off).toNat + 256 * (m' (off + 1)).toNat +
        65536 * ((m' (off + 2)).toNat + 256 * (m' (off + 3)).toNat) = 0 at hm
      rw [← UInt8.toNat_inj]
      change (m' a).toNat = 0
      obtain rfl | rfl | rfl | rfl : a = off ∨ a = off + 1 ∨ a = off + 2 ∨ a = off + 3 := by omega
      all_goals omega
    rw [hzero _ hget, hzero _ h]

theorem loginCmd_rejects (hlen : AES_256_KEY_SIZE ≤ dataLen ∨
      s.cmdData.get32 CmdData.loginGenToken = 0 ∧ s.cmdData.get32 CmdData.loginAuthenticated = 0)
    (hbad : ¬ (AES_256_KEY_SIZE : Int) ≤ dataLen) :
    loginCmd data dataLen s = finishCommandResp .invalidInput s := by
  obtain ⟨hgen, hauth⟩ := hlen.resolve_left hbad
  unfold loginCmd
  dsimp only
  rw [if_pos (Int.not_le.mp hbad), put32_zero hgen, put32_zero hauth]

theorem initializeCmd_rejects (hbad : ¬ (INITIALIZE_CMD_SIZE : Int) ≤ dataLen) :
    initializeCmd data dataLen s = finishCommandResp .invalidInput s :=
  if_pos (Int.not_le.mp hbad)

theorem loginTokenCmd_rejects (hbad : ¬ dataLen = AES_256_KEY_SIZE) :
    loginTokenCmd data dataLen s = finishCommandResp .invalidInput s := if_pos hbad

theorem changeMasterPasswordCmd_rejects
    (hbad : ¬ dataLen = (AES_256_KEY_SIZE * 2 + HASH_FN_SZ + SALT_SZ_V2 : Nat)) :
    changeMasterPasswordCmd P data dataLen s = finishCommandResp .invalidInput s := if_pos hbad

theorem readBlockCmd_rejects (hbad : ¬ dataLen = 1) :
    readBlockCmd P data dataLen s = finishCommandResp .invalidInput s := if_pos (.inl hbad)

theorem writeBlockCmd_rejects (hbad : ¬ dataLen = 1 + BLK_SIZE) :
    writeBlockCmd data dataLen s = finishCommandResp .invalidInput s := if_pos (.inl hbad)

theorem eraseBlockCmd_rejects (hbad : ¬ dataLen = 1) :
    eraseBlockCmd data dataLen s = finishCommandResp .invalidInput s := if_pos (.inl hbad)

theorem getRandBitsCmd_rejects (hbad : ¬ (2 : Int) ≤ dataLen) :
    getRandBitsCmd data dataLen s = finishCommandResp .invalidInput s :=
  if_pos (Int.not_le.mp hbad)

theorem readCleartextPassword_rejects (hbad : ¬ dataLen = 1) :
    readCleartextPassword data dataLen s = finishCommandResp .invalidInput s :=
  if_pos (.inl hbad)

theorem writeCleartextPassword_rejects (hbad : ¬ dataLen = CLEARTEXT_PASS_SIZE + 1) :
    writeCleartextPassword data dataLen s = finishCommandResp .invalidInput s :=
  if_pos (.inl hbad)

theorem readUidPacket_rejects (hbad : ¬ (3 : Int) ≤ dataLen) :
    readUidPacket P data dataLen s = finishCommandResp .invalidInput s :=
  if_pos (.inl (Int.not_le.mp hbad))

theorem updateUidPacket_rejects
    (hbad : ¬ dataLen = 4 + sizeToSubBlkCount (data.get16 2) * SUB_BLK_SIZE) :
    updateUidPacket P cmd data dataLen s = finishCommandResp .invalidInput s := by
  refine if_pos (.inr (.inr (.inr ?_)))
  intro heq
  omega

theorem readAllUidsPacket_rejects (hbad : ¬ (1 : Int) ≤ dataLen) :
    readAllUidsPacket P data dataLen s = finishCommandResp .invalidInput s :=
  if_pos (Int.not_le.mp hbad)

/-- WRITE_FLASH with too little data is rejected if its address is out of range. -/
theorem writeFlashCmd_rejects (hlen : 4 ≤ dataLen ∨ ¬ (inFlashRange (data.get32 0) ∧
      inFlashRange ((data.get32 0 + (dataLen - 4)) % 2 ^ 32).toNat))
    (hbad : ¬ (4 : Int) ≤ dataLen) :
    writeFlashCmd data dataLen s = finishCommandResp .invalidInput s :=
  if_pos (Decidable.not_and_iff_or_not.mp (hlen.resolve_left hbad))

/-- A handler that is given data of a wrong length rejects it. -/
theorem stateFunction_rejects (hlen : lengthHandled s data dataLen s.deviceState cmd)
    (hacc : stateFunction P cmd data dataLen s ≠ .rejected) (hbad : ¬ dataLenOk cmd data dataLen) :
    Rejects (stateFunction P cmd data dataLen s) s := by
  unfold stateFunction at hacc ⊢
  cases hstate : s.deviceState with
  | disconnected | reset | bootloader =>
    rw [hstate] at hacc
    exact absurd rfl hacc
  | initializing | wiping | erasingPages =>
    rw [hstate] at hlen hacc
    cases cmd with
    | getProgress => exact absurd hlen hbad
    | _ => exact absurd rfl hacc
  | uninitialized =>
    rw [hstate] at hlen hacc
    cases cmd with
    | getProgress => exact absurd hlen hbad
    | initializeDevice => exact congrArg Ret.handled (initializeCmd_rejects hbad)
    | restoreDevice | getDeviceCapacity | enterMobileMode | updateFirmware =>
      exact absurd trivial hbad
    | _ => exact absurd rfl hacc
  | backingUpDevice =>
    rw [hstate] at hacc
    cases cmd with
    | readBlock => exact congrArg Ret.handled (readBlockCmd_rejects hbad)
    | backupDeviceDone => exact absurd trivial hbad
    | _ => exact absurd rfl hacc
  | restoringDevice =>
    rw [hstate] at hacc
    cases cmd with
    | writeBlock => exact congrArg Ret.handled (writeBlockCmd_rejects hbad)
    | eraseBlock => exact congrArg Ret.handled (eraseBlockCmd_rejects hbad)
    | restoreDeviceDone => exact absurd trivial hbad
    | _ => exact absurd rfl hacc
  | firmwareUpdate =>
    rw [hstate] at hlen hacc
    cases cmd with
    | eraseFlashPages => exact absurd hlen hbad
    | writeFlash => exact congrArg Ret.handled (writeFlashCmd_rejects hlen hbad)
    | resetDevice => exact absurd trivial hbad
    | _ => exact absurd rfl hacc
  | loggedOut =>
    rw [hstate] at hlen hacc
    cases cmd with
    | getProgress => exact absurd hlen hbad
    | changeMasterPassword =>
      exact congrArg Ret.handled (changeMasterPasswordCmd_rejects hbad)
    | initializeDevice => exact congrArg Ret.handled (initializeCmd_rejects hbad)
    | login => exact congrArg Ret.handled (loginCmd_rejects hlen hbad)
    | loginToken => exact congrArg Ret.handled (loginTokenCmd_rejects hbad)
    | wipe | backupDevice | restoreDevice | getDeviceCapacity | enterMobileMode =>
      exact absurd trivial hbad
    | _ => exact absurd rfl hacc
  | loggedIn =>
    rw [hstate] at hlen hacc
    cases cmd with
    | getProgress | type => exact absurd hlen hbad
    | changeMasterPassword =>
      exact congrArg Ret.handled (changeMasterPasswordCmd_rejects hbad)
    | getRandBits => exact congrArg Ret.handled (getRandBitsCmd_rejects hbad)
    | readUid => exact congrArg Ret.handled (readUidPacket_rejects hbad)
    | updateUids | updateUid => exact congrArg Ret.handled (updateUidPacket_rejects hbad)
    | readAllUids => exact congrArg Ret.handled (readAllUidsPacket_rejects hbad)
    | readCleartextPassword =>
      exact congrArg Ret.handled (readCleartextPassword_rejects hbad)
    | writeCleartextPassword =>
      exact congrArg Ret.handled (writeCleartextPassword_rejects hbad)
    | backupDevice | buttonWait | logout | updateFirmware | readCleartextPasswordNames =>
      exact absurd trivial hbad
    | _ => exact absurd rfl hacc

end StateFunctions

/-! ### Packets -/

section Packets

variable {P : Platform} {s : Dev}

/-- The data of the packet in `cmd_packet_buf`. -/
abbrev packetData (s : Dev) : Mem := s.cmdPacketBuf.window CMD_PACKET_HEADER_SIZE

/-- The packet goes to the state functions unless its data is too long. -/
abbrev Dispatched (s : Dev) : Prop :=
  packetCmd s.cmdPacketBuf ∉ [Command.disconnect, .startup, .getDeviceState, .cancelButtonPress]

theorem packetDataLen_ge (buf : Mem) : -6 ≤ packetDataLen buf := by
  change -6 ≤ (buf.get16 0 : Int) - 6
  omega

theorem cmdPacketRecv_of_dispatched (hcmd : Dispatched s) :
    cmdPacketRecv P s =
      if packetDataLen s.cmdPacketBuf > CMD_PACKET_PAYLOAD_SIZE then
        some (finishCommandResp .invalidInput (activate s))
      else
        match dispatch P (activate s) with
        | .rejected => some (countIteration (packetMessagesRemaining s.cmdPacketBuf)
            (finishCommandResp .invalidState (activate s)))
        | .handled t => some (countIteration (packetMessagesRemaining s.cmdPacketBuf) t)
        | .reset => none := by
  simp only [Dispatched, List.mem_cons, List.not_mem_nil, or_false, not_or] at hcmd
  obtain ⟨hdisc, hstart, hget, hcancel⟩ := hcmd
  unfold cmdPacketRecv runPacket
  dsimp only
  rw [if_neg hdisc, if_neg (fun h => hcancel h.1)]
  change (if packetCmd s.cmdPacketBuf = .startup then _ else _) = _
  rw [if_neg hstart]
  change (if packetCmd s.cmdPacketBuf = .getDeviceState then _ else _) = _
  rw [if_neg hget]
  change (if packetCmd s.cmdPacketBuf = .cancelButtonPress then _ else _) = _
  rw [if_neg hcancel]
  rfl

theorem cmdPacketRecv_of_handled (hcmd : Dispatched s)
    (hle : packetDataLen s.cmdPacketBuf ≤ CMD_PACKET_PAYLOAD_SIZE) {t : Dev}
    (ht : dispatch P (activate s) = .handled t) :
    cmdPacketRecv P s = some (countIteration (packetMessagesRemaining s.cmdPacketBuf) t) := by
  rw [cmdPacketRecv_of_dispatched hcmd, if_neg (by omega), ht]

theorem cmdPacketRecvTouches_of_dispatched (hcmd : Dispatched s)
    (hle : packetDataLen s.cmdPacketBuf ≤ CMD_PACKET_PAYLOAD_SIZE) :
    cmdPacketRecvTouches P s = ⟨.cmdPacketBuf, ⟨0, CMD_PACKET_HEADER_SIZE⟩⟩ ::
      stateFunctionTouches P (activate s) (packetData s) (packetDataLen s.cmdPacketBuf)
        (packetCmd s.cmdPacketBuf) := by
  simp only [Dispatched, List.mem_cons, List.not_mem_nil, or_false, not_or] at hcmd
  obtain ⟨hdisc, hstart, hget, hcancel⟩ := hcmd
  unfold cmdPacketRecvTouches runPacketTouches
  dsimp only
  rw [if_neg (by
    rintro (h | ⟨h, -⟩)
    · exact hdisc h
    · exact hcancel h)]
  change _ :: (if packetCmd s.cmdPacketBuf = .startup then _ else _) = _
  rw [if_neg hstart]
  change _ :: (if packetCmd s.cmdPacketBuf = .getDeviceState ∨
    packetCmd s.cmdPacketBuf = .cancelButtonPress then _ else _) = _
  rw [if_neg (not_or.mpr ⟨hget, hcancel⟩)]
  change _ :: (if packetDataLen s.cmdPacketBuf > CMD_PACKET_PAYLOAD_SIZE then _ else _) = _
  rw [if_neg (by omega)]
  rfl

theorem cmdPacketRecvTouches_within (hfits : RecordsFit P s) (hlen : LengthHandled s) :
    Touch.AllWithin (cmdPacketRecvTouches P s) := by
  have hheader : (⟨.cmdPacketBuf, ⟨0, CMD_PACKET_HEADER_SIZE⟩⟩ : Touch).Within := by decide
  by_cases hlong : packetDataLen s.cmdPacketBuf ≤ CMD_PACKET_PAYLOAD_SIZE
  · by_cases hcmd : Dispatched s
    · rw [cmdPacketRecvTouches_of_dispatched hcmd hlong, Touch.allWithin_cons]
      exact ⟨hheader, stateFunctionTouches_within (hfits.records hlong) (packetDataLen_ge _) hlong
        (hlen hlong)⟩
    · unfold cmdPacketRecvTouches runPacketTouches
      dsimp only
      rw [Touch.allWithin_cons]
      refine ⟨hheader, ?_⟩
      split
      · exact Touch.allWithin_nil
      · split
        · rename_i hstart
          exact startupCmdTouches_within.mpr (hfits.startup hstart)
        · split
          · exact Touch.allWithin_nil
          · rename_i hnone hstart hget
            refine absurd ?_ hcmd
            simp only [Dispatched, List.mem_cons, List.not_mem_nil, or_false, not_or]
            exact ⟨fun h => hnone (.inl h), hstart, fun h => hget (.inl h), fun h => hget (.inr h)⟩
  · unfold cmdPacketRecvTouches runPacketTouches
    dsimp only
    rw [Touch.allWithin_cons]
    refine ⟨hheader, ?_⟩
    split
    · exact Touch.allWithin_nil
    · split
      · rename_i hstart
        exact startupCmdTouches_within.mpr (hfits.startup hstart)
      · split
        · exact Touch.allWithin_nil
        · split
          · exact Touch.allWithin_nil
          · rename_i hshort
            exact absurd (Int.not_lt.mp hshort) hlong

/-- An answer INVALID_INPUT to the packet's command rejects it. -/
theorem rejectedInput_finish (s : Dev) :
    RejectedInput s (finishCommandResp .invalidInput (activate s)) :=
  ⟨⟨_, rfl, rfl⟩, rfl⟩

theorem rejectedInput_countIteration (n : Nat) (s : Dev) :
    RejectedInput s (countIteration n (finishCommandResp .invalidInput (activate s))) := by
  unfold countIteration
  split
  · exact ⟨⟨_, rfl, rfl⟩, rfl⟩
  · exact rejectedInput_finish s

/-- **Data of a wrong length is rejected** by the handlers that check it. -/
theorem rejectedInput_of_badLength (hlen : LengthHandled s) (hbad : BadLength P s) :
    ∃ s', cmdPacketRecv P s = some s' ∧ RejectedInput s s' := by
  obtain ⟨hcmd, hlong⟩ := hbad
  by_cases htoo : packetDataLen s.cmdPacketBuf > CMD_PACKET_PAYLOAD_SIZE
  · refine ⟨_, ?_, rejectedInput_finish s⟩
    rw [cmdPacketRecv_of_dispatched hcmd, if_pos htoo]
  · obtain ⟨hacc, hnot⟩ := hlong.resolve_left htoo
    have hle := Int.not_lt.mp htoo
    refine ⟨_, cmdPacketRecv_of_handled hcmd hle ?_, rejectedInput_countIteration _ s⟩
    exact stateFunction_rejects (hlen hle) hacc hnot

/-! ### What goes wrong otherwise -/

/-- The progress of an operation is never answered INVALID_INPUT. -/
theorem getProgressCmd_outputs (data : Mem) (dataLen : Int) (s : Dev) :
    (getProgressCmd data dataLen s).outputs = s.outputs ∨
      ∃ r : Response, (getProgressCmd data dataLen s).outputs = .response r :: s.outputs ∧
        r.resp ≠ .invalidInput := by
  unfold getProgressCmd
  dsimp only
  split
  · exact .inr ⟨_, rfl, by rintro ⟨⟩⟩
  · unfold getProgressCheck
    split
    · dsimp only
      split
      · exact .inr ⟨_, rfl, by rintro ⟨⟩⟩
      · exact .inl rfl
    · exact .inl rfl

/-- A handler whose last output is no answer INVALID_INPUT has not rejected anything. -/
theorem not_rejectedInput {s t : Dev} {n : Nat}
    (h : t.outputs = s.outputs ∨ ∃ o, t.outputs = o :: s.outputs ∧
      ∀ r : Response, o = .response r → r.resp ≠ .invalidInput) :
    ¬ RejectedInput s (countIteration n t) := by
  rintro ⟨⟨r, hr, hresp⟩, -⟩
  rw [outputs_countIteration] at hr
  rcases h with heq | ⟨o, ho, hne⟩
  · rw [heq] at hr
    exact absurd (congrArg List.length hr) (by rw [List.length_cons]; omega)
  · rw [ho] at hr
    obtain ⟨rfl, -⟩ := List.cons.inj hr
    exact hne r rfl hresp

theorem getProgress_length (hsafe : HandlersSafe P s) (hcmd : Dispatched s)
    (hle : packetDataLen s.cmdPacketBuf ≤ CMD_PACKET_PAYLOAD_SIZE)
    (hprogress : packetCmd s.cmdPacketBuf = .getProgress)
    (hhandled : dispatch P (activate s) = .handled
      (getProgressCmd (packetData s) (packetDataLen s.cmdPacketBuf) (activate s))) :
    4 ≤ packetDataLen s.cmdPacketBuf := by
  by_contra hshort
  have hbad : BadLength P s := by
    refine ⟨hcmd, .inr ⟨?_, ?_⟩⟩
    · rw [hhandled]
      rintro ⟨⟩
    · rw [hprogress]
      exact hshort
  obtain ⟨s', hs', hrej⟩ := hsafe.lengths hbad
  rw [cmdPacketRecv_of_handled hcmd hle hhandled] at hs'
  cases hs'
  refine not_rejectedInput ?_ hrej
  rcases getProgressCmd_outputs (packetData s) (packetDataLen s.cmdPacketBuf) (activate s)
    with heq | ⟨r, hr, hne⟩
  · exact .inl heq
  · refine .inr ⟨_, hr, ?_⟩
    rintro r' ⟨⟩
    exact hne

theorem login_length (hsafe : HandlersSafe P s) (hcmd : Dispatched s)
    (hle : packetDataLen s.cmdPacketBuf ≤ CMD_PACKET_PAYLOAD_SIZE)
    (hlogin : packetCmd s.cmdPacketBuf = .login)
    (hhandled : dispatch P (activate s) = .handled
      (loginCmd (packetData s) (packetDataLen s.cmdPacketBuf) (activate s))) :
    AES_256_KEY_SIZE ≤ packetDataLen s.cmdPacketBuf ∨
      s.cmdData.get32 CmdData.loginGenToken = 0 ∧
        s.cmdData.get32 CmdData.loginAuthenticated = 0 := by
  refine Decidable.or_iff_not_imp_left.mpr fun hshort => ?_
  have hbad : BadLength P s := by
    refine ⟨hcmd, .inr ⟨?_, ?_⟩⟩
    · rw [hhandled]
      rintro ⟨⟩
    · rw [hlogin]
      exact hshort
  obtain ⟨s', hs', hrej⟩ := hsafe.lengths hbad
  rw [cmdPacketRecv_of_handled hcmd hle hhandled] at hs'
  cases hs'
  have hdata := congrArg (fun s : Dev => s.cmdData) hrej.unchanged
  dsimp only at hdata
  rw [cmdData_countIteration] at hdata
  unfold loginCmd at hdata
  rw [if_pos (Int.not_le.mp hshort)] at hdata
  change (s.cmdData.put32 CmdData.loginGenToken 0).put32 CmdData.loginAuthenticated 0 =
    s.cmdData at hdata
  rw [← hdata]
  refine ⟨?_, Mem.get32_put32 _ _ _⟩
  exact (Mem.get32_put32_disjoint _ _ (.inr (by decide))).trans (Mem.get32_put32 _ _ _)

theorem writeFlash_length (hsafe : HandlersSafe P s) (hcmd : Dispatched s)
    (hle : packetDataLen s.cmdPacketBuf ≤ CMD_PACKET_PAYLOAD_SIZE)
    (hwrite : packetCmd s.cmdPacketBuf = .writeFlash)
    (hhandled : dispatch P (activate s) = .handled
      (writeFlashCmd (packetData s) (packetDataLen s.cmdPacketBuf) (activate s))) :
    4 ≤ packetDataLen s.cmdPacketBuf ∨ ¬ (inFlashRange ((packetData s).get32 0) ∧
      inFlashRange (((packetData s).get32 0 + (packetDataLen s.cmdPacketBuf - 4)) %
        2 ^ 32).toNat) := by
  refine Decidable.or_iff_not_imp_left.mpr fun hshort hrange => ?_
  have hbad : BadLength P s := by
    refine ⟨hcmd, .inr ⟨?_, ?_⟩⟩
    · rw [hhandled]
      rintro ⟨⟩
    · rw [hwrite]
      exact hshort
  obtain ⟨s', hs', hrej⟩ := hsafe.lengths hbad
  rw [cmdPacketRecv_of_handled hcmd hle hhandled] at hs'
  cases hs'
  refine not_rejectedInput (.inr ?_) hrej
  unfold writeFlashCmd flashWrite
  dsimp only
  rw [if_neg (by
    rintro (h | h)
    · exact h hrange.1
    · exact h hrange.2)]
  split <;>
    · refine ⟨_, rfl, ?_⟩
      rintro r ⟨⟩

theorem dispatch_activate {cmd : Command} (hnext : packetCmd s.cmdPacketBuf = cmd) :
    dispatch P (activate s) = stateFunction P cmd (packetData s) (packetDataLen s.cmdPacketBuf)
      (activate s) := by
  rw [← hnext]
  rfl

theorem dispatch_getProgress (hstate : s.deviceState ∈ [.uninitialized, .initializing, .wiping,
      .erasingPages, .loggedOut, .loggedIn])
    (hnext : packetCmd s.cmdPacketBuf = .getProgress) :
    dispatch P (activate s) = .handled
      (getProgressCmd (packetData s) (packetDataLen s.cmdPacketBuf) (activate s)) := by
  rw [dispatch_activate hnext]
  unfold stateFunction
  have hactivate : (activate s).deviceState = s.deviceState := rfl
  rw [hactivate]
  simp only [List.mem_cons, List.not_mem_nil, or_false] at hstate
  rcases hstate with h | h | h | h | h | h <;>
    · rw [h]
      rfl

/-- The commands that look at no data ask for nothing. -/
theorem lengthHandled_of_not_dispatched (hcmd : ¬ Dispatched s) (data : Mem) (dataLen : Int)
    (state : DeviceState) : lengthHandled s data dataLen state (packetCmd s.cmdPacketBuf) := by
  simp only [Dispatched, List.mem_cons, List.not_mem_nil, or_false, not_not] at hcmd
  rcases hcmd with h | h | h | h <;>
    · rw [h]
      cases state <;> trivial

/-- **A packet that does no harm is one its handler copes with.** -/
theorem HandlersSafe.lengthHandled (hsafe : HandlersSafe P s) : LengthHandled s := by
  intro hle
  by_cases hcmd : Dispatched s
  · have htouches := hsafe.touches
    rw [cmdPacketRecvTouches_of_dispatched hcmd hle, Touch.allWithin_cons] at htouches
    obtain ⟨-, htouches⟩ := htouches
    unfold stateFunctionTouches at htouches
    have hactivated : (activate s).deviceState = s.deviceState := rfl
    rw [hactivated] at htouches
    cases hstate : s.deviceState with
    | uninitialized | initializing | wiping | erasingPages =>
      cases hnext : packetCmd s.cmdPacketBuf with
      | getProgress =>
        refine getProgress_length hsafe hcmd hle hnext (dispatch_getProgress ?_ hnext)
        rw [hstate]
        decide
      | _ => trivial
    | loggedOut =>
      cases hnext : packetCmd s.cmdPacketBuf with
      | getProgress =>
        refine getProgress_length hsafe hcmd hle hnext (dispatch_getProgress ?_ hnext)
        rw [hstate]
        decide
      | login =>
        refine login_length hsafe hcmd hle hnext ?_
        rw [dispatch_activate hnext]
        unfold stateFunction
        rw [show (activate s).deviceState = _ from hstate]
        rfl
      | _ => trivial
    | firmwareUpdate =>
      rw [hstate] at htouches
      cases hnext : packetCmd s.cmdPacketBuf with
      | eraseFlashPages =>
        rw [hnext] at htouches
        exact (eraseFlashPagesCmdTouches_within (packetDataLen_ge _) hle).mp htouches
      | writeFlash =>
        refine writeFlash_length hsafe hcmd hle hnext ?_
        rw [dispatch_activate hnext]
        unfold stateFunction
        rw [show (activate s).deviceState = _ from hstate]
        rfl
      | _ => trivial
    | loggedIn =>
      rw [hstate] at htouches
      cases hnext : packetCmd s.cmdPacketBuf with
      | getProgress =>
        refine getProgress_length hsafe hcmd hle hnext (dispatch_getProgress ?_ hnext)
        rw [hstate]
        decide
      | type =>
        rw [hnext] at htouches
        exact (typeCmdTouches_within (packetDataLen_ge _) hle).mp htouches
      | readAllUids =>
        rw [hnext] at htouches
        exact (readAllUidsPacketTouches_within.mp htouches).1
      | readCleartextPasswordNames =>
        rw [hnext] at htouches
        exact absurd htouches readCleartextPasswordNamesTouches_not_within
      | _ => trivial
    | backingUpDevice | restoringDevice | disconnected | reset | bootloader =>
      cases packetCmd s.cmdPacketBuf <;> trivial
  · exact lengthHandled_of_not_dispatched hcmd _ _ _

/-- A packet that does no harm gets to a block, or a record, that fits. -/
theorem HandlersSafe.recordsFit (hsafe : HandlersSafe P s) : RecordsFit P s := by
  have htouches := hsafe.touches
  refine ⟨fun hstart => ?_, fun hle => ?_⟩
  · unfold cmdPacketRecvTouches runPacketTouches at htouches
    dsimp only at htouches
    have hnot : ¬(packetCmd s.cmdPacketBuf = .disconnect ∨
        packetCmd s.cmdPacketBuf = .cancelButtonPress ∧ s.activeCmd ≠ none) := by
      rw [hstart]
      rintro (h | ⟨h, -⟩) <;> cases h
    rw [Touch.allWithin_cons, if_neg hnot] at htouches
    change _ ∧ Touch.AllWithin (if packetCmd s.cmdPacketBuf = .startup then _ else _) at htouches
    rw [if_pos hstart] at htouches
    exact startupCmdTouches_within.mp htouches.2
  · cases hstate : s.deviceState with
    | loggedIn =>
      by_cases hcmd : Dispatched s
      · rw [cmdPacketRecvTouches_of_dispatched hcmd hle, Touch.allWithin_cons] at htouches
        obtain ⟨-, htouches⟩ := htouches
        unfold stateFunctionTouches at htouches
        rw [show (activate s).deviceState = .loggedIn from hstate] at htouches
        cases hnext : packetCmd s.cmdPacketBuf with
        | readUid =>
          rw [hnext] at htouches
          exact readUidPacketTouches_within.mp htouches
        | updateUid =>
          rw [hnext] at htouches
          exact (updateUidPacketTouches_within (s := activate s) (.inl rfl)).mp htouches
        | updateUids =>
          rw [hnext] at htouches
          exact (updateUidPacketTouches_within (s := activate s) (.inr rfl)).mp htouches
        | readAllUids =>
          rw [hnext] at htouches
          exact (readAllUidsPacketTouches_within.mp htouches).2
        | _ => trivial
      · simp only [Dispatched, List.mem_cons, List.not_mem_nil, or_false, not_not] at hcmd
        rcases hcmd with h | h | h | h <;>
          · rw [h]
            trivial
    | _ => cases packetCmd s.cmdPacketBuf <;> trivial

end Packets

/-! ### Stores that are in order -/

/-- The stored blocks have no more records than partitions, which have one of the sizes there
    are, the records fit in them, and the tables of a device that is logged in describe them. -/
structure StoreFits (P : Platform) (s : Dev) : Prop where
  blocks : ∀ i ∈ dataBlocks, blockCrcCheck P (block P s i) = true →
    headerPartSize (block P s i) ∈ partSizes ∧
      headerOccupancy (block P s i) ≤ getPartCount (headerPartSize (block P s i))
  records : ∀ i ∈ dataBlocks, blockCrcCheck P (block P s i) = true →
    ∀ j < headerOccupancy (block P s i),
      sizeToSubBlkCount (uidTbl (block P s i) j).sz ≤ headerPartSize (block P s i)
  tables : s.deviceState = .loggedIn → DbOk P (block P s) s.tables

section Order

variable {P : Platform} {s : Dev} {info : BlockInfo} {room uid sz : Nat}

/-- The last record of a block in order is in the block. -/
theorem lastFits_of_layout (hroom : BLK_SIZE ≤ room) (hl : Layout BLK_SIZE info)
    (hpos : 0 < info.partOccupancy) (hle : info.partOccupancy ≤ info.partCount) :
    LastFits room info := by
  have hlast : info.partOccupancy - 1 < info.partCount := by omega
  exact ⟨Nat.le_trans (hl.ent_lt hlast) hroom, Nat.le_trans (hl.part_le hlast) hroom⟩

theorem secondEntry_mem {pages : Nat → Mem} {q p : Nat × Nat} (ps : List (Nat × Nat)) :
    ∀ seen, secondEntry pages seen ps = some (q, p) →
      (q ∈ seen ∨ q ∈ ps) ∧ p ∈ ps := by
  induction ps with
  | nil =>
    intro seen h
    cases h
  | cons p' ps ih =>
    intro seen h
    unfold secondEntry at h
    split at h
    · rename_i q' hfind
      cases h
      exact ⟨.inl (List.mem_of_find?_eq_some hfind), List.mem_cons_self⟩
    · obtain ⟨hq, hp⟩ := ih _ h
      refine ⟨?_, List.mem_cons_of_mem _ hp⟩
      rcases hq with hq | hq
      · rcases List.mem_cons.mp hq with rfl | hq
        · exact .inr List.mem_cons_self
        · exact .inl hq
      · exact .inr (List.mem_cons_of_mem _ hq)

theorem mem_scannedEntries {pages : Nat → Mem} {is : List Nat} {p : Nat × Nat}
    (h : p ∈ scannedEntries P pages is) : p.1 ∈ is ∧ blockCrcCheck P (pages p.1) = true ∧
      p.2 < (storedInfo P (pages p.1)).partOccupancy := by
  obtain ⟨i, hi, hp⟩ := List.mem_flatMap.mp h
  split at hp
  · rename_i hcrc
    obtain ⟨j, hj, rfl⟩ := List.mem_map.mp hp
    exact ⟨hi, hcrc, List.mem_range.mp (List.mem_of_mem_filter hj)⟩
  · cases hp

/-- The scan finds a block in order. -/
theorem StoreFits.stored (h : StoreFits P s) {i : Nat} (hi : i ∈ dataBlocks)
    (hcrc : blockCrcCheck P (block P s i) = true) :
    Layout BLK_SIZE (storedInfo P (block P s i)) ∧
      (storedInfo P (block P s i)).partOccupancy ≤ (storedInfo P (block P s i)).partCount := by
  obtain ⟨hsize, hocc⟩ := h.blocks i hi hcrc
  obtain ⟨hlt, -⟩ := getPartCount_lt _ hsize
  refine ⟨(sizeClass_scanInfo P hcrc hsize _).layout, ?_⟩
  unfold storedInfo
  rw [scanInfo_of_crcCheck P hcrc]
  dsimp only
  rw [Nat.mod_eq_of_lt hlt]
  exact Nat.le_trans (Nat.mod_le _ _) hocc

theorem StoreFits.startup (h : StoreFits P s) : StartupFits P s := by
  intro _ _ _ q p hsecond
  have hentry : ∀ b j : Nat, (b, j) ∈ scannedEntries P (block P s) dataBlocks →
      BlockDropFits startupScratch.room (block P s b) (storedInfo P (block P s b)) true := by
    intro b j hmem
    obtain ⟨hb, hcrc, hlt⟩ := mem_scannedEntries hmem
    obtain ⟨hl, hle⟩ := h.stored hb hcrc
    exact .inr (.inr (lastFits_of_layout (by decide) hl (Nat.zero_lt_of_lt hlt) hle))
  obtain ⟨hq, hp⟩ := secondEntry_mem _ _ hsecond
  have hq' := hq.resolve_left List.not_mem_nil
  unfold DropFits droppedBlock
  dsimp only
  split
  · exact hentry p.1 p.2 hp
  · exact hentry q.1 q.2 hq'

theorem DbOk.mapFits (hok : DbOk P (Firmware.block P s) s.tables) (hmin : MIN_UID ≤ uid)
    (hmax : uid ≤ MAX_UID) : MapFits s.tables uid := by
  rcases hok.placed uid hmin hmax with ⟨hinv, -⟩ | ⟨hb, -⟩
  · exact .inl hinv
  · exact .inr (dataBlock_bounds hb).2

/-- The block of a record that is found. -/
theorem DbOk.found (hok : DbOk P (Firmware.block P s) s.tables) (hmin : MIN_UID ≤ uid)
    (hmax : uid ≤ MAX_UID) {j : Nat}
    (hfind : (findUid (Firmware.block P s) s.tables uid).2 = some j) :
    s.tables.uidMap uid ∈ dataBlocks ∧ live (s.tables.blockInfoTbl (s.tables.uidMap uid)) ∧
      j < (s.tables.blockInfoTbl (s.tables.uidMap uid)).partOccupancy := by
  have heq : findUid (Firmware.block P s) s.tables uid = (s.tables.uidMap uid, some j) :=
    Prod.ext (findUid_fst _ _ _) hfind
  obtain ⟨hb, hl⟩ := (hok.placed uid hmin hmax).found_live heq
  exact ⟨hb, hl, (findUid_some heq).2.2.1⟩

theorem DbOk.removalFits (hok : DbOk P (Firmware.block P s) s.tables) (hmin : MIN_UID ≤ uid)
    (hmax : uid ≤ MAX_UID) (deallocateBlock : Bool) :
    RemovalFits BLK_SIZE (Firmware.block P s) s.tables uid deallocateBlock := by
  refine ⟨hok.mapFits hmin hmax, fun hsome => .inr (.inr ?_)⟩
  obtain ⟨j, hj⟩ := Option.isSome_iff_exists.mp hsome
  obtain ⟨hb, hl, hlt⟩ := hok.found hmin hmax hj
  have hfilled := (hok.block _ hb).filled hl
  exact lastFits_of_layout (Nat.le_refl _) hfilled.layout (Nat.zero_lt_of_lt hlt) hfilled.le

theorem hasRoom_of_chosenBlock {tbl : Tables} {partSize i : Nat}
    (h : chosenBlock tbl partSize = some i) : HasRoom tbl partSize i := by
  unfold chosenBlock at h
  rcases Option.or_eq_some_iff.mp h with hexact | ⟨-, hlarger⟩
  · exact findExactBlock_spec hexact
  · split at hlarger
    · cases hlarger
    · exact findLargerBlock_spec hlarger

theorem DbOk.updateFits (hok : DbOk P (Firmware.block P s) s.tables) (hmin : MIN_UID ≤ uid)
    (hmax : uid ≤ MAX_UID) : UpdateFits BLK_SIZE (Firmware.block P s) s.tables uid sz := by
  have hc := (updateScratch_ok (.inl rfl)).1
  unfold UpdateFits
  split
  · exact hok.removalFits hmin hmax true
  · refine ⟨hok.mapFits hmin hmax, fun hsize => ⟨fun hkeep => ?_, fun _ _ i hi => ?_⟩⟩
    · refine ⟨hok.removalFits hmin hmax false, ?_⟩
      obtain ⟨hsome, hsame⟩ := hkeep
      obtain ⟨j, hj⟩ := Option.isSome_iff_exists.mp hsome
      obtain ⟨hb, hl, hlt⟩ := hok.found hmin hmax hj
      have hfilled := (hok.block _ hb).filled hl
      have hlayout : Layout BLK_SIZE { s.tables.blockInfoTbl (s.tables.uidMap uid) with
          partOccupancy := (s.tables.blockInfoTbl (s.tables.uidMap uid)).partOccupancy - 1 } :=
        ⟨hfilled.layout.table, hfilled.layout.parts, hfilled.layout.count⟩
      refine nextFits_of_layout hc hlayout ?_ ?_
      · exact Nat.lt_of_lt_of_le (Nat.sub_one_lt (Nat.ne_of_gt (Nat.zero_lt_of_lt hlt))) hfilled.le
      · exact hsame ▸ (targetPartSize_spec hsize).2
    · have hroom := hasRoom_of_chosenBlock hi
      exact nextFits_of_layout hc ((hok.block i hroom.mem).filled hroom.live).layout hroom.room
        (Nat.le_trans (targetPartSize_spec hsize).2 hroom.size)

/-- A record that is found has at most 127 sub-blocks. -/
theorem StoreFits.readFits (h : StoreFits P s) (hstate : s.deviceState = .loggedIn)
    (hmin : MIN_UID ≤ uid) (hmax : uid ≤ MAX_UID) : ReadFits (block P s) s.tables uid := by
  intro j hj
  have hok := h.tables hstate
  obtain ⟨hb, hl, hlt⟩ := hok.found hmin hmax hj
  have hfilled := (hok.block _ hb).filled hl
  have hcrc : blockCrcCheck P (block P s (s.tables.uidMap uid)) = true := by
    rw [← live_scanInfo P _ (s.tables.blockInfoTbl (s.tables.uidMap uid)),
      (hok.block _ hb).live_iff]
    exact hl
  have hrec := h.records _ hb hcrc j (by rw [hfilled.occupancy]; exact hlt)
  have hsize : ∀ p ∈ partSizes, p ≤ 127 := by decide
  exact Nat.le_trans hrec (hsize _ (h.blocks _ hb hcrc).1)

/-- **What a store in order holds fits.** -/
theorem StoreFits.recordsFit (h : StoreFits P s) : RecordsFit P s := by
  refine ⟨fun _ => h.startup, fun _ => ?_⟩
  cases hstate : s.deviceState with
  | loggedIn =>
    have hok := h.tables hstate
    cases packetCmd s.cmdPacketBuf with
    | readUid =>
      exact fun _ hmin hmax => ⟨hok.mapFits hmin hmax, fun _ => h.readFits hstate hmin hmax⟩
    | updateUid | updateUids => exact fun _ hmin hmax _ => hok.updateFits hmin hmax
    | readAllUids =>
      intro _ _ uid huid
      obtain ⟨hmin, hmax⟩ := nextMappedUid_spec huid
      exact ⟨hok.mapFits hmin hmax, h.readFits hstate hmin hmax⟩
    | _ => trivial
  | _ => cases packetCmd s.cmdPacketBuf <;> trivial

end Order

/-! ### Two packets -/

/-- A device with an erased flash. -/
def erasedDev : Dev := powerOn plainPlatform fun _ => 0xff

/-- A block with one record, of uid 7 and 15 bytes, in a partition of two sub-blocks. -/
def oneRecordBlock : Mem :=
  Mem.write (fun _ => 0) 0 ([0, 0, 0, 0, 2, 0, 1, 0] ++ UidEnt.toBytes ⟨7, 0, 1, 0, 15, 0⟩)

/-- A device that is logged in and has it as its block 3, with a packet of a command and data. -/
def recordDev (code : UInt8) (data : Bytes) : Dev :=
  { powerOn plainPlatform (fun a => oneRecordBlock (a - idBlk 3)) with
    deviceState := .loggedIn
    tables :=
      { blockInfoTbl := fun _ => ⟨1, 1, 53, 1, 2, 21⟩
        uidMap := fun uid => if uid = 7 then 3 else INVALID_BLOCK }
    cmdPacketBuf := Mem.write (fun _ => 0) 0
      (Mem.bytes16 (CMD_PACKET_HEADER_SIZE + data.length) ++ [code, 0, 0, 0] ++ data) }

/-- READ_UID of the record. -/
def readRecordDev : Dev := recordDev 32 [7, 0, 1]

/-- UPDATE_UID of the record, which keeps its partition. -/
def updateRecordDev : Dev := recordDev 31 ([7, 0, 15, 0] ++ List.replicate 32 9)

/-- The same device logged in, with a TYPE packet that has a header length of 0. -/
def shortTypeDev : Dev :=
  { erasedDev with deviceState := .loggedIn, cmdPacketBuf := fun a => if a = 2 then 5 else 0 }

end SignetBase.Firmware

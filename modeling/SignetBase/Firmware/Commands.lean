/-
  SignetBase/Firmware/Commands.lean
  =================================
  **Command handlers and state functions (`commands.c`,
  `firmware_update_state.c`).**

  A handler is given the data behind the packet header and the data length, which
  the header claims and which may be as small as -6.  A state function says which
  commands a device state accepts; one it does not list is left to the caller,
  which answers INVALID_STATE.
-/
import SignetBase.Firmware.Db

namespace SignetBase.Firmware

variable (P : Platform)

/-! ### Logging in -/

/-- `attempt_login_256`: the decrypted data key, if the key reproduces the stored
    authentication ciphertext. -/
def attemptLogin256 (authKey authRand authRandCt encryptKeyCt : Bytes) : Option Bytes :=
  let n := AES_256_KEY_SIZE / AES_BLK_SIZE
  if stmAes256EncryptCbc P authKey n none authRand = authRandCt then
    some (stmAes256DecryptCbc P authKey n none encryptKeyCt)
  else none

/-- A key-sized field of the root page. -/
def rootKey (s : Dev) (off : Nat) : Bytes := s.rootPage.read off AES_256_KEY_SIZE

/-- What `attempt_login_256` gives for a password key, against the root page. -/
def attemptLogin (s : Dev) (key : Bytes) : Option Bytes :=
  attemptLogin256 P key (rootKey s RootPage.authRand) (rootKey s RootPage.authRandCt)
    (rootKey s RootPage.encryptKeyCt)

/-- What `attempt_login_256` gives for a login token. -/
def attemptLoginToken (s : Dev) (token : Bytes) : Option Bytes :=
  attemptLogin256 P token (rootKey s RootPage.authRand) s.tokenAuthRandCt s.tokenEncryptKeyCt

/-- Draw the words of a login token into `cmd_data`. -/
def drawLoginToken (s : Dev) : Dev :=
  randFill (fun _ w => w) CmdData.loginToken (AES_256_KEY_SIZE / 4) s

/-- Keep what LOGIN_TOKEN needs: the authentication data and the data key,
    encrypted under the token in `cmd_data`. -/
def storeTokenCiphertexts (s : Dev) : Dev :=
  let token := s.cmdData.read CmdData.loginToken AES_256_KEY_SIZE
  let n := AES_256_KEY_SIZE / AES_BLK_SIZE
  { s with
    tokenAuthRandCt := stmAes256EncryptCbc P token n none (rootKey s RootPage.authRand)
    tokenEncryptKeyCt := stmAes256EncryptCbc P token n none s.encryptKey }

/-- The payload of an answered LOGIN with token: `gen_token` taken for an
    address. -/
def genTokenPayload (s : Dev) : Option Bytes :=
  let genToken := s.cmdData.get32 CmdData.loginGenToken
  if genToken = 0 then none else some ((memFrom P s genToken).read 0 AES_256_KEY_SIZE)

/-- `login_cmd_iter`. -/
def loginCmdIter (s : Dev) : Dev :=
  if s.cmdData.get32 CmdData.loginAuthenticated ≠ 0 ∧ randAvail s ≥ AES_256_KEY_SIZE / 4 then
    let s := storeTokenCiphertexts P (drawLoginToken s)
    enterState .loggedIn (finishCommandMulti .okay 0 (genTokenPayload P s) AES_256_KEY_SIZE s)
  else s

/-- `login_cmd`. -/
def loginCmd (data : Mem) (dataLen : Int) (s : Dev) : Dev :=
  let m := (s.cmdData.put32 CmdData.loginGenToken 0).put32 CmdData.loginAuthenticated 0
  if dataLen < AES_256_KEY_SIZE then finishCommandResp .invalidInput { s with cmdData := m }
  else
    let m := m.copy CmdData.loginPassword data 0 AES_256_KEY_SIZE
    let m :=
      if dataLen - AES_256_KEY_SIZE > 0 then
        m.put32 CmdData.loginGenToken (data AES_256_KEY_SIZE).toNat
      else m
    beginButtonPressWait { s with cmdData := m }

/-- `login_token_cmd`. -/
def loginTokenCmd (data : Mem) (dataLen : Int) (s : Dev) : Dev :=
  if dataLen ≠ AES_256_KEY_SIZE then finishCommandResp .invalidInput s
  else
    beginButtonPressWait
      { s with cmdData := s.cmdData.copy CmdData.loginTokenToken data 0 AES_256_KEY_SIZE }

/-! ### Initialising -/

/-- `initialize_cmd`. -/
def initializeCmd (data : Mem) (dataLen : Int) (s : Dev) : Dev :=
  if dataLen < INITIALIZE_CMD_SIZE then finishCommandResp .invalidInput s
  else
    let m := s.cmdData.copy CmdData.initDataPasswd data 0 AES_256_KEY_SIZE
    let m := m.copy CmdData.initDataHashfn data 32 AES_BLK_SIZE
    let m := m.copy CmdData.initDataSalt data 48 SALT_SZ_V2
    let m := m.copy CmdData.initDataRand data 80 INIT_RAND_DATA_SZ
    beginLongButtonPressWait { s with cmdData := m.put32 CmdData.initDataStarted 0 }

/-- Write the initial contents of data block `MIN_DATA_BLOCK + n`. -/
def writeInitialBlock (n : Nat) (s : Dev) : Dev :=
  match db2InitializeBlock P (MIN_DATA_BLOCK + n) (s.cmdData.window CmdData.initDataBlock) with
  | some blk =>
    flashWritePage (idBlk (MIN_DATA_BLOCK + n)) (some ⟨.cmdData, CmdData.initDataBlock⟩) BLK_SIZE
      { s with cmdData := s.cmdData.setWindow CmdData.initDataBlock blk }
  | none => flashWritePage (idBlk (MIN_DATA_BLOCK + n)) none 0 s

/-- `initialize_cmd_complete`. -/
def initializeCmdComplete (s : Dev) : Dev :=
  let m := (((s.cmdData.put32 CmdData.initDataStarted 1).put32 CmdData.initDataBlocksWritten
    0).put32 CmdData.initDataRandomDataGathered 0).put32 CmdData.initDataRootBlockFinalized 0
  let s := finishCommandResp .okay (writeInitialBlock P 0 { s with cmdData := m })
  let avail := randAvail s
  let p := max ((INIT_RAND_DATA_SZ / 4 : Nat) - avail) 0
  enterProgressingState .initializing [(NUM_DATA_BLOCKS : Int), p, 1]
    { s with cmdData := s.cmdData.putInt CmdData.initDataRandAvailInit avail }

/-- The root page INITIALIZE writes, from the parameters and randomness in
    `cmd_data`. -/
def initialRootPage (m r : Mem) : Mem :=
  let passwd := m.read CmdData.initDataPasswd AES_256_KEY_SIZE
  let n := AES_256_KEY_SIZE / AES_BLK_SIZE
  let r := r.write RootPage.dbVersion [2]
  let r := r.copy RootPage.cbcIv m CmdData.initDataRand AES_BLK_SIZE
  let r := r.copy RootPage.authRand m (CmdData.initDataRand + AES_BLK_SIZE) AES_256_KEY_SIZE
  let r := r.write RootPage.authRandCt
    (stmAes256EncryptCbc P passwd n none (r.read RootPage.authRand AES_256_KEY_SIZE))
  let r := r.write RootPage.encryptKeyCt
    (stmAes256EncryptCbc P passwd n none
      (m.read (CmdData.initDataRand + AES_BLK_SIZE + AES_256_KEY_SIZE) AES_256_KEY_SIZE))
  let r := r.copy RootPage.salt m CmdData.initDataSalt SALT_SZ_V2
  r.copy RootPage.hashfn m CmdData.initDataHashfn HASH_FN_SZ

/-- `finalize_root_page_check`. -/
def finalizeRootPageCheck (s : Dev) : Dev :=
  if randAvail s ≥ (INIT_RAND_DATA_SZ / 4 : Nat) ∧
      s.cmdData.get32 CmdData.initDataRootBlockFinalized = 0 ∧
      s.cmdData.get32 CmdData.initDataBlocksWritten = NUM_DATA_BLOCKS then
    let s := { s with
      cmdData := s.cmdData.put32 CmdData.initDataRootBlockFinalized 1
      rootPage := s.rootPage.write RootPage.signature rootSignature }
    let s := randFill Nat.xor CmdData.initDataRand (INIT_RAND_DATA_SZ / 4) s
    flashWritePage (idBlk 0) (some ⟨.rootPage, 0⟩) RootPage.size
      { s with rootPage := initialRootPage P s.cmdData s.rootPage }
  else s

/-! ### Other commands -/

/-- `get_progress_cmd`: it reads four bytes of data whatever the data length. -/
def getProgressCmd (data : Mem) (_dataLen : Int) (s : Dev) : Dev :=
  let s := { s with progressCheck := data.get16 0, progressTargetState := data.get16 2 }
  if s.progressTargetState ≠ s.deviceState.ctorIdx then finishCommandResp .invalidState s
  else getProgressCheck s

/-- `wipe_cmd`. -/
def wipeCmd (s : Dev) : Dev := beginLongButtonPressWait s

/-- `restore_device_cmd`. -/
def restoreDeviceCmd (s : Dev) : Dev := beginLongButtonPressWait s

/-- `read_block_cmd`. -/
def readBlockCmd (data : Mem) (dataLen : Int) (s : Dev) : Dev :=
  if dataLen ≠ 1 ∨ (data 0).toNat ≥ NUM_STORAGE_BLOCKS then finishCommandResp .invalidInput s
  else finishCommand .okay ((block P s (data 0).toNat).read 0 BLK_SIZE) s

/-- `write_block_cmd`. -/
def writeBlockCmd (data : Mem) (dataLen : Int) (s : Dev) : Dev :=
  if dataLen ≠ 1 + BLK_SIZE ∨ (data 0).toNat ≥ NUM_STORAGE_BLOCKS then
    finishCommandResp .invalidInput s
  else
    flashWritePage (idBlk (data 0).toNat) (some ⟨.cmdPacketBuf, CMD_PACKET_HEADER_SIZE + 1⟩)
      BLK_SIZE s

/-- `erase_block_cmd`. -/
def eraseBlockCmd (data : Mem) (dataLen : Int) (s : Dev) : Dev :=
  if dataLen ≠ 1 ∨ (data 0).toNat ≥ NUM_STORAGE_BLOCKS then finishCommandResp .invalidInput s
  else flashWritePage (idBlk (data 0).toNat) none 0 s

/-- `get_device_capacity_cmd`: a structure nothing fills in. -/
def getDeviceCapacityCmd (s : Dev) : Dev := finishCommand .okay [0, 0, 0, 0, 0, 0] s

/-- `change_master_password_cmd`. -/
def changeMasterPasswordCmd (data : Mem) (dataLen : Int) (s : Dev) : Dev :=
  if dataLen ≠ (AES_256_KEY_SIZE * 2 + HASH_FN_SZ + SALT_SZ_V2 : Nat) then
    finishCommandResp .invalidInput s
  else
    let oldKey := data.read 0 AES_256_KEY_SIZE
    let n := AES_256_KEY_SIZE / AES_BLK_SIZE
    let m := s.cmdData.copy CmdData.changeMasterPasswordHashfn data (AES_256_KEY_SIZE * 2) HASH_FN_SZ
    let m := m.copy CmdData.changeMasterPasswordSalt data (AES_256_KEY_SIZE * 2 + HASH_FN_SZ)
      SALT_SZ_V2
    if s.rootPage RootPage.signature = 2 then
      let cyphertext := stmAes256EncryptCbc P oldKey n none (rootKey s RootPage.authRand)
      let m := m.write CmdData.changeMasterPasswordCyphertext cyphertext
      if cyphertext ≠ rootKey s RootPage.authRandCt then
        finishCommandResp .badPassword { s with cmdData := m }
      else
        beginLongButtonPressWait
          { s with
            encryptKey := stmAes256DecryptCbc P oldKey n none (rootKey s RootPage.encryptKeyCt)
            cmdData := m.copy CmdData.changeMasterPasswordNewKey data AES_256_KEY_SIZE
              AES_256_KEY_SIZE }
    else finishCommandResp .unknownDbFormat { s with cmdData := m }

/-- The root page a confirmed CHANGE_MASTER_PASSWORD writes. -/
def changedRootPage (s : Dev) : Mem :=
  let newKey := s.cmdData.read CmdData.changeMasterPasswordNewKey AES_256_KEY_SIZE
  let n := AES_256_KEY_SIZE / AES_BLK_SIZE
  let r := s.rootPage.copy RootPage.hashfn s.cmdData CmdData.changeMasterPasswordHashfn HASH_FN_SZ
  let r := r.write RootPage.encryptKeyCt (stmAes256EncryptCbc P newKey n none s.encryptKey)
  let r := r.write RootPage.authRandCt
    (stmAes256EncryptCbc P newKey n none (r.read RootPage.authRand AES_256_KEY_SIZE))
  r.copy RootPage.salt s.cmdData CmdData.changeMasterPasswordSalt SALT_SZ_V2

/-- `cmd_disconnect`. -/
def cmdDisconnect (s : Dev) : Dev :=
  enterState .disconnected
    { endLongButtonPressWait (endButtonPressWait s) with activeCmd := none }

/-- `enter_mobile_mode_cmd`. -/
def enterMobileModeCmd (s : Dev) : Dev := (cmdDisconnect s).emit .mobileMode

/-- `get_rand_bits_cmd_check`. -/
def getRandBitsCmdCheck (s : Dev) : Dev :=
  let sz := s.cmdData.get16 CmdData.getRandBitsSz
  if randAvail s ≥ sz then
    let s := randFill Nat.xor CmdData.getRandBitsBlock ((sz + 3) / 4) s
    finishCommand .okay
      (s.cmdData.read CmdData.getRandBitsBlock (s.cmdData.get16 CmdData.getRandBitsSz)) s
  else s

/-- `get_rand_bits_cmd`. -/
def getRandBitsCmd (data : Mem) (dataLen : Int) (s : Dev) : Dev :=
  if dataLen < 2 then finishCommandResp .invalidInput s
  else
    let sz := data.get16 0
    let s := { s with cmdData := s.cmdData.put16 CmdData.getRandBitsSz sz }
    if sz ≥ BLK_SIZE then finishCommandResp .invalidInput s
    else
      getRandBitsCmdCheck
        { s with cmdData := s.cmdData.fill CmdData.getRandBitsBlock ((sz + 3) / 4) 0 }

/-- `usb_keyboard_typing_done`. -/
def usbKeyboardTypingDone (s : Dev) : Dev :=
  let s := if s.activeCmd = some .type then finishCommandResp .okay s else s
  if s.deviceState = .disconnected then { s with cleartextPassTyping := false } else s

/-- TYPE in `logged_in_state`.  With a negative length the copy runs off the end
    of memory. -/
def typeCmd (data : Mem) (dataLen : Int) (s : Dev) : Dev :=
  if dataLen < 0 then { s with hung := true }
  else
    let nChars := dataLen.toNat / 2
    usbKeyboardType usbKeyboardTypingDone ⟨.cmdData, CmdData.typeDataChars⟩ nChars
      { s with cmdData := s.cmdData.copy CmdData.typeDataChars data 0 (nChars * 2) }

/-! ### Cleartext passwords -/

/-- The offset of `cleartext_passwords[idx]` in the root page. -/
def cleartextPassOff (idx : Nat) : Nat := RootPage.cleartextPasswords + CLEARTEXT_PASS_SIZE * idx

/-- `write_cleartext_password`. -/
def writeCleartextPassword (data : Mem) (dataLen : Int) (s : Dev) : Dev :=
  if dataLen ≠ CLEARTEXT_PASS_SIZE + 1 ∨ (data 0).toNat > NUM_CLEARTEXT_PASS then
    finishCommandResp .invalidInput s
  else
    let m := s.cmdData.put32 CmdData.writeCleartextPasswordIdx (data 0).toNat
    beginButtonPressWait
      { s with cmdData := m.copy CmdData.writeCleartextPasswordData data 1 CLEARTEXT_PASS_SIZE }

/-- `read_cleartext_password`. -/
def readCleartextPassword (data : Mem) (dataLen : Int) (s : Dev) : Dev :=
  if dataLen ≠ 1 ∨ (data 0).toNat > NUM_CLEARTEXT_PASS then finishCommandResp .invalidInput s
  else
    beginButtonPressWait
      { s with cmdData := s.cmdData.put32 CmdData.readCleartextPasswordIdx (data 0).toNat }

/-- The format byte and name that slot `i` shows. -/
def cleartextPasswordName (root : Mem) (i : Nat) : Bytes :=
  let format := root (cleartextPassOff i)
  format ::
    if format = 0 ∨ format = 0xff then List.replicate CLEARTEXT_PASS_NAME_SIZE 0
    else root.read (cleartextPassOff i + 2) CLEARTEXT_PASS_NAME_SIZE

/-- `read_cleartext_password_names`. -/
def readCleartextPasswordNames (s : Dev) : Dev :=
  let names := (List.range NUM_CLEARTEXT_PASS).flatMap (cleartextPasswordName s.rootPage)
  finishCommand .okay names
    { s with cmdData := s.cmdData.write CmdData.readCleartextPasswordNamesBlock names }

/-! ### Startup -/

/-- `startup_cmd_iter`. -/
def startupCmdIter (s : Dev) : Dev :=
  let version := [SIGNET_MAJOR_VERSION, SIGNET_MINOR_VERSION, SIGNET_STEP_VERSION,
    s.deviceState.code, s.headerVersion]
  let blank := List.replicate (HASH_FN_SZ + SALT_SZ_V2) 0
  if s.deviceState = .uninitialized then finishCommand .okay (version ++ [0] ++ blank) s
  else if s.headerVersion = 2 then
    let params := s.rootPage.read RootPage.hashfn HASH_FN_SZ ++
      s.rootPage.read RootPage.salt SALT_SZ_V2
    let s := { s with dbVersion := s.rootPage RootPage.dbVersion }
    let resp := version ++ [s.dbVersion] ++ params
    if s.dbVersion = 2 then
      let (ok, s) := db2StartupScan P CmdData.startupBlock CmdData.startupBlkInfo s
      if ok then finishCommand .okay resp s else s
    else finishCommand .unknownDbFormat resp s
  else finishCommand .unknownDbFormat (version ++ [0] ++ blank) s

/-- `cmd_init`. -/
def cmdInit (s : Dev) : Dev :=
  { s with rootPage := s.rootPage.copy 0 (block P s 0) 0 RootPage.size }

/-- `startup_cmd`. -/
def startupCmd (s : Dev) : Dev :=
  let s :=
    if s.deviceState ≠ .disconnected then
      { endLongButtonPressWait (endButtonPressWait s) with activeCmd := none }
    else s
  let s := cmdInit P s
  let s :=
    if s.rootPage.read (RootPage.signature + 1) (AES_BLK_SIZE - 1) ≠ rootSignature.drop 1 then
      enterState .uninitialized s
    else enterState .loggedOut s
  startupCmdIter P { s with headerVersion := s.rootPage RootPage.signature }

/-! ### Firmware update -/

/-- `in_flash_range`. -/
def inFlashRange (addr : Nat) : Prop := addr ≥ FLASH_MEM_BASE_ADDR ∧ addr ≤ FLASH_MEM_END_ADDR

instance (addr : Nat) : Decidable (inFlashRange addr) := inferInstanceAs (Decidable (_ ∧ _))

/-- `erase_flash_pages_cmd`.  With a negative length the copy of the page list
    runs off the end of memory. -/
def eraseFlashPagesCmd (data : Mem) (dataLen : Int) (s : Dev) : Dev :=
  let pages := data.read 0 dataLen.toNat
  if pages.any fun p => p.toNat ≥ FLASH_MEM_SIZE / FLASH_PAGE_SIZE then finishCommandResp .okay s
  else if dataLen < 0 then { s with hung := true }
  else
    let m := (s.cmdData.put16 CmdData.eraseFlashPagesIndex 0).put16 CmdData.eraseFlashPagesNumPages
      pages.length
    let s := { s with cmdData := m.write CmdData.eraseFlashPagesPages pages }
    let s := flashWritePage (FLASH_MEM_BASE_ADDR +
      FLASH_PAGE_SIZE * s.cmdData.get16 CmdData.eraseFlashPagesIndex) none 0 s
    finishCommandResp .okay
      (enterProgressingState .erasingPages
        [(s.cmdData.get16 CmdData.eraseFlashPagesNumPages : Int)] s)

/-- `write_flash_cmd`. -/
def writeFlashCmd (data : Mem) (dataLen : Int) (s : Dev) : Dev :=
  let dest := data.get32 0
  if ¬ inFlashRange dest ∨ ¬ inFlashRange ((dest + (dataLen - 4)) % 2 ^ 32).toNat then
    finishCommandResp .invalidInput s
  else flashWrite dest ⟨.cmdPacketBuf, CMD_PACKET_HEADER_SIZE + 4⟩ (dataLen - 4) s

/-! ### State functions -/

/-- What a state function does with a command: reject it, handle it, or reset the
    device. -/
inductive Ret where
  | rejected
  | handled (s : Dev)
  | reset

/-- `initializing_state`, `wiping_state` and `erasing_pages_state`: only progress
    can be asked for. -/
def progressOnlyState (cmd : Command) (data : Mem) (dataLen : Int) (s : Dev) : Ret :=
  match cmd with
  | .getProgress => .handled (getProgressCmd data dataLen s)
  | _ => .rejected

def initializingState := progressOnlyState

def wipingState := progressOnlyState

def erasingPagesState := progressOnlyState

/-- `is_device_wiped`. -/
def isDeviceWiped (s : Dev) : Bool :=
  (List.range (NUM_STORAGE_BLOCKS * BLK_SIZE)).all fun i => load P s (ROOT_PAGE_ADDR + i) = 0xff

/-- `uninitialized_state` (without `FACTORY_MODE`). -/
def uninitializedState (cmd : Command) (data : Mem) (dataLen : Int) (s : Dev) : Ret :=
  match cmd with
  | .getProgress => .handled (getProgressCmd data dataLen s)
  | .restoreDevice => .handled (restoreDeviceCmd s)
  | .initializeDevice => .handled (initializeCmd data dataLen s)
  | .getDeviceCapacity => .handled (getDeviceCapacityCmd s)
  | .enterMobileMode => .handled (enterMobileModeCmd s)
  | .updateFirmware =>
    if isDeviceWiped P s then .handled (beginLongButtonPressWait s)
    else .handled (finishCommandResp .deviceNotWiped s)
  | _ => .rejected

/-- `logged_out_state` (without `FACTORY_MODE`). -/
def loggedOutState (cmd : Command) (data : Mem) (dataLen : Int) (s : Dev) : Ret :=
  match cmd with
  | .getProgress => .handled (getProgressCmd data dataLen s)
  | .changeMasterPassword => .handled (changeMasterPasswordCmd P data dataLen s)
  | .initializeDevice => .handled (initializeCmd data dataLen s)
  | .wipe => .handled (wipeCmd s)
  | .backupDevice => .handled (beginLongButtonPressWait s)
  | .restoreDevice => .handled (restoreDeviceCmd s)
  | .login => .handled (loginCmd data dataLen s)
  | .loginToken => .handled (loginTokenCmd data dataLen s)
  | .getDeviceCapacity => .handled (getDeviceCapacityCmd s)
  | .enterMobileMode => .handled (enterMobileModeCmd s)
  | _ => .rejected

/-- READ_UID in `logged_in_state`. -/
def readUidPacket (data : Mem) (dataLen : Int) (s : Dev) : Dev :=
  if dataLen < 3 ∨ data.get16 0 < MIN_UID ∨ data.get16 0 > MAX_UID then
    finishCommandResp .invalidInput s
  else readUidCmd P (data.get16 0) (data 2).toNat s

/-- The press an UPDATE_UID or UPDATE_UIDS packet waits for: only the first
    packet of an UPDATE_UIDS batch asks for one. -/
def updatePressType (cmd : Command) (s : Dev) : Nat :=
  if cmd = .updateUid then 1 else if s.cmdIterCount = 0 then 2 else 0

/-- UPDATE_UID and UPDATE_UIDS in `logged_in_state`. -/
def updateUidPacket (cmd : Command) (data : Mem) (dataLen : Int) (s : Dev) : Dev :=
  let uid := data.get16 0
  let sz := data.get16 2
  let blkCount := sizeToSubBlkCount sz
  if dataLen < 4 ∨ uid < MIN_UID ∨ uid > MAX_UID ∨ dataLen - 4 ≠ blkCount * SUB_BLK_SIZE then
    finishCommandResp .invalidInput s
  else
    updateUidCmd P uid (data.read 4 (blkCount * SUB_BLK_SIZE)) sz (updatePressType cmd s) s

/-- READ_ALL_UIDS in `logged_in_state`. -/
def readAllUidsPacket (data : Mem) (dataLen : Int) (s : Dev) : Dev :=
  if dataLen < 1 then finishCommandResp .invalidInput s
  else readAllUidsCmd P (data 0).toNat s

/-- `logged_in_state`. -/
def loggedInState (cmd : Command) (data : Mem) (dataLen : Int) (s : Dev) : Ret :=
  match cmd with
  | .getProgress => .handled (getProgressCmd data dataLen s)
  | .changeMasterPassword => .handled (changeMasterPasswordCmd P data dataLen s)
  | .backupDevice => .handled (beginLongButtonPressWait s)
  | .getRandBits => .handled (getRandBitsCmd data dataLen s)
  | .readUid => .handled (readUidPacket P data dataLen s)
  | .updateUids => .handled (updateUidPacket P .updateUids data dataLen s)
  | .updateUid => .handled (updateUidPacket P .updateUid data dataLen s)
  | .readAllUids => .handled (readAllUidsPacket P data dataLen s)
  | .type => .handled (typeCmd data dataLen s)
  | .buttonWait => .handled (beginButtonPressWait s)
  | .logout => .handled (finishCommandResp .okay (enterState .loggedOut s))
  | .updateFirmware => .handled (beginLongButtonPressWait s)
  | .readCleartextPasswordNames => .handled (readCleartextPasswordNames s)
  | .readCleartextPassword => .handled (readCleartextPassword data dataLen s)
  | .writeCleartextPassword => .handled (writeCleartextPassword data dataLen s)
  | _ => .rejected

/-- `backing_up_device_state`. -/
def backingUpDeviceState (cmd : Command) (data : Mem) (dataLen : Int) (s : Dev) : Ret :=
  match cmd with
  | .readBlock => .handled (readBlockCmd P data dataLen s)
  | .backupDeviceDone => .handled (finishCommandResp .okay (enterState s.backupPrevState s))
  | _ => .rejected

/-- `restoring_device_state`. -/
def restoringDeviceState (cmd : Command) (data : Mem) (dataLen : Int) (s : Dev) : Ret :=
  match cmd with
  | .writeBlock => .handled (writeBlockCmd data dataLen s)
  | .eraseBlock => .handled (eraseBlockCmd data dataLen s)
  | .restoreDeviceDone => .handled (finishCommandResp .okay (enterState .disconnected s))
  | _ => .rejected

/-- `firmware_update_state`. -/
def firmwareUpdateState (cmd : Command) (data : Mem) (dataLen : Int) (s : Dev) : Ret :=
  match cmd with
  | .eraseFlashPages => .handled (eraseFlashPagesCmd data dataLen s)
  | .writeFlash => .handled (writeFlashCmd data dataLen s)
  | .resetDevice => .reset
  | _ => .rejected

/-- The dispatch on `device_state` in `cmd_packet_recv`. -/
def stateFunction (cmd : Command) (data : Mem) (dataLen : Int) (s : Dev) : Ret :=
  match s.deviceState with
  | .uninitialized => uninitializedState P cmd data dataLen s
  | .initializing => initializingState cmd data dataLen s
  | .wiping => wipingState cmd data dataLen s
  | .backingUpDevice => backingUpDeviceState P cmd data dataLen s
  | .restoringDevice => restoringDeviceState cmd data dataLen s
  | .erasingPages => erasingPagesState cmd data dataLen s
  | .firmwareUpdate => firmwareUpdateState cmd data dataLen s
  | .loggedOut => loggedOutState P cmd data dataLen s
  | .loggedIn => loggedInState P cmd data dataLen s
  | .disconnected | .reset | .bootloader => .rejected

end SignetBase.Firmware

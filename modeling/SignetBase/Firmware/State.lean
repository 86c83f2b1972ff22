/-
  SignetBase/Firmware/State.lean
  ==============================
  **The state of the original device.**

  One record holds the globals of `commands.c`, `db.c`, `flash_l443xc.c`,
  `rtc_rand.c`, `rng_driver.c`, `usb_keyboard.c` and `usb_raw_hid.c`.  `cmd_data`
  is the union it is in C: one memory object, and each command's parameters are
  offsets into it (`CmdData`), so commands that leave bytes behind for the next
  one do so here too.  `root_page` and `cmd_packet_buf` are memory objects as
  well, and flash is one object for the whole chip, indexed by address.

  The device's actions on the outside world are appended to `outputs`.
-/
import SignetBase.Cbc
import SignetBase.Blocks

namespace SignetBase.Firmware

/-! ### Device constants -/

def BLK_SIZE : Nat := 2048
def NUM_STORAGE_BLOCKS : Nat := 96
def MAX_DATA_BLOCK : Nat := NUM_STORAGE_BLOCKS - 1
def NUM_DATA_BLOCKS : Nat := MAX_DATA_BLOCK - MIN_DATA_BLOCK + 1
def RAW_HID_HEADER_SIZE : Nat := 1
def RAW_HID_PACKET_SIZE : Nat := 64
def RAW_HID_PAYLOAD_SIZE : Nat := RAW_HID_PACKET_SIZE - RAW_HID_HEADER_SIZE
def CMD_PACKET_PAYLOAD_SIZE : Nat := BLK_SIZE + CMD_PACKET_HEADER_SIZE + 1
def CMD_PACKET_BUF_SIZE : Nat :=
  CMD_PACKET_PAYLOAD_SIZE + CMD_PACKET_HEADER_SIZE + RAW_HID_PAYLOAD_SIZE - 1
def FLASH_PAGE_SIZE : Nat := 2048
def FLASH_MEM_BASE_ADDR : Nat := 0x8000000
def FLASH_MEM_SIZE : Nat := 2 ^ 18
def FLASH_MEM_END_ADDR : Nat := FLASH_MEM_BASE_ADDR + FLASH_MEM_SIZE - 1
def SIGNET_MAJOR_VERSION : UInt8 := 1
def SIGNET_MINOR_VERSION : UInt8 := 3
def SIGNET_STEP_VERSION : UInt8 := 4

/-- Where the linker script puts `_root_page`: the start of STORAGE. -/
def ROOT_PAGE_ADDR : Nat := 0x8010000

/-- `ID_BLK` and `BLOCK`: the address of storage block `id`. -/
def idBlk (id : Nat) : Nat := ROOT_PAGE_ADDR + BLK_SIZE * id

/-! ### Code and memory outside the repository -/

/-- What the firmware uses and the repository does not contain: the AES block
    functions of nettle, the CRC unit's step and reset value, what a load from an
    address outside flash returns, and the bytes in front of `root_page`. -/
structure Platform where
  aes256Encrypt : Bytes → Bytes → Bytes
  aes256Decrypt : Bytes → Bytes → Bytes
  crcReset : UInt32
  crcStep : UInt32 → UInt32 → UInt32
  memAt : Nat → UInt8
  beforeRootPage : Nat → UInt8

/-! ### Layout of `union cmd_data_u` -/

namespace CmdData

def eraseFlashPagesIndex : Nat := 0
def eraseFlashPagesNumPages : Nat := 2
def eraseFlashPagesPages : Nat := 4
def typeDataChars : Nat := 0
def initDataStarted : Nat := 0
def initDataRandAvailInit : Nat := 4
def initDataRandomDataGathered : Nat := 8
def initDataRootBlockFinalized : Nat := 12
def initDataBlocksWritten : Nat := 16
def initDataPasswd : Nat := 20
def initDataHashfn : Nat := 52
def initDataSalt : Nat := 68
def initDataRand : Nat := 100
def initDataBlock : Nat := 180
def initDataBlkInfo : Nat := 2228
def startupBlock : Nat := 0
def startupBlkInfo : Nat := 2048
def wipeDataBlock : Nat := 0
def changeMasterPasswordNewKey : Nat := 0
def changeMasterPasswordCyphertext : Nat := 32
def changeMasterPasswordHashfn : Nat := 64
def changeMasterPasswordSalt : Nat := 80
def loginPassword : Nat := 0
def loginAuthenticated : Nat := 64
def loginGenToken : Nat := 68
def loginToken : Nat := 72
def loginTokenToken : Nat := 0
def updateUidIv : Nat := 0
def updateUidUid : Nat := 16
def updateUidSz : Nat := 20
def updateUidWriteCount : Nat := 24
def updateUidBlockNum : Nat := 28
def updateUidPrevBlockNum : Nat := 32
def updateUidBlkInfo : Nat := 36
def updateUidBlock : Nat := 44
def readCleartextPasswordNamesBlock : Nat := 0
def readUidIv : Nat := 0
def readUidUid : Nat := 16
def readUidBlockNum : Nat := 20
def readUidIndex : Nat := 24
def readUidEnt : Nat := 28
def readUidMasked : Nat := 32
def readUidBlock : Nat := 36
def readAllUidsIv : Nat := 0
def readAllUidsUid : Nat := 16
def readAllUidsExpectedRemaining : Nat := 20
def readAllUidsMasked : Nat := 24
def readAllUidsBlock : Nat := 28
def getRandBitsSz : Nat := 0
def getRandBitsBlock : Nat := 2
def writeCleartextPasswordIdx : Nat := 0
def writeCleartextPasswordData : Nat := 4
def readCleartextPasswordIdx : Nat := 0

end CmdData

/-! ### Layout of `struct root_page` (packed) -/

namespace RootPage

def signature : Nat := 0
def dbVersion : Nat := 20
def authRand : Nat := 21
def authRandCt : Nat := 53
def encryptKeyCt : Nat := 85
def cbcIv : Nat := 117
def salt : Nat := 133
def hashfn : Nat := 165
def cleartextPasswords : Nat := 181
def size : Nat := 1208

end RootPage

/-- `root_signature`; its first byte is the format of the root block. -/
def rootSignature : Bytes := [2, 3, 4, 5, 6, 7, 8, 9, 10, 11, 12, 13, 14, 15, 0, 0]

/-! ### Block tables -/

/-- `block_info_tbl` and `uid_map`. -/
structure Tables where
  blockInfoTbl : Nat → BlockInfo
  uidMap : Nat → Nat

/-! ### Random sources -/

/-- `rtc_rand_buf` / `rng_rand_buf` with head, tail and level. -/
structure RandRing where
  buf : Nat → UInt32
  head : Nat
  tail : Nat
  level : Int

/-! ### Outputs -/

/-- The memory objects a driver may be handed a pointer into. -/
inductive Object where
  | cmdData | rootPage | cmdPacketBuf | cleartextTypeBuf
deriving DecidableEq, Repr

/-- A pointer: an object and an offset. -/
structure Ptr where
  object : Object
  off : Nat
deriving DecidableEq, Repr

/-- A response handed to `cmd_packet_send`, with the command that was active. -/
structure Response where
  cmd : Option Command
  resp : CommandResponse
  messagesRemaining : Int
  state : DeviceState
  payload : Bytes
deriving DecidableEq, Repr

/-- What the firmware does to the outside world: `held` is what the source of a
    request to the flash driver holds at the call, as far as it is to be programmed,
    and `started` says whether the driver took the request or, being busy, dropped
    it. -/
inductive Output where
  | response (r : Response)
  | flashWritePage (dest : Nat) (src : Option Ptr) (count : Int) (held : Bytes) (started : Bool)
  | flashWrite (dest : Nat) (src : Ptr) (count : Int) (held : Bytes) (started : Bool)
  | keyboardReport (report : Bytes)
  | event (num : Nat)
  | mobileMode
deriving DecidableEq, Repr

/-- `enum flash_state`. -/
inductive FlashState where
  | idle | erasing | writing
deriving DecidableEq, Repr

/-! ### The device -/

/-- What the dispatching code of `commands.c` branches on.  `hung` says that the
    firmware is stuck in an endless loop. -/
structure Control where
  activeCmd : Option Command
  cmdIterCount : Nat
  cmdMessagesRemaining : Nat
  deviceState : DeviceState
  backupPrevState : DeviceState
  waitingForButtonPress : Bool
  waitingForLongButtonPress : Bool
  hung : Bool
deriving DecidableEq, Repr

/-- The memory objects of `commands.c`. -/
structure Buffers where
  cmdPacketBuf : Mem
  cmdData : Mem
  rootPage : Mem
  cmdResp : Mem
  cleartextTypeBuf : Mem

/-- Keys and versions of `commands.c`. -/
structure Keys where
  encryptKey : Bytes
  tokenAuthRandCt : Bytes
  tokenEncryptKeyCt : Bytes
  headerVersion : UInt8
  dbVersion : UInt8

/-- Progress reporting in `commands.c`. -/
structure Progress where
  nProgressComponents : Nat
  progressLevel : Nat → Int
  progressMaximum : Nat → Int
  progressCheck : Int
  progressTargetState : Nat

/-- Flash, by absolute address, and its driver `flash_l443xc.c`. -/
structure FlashDriver where
  flash : Mem
  flashState : FlashState
  flashWriteData : Option Ptr
  flashWriteAddr : Nat
  flashWriteCount : Nat

/-- The cleartext typing of `commands.c` and `usb_keyboard.c`. -/
structure Keyboard where
  cleartextPassIndex : Int
  cleartextPassTyping : Bool
  typing : Bool
  nChars : Nat
  chars : Ptr
  charPos : Nat
  charPosToType : Int

/-- The rest: the random sources, whether a response is being transmitted
    (`raw_hid_tx_data`), and the timers and button of `main_l443xc.c`. -/
structure Board where
  rtcRand : RandRing
  rngRand : RandRing
  rawHidTxPending : Bool
  blinking : Bool
  blinkPaused : Bool
  timerRunning : Bool
  buttonState : Bool

/-- The state of the device, with everything it has done so far, newest first. -/
structure Dev extends Control, Buffers, Keys, Progress, FlashDriver, Keyboard, Board where
  tables : Tables
  outputs : List Output

variable (P : Platform)

/-- A load from an absolute address. -/
def load (s : Dev) (addr : Nat) : UInt8 :=
  if FLASH_MEM_BASE_ADDR ≤ addr ∧ addr < FLASH_MEM_BASE_ADDR + FLASH_MEM_SIZE then
    s.flash addr
  else P.memAt addr

/-- The memory behind an absolute address. -/
def memFrom (s : Dev) (addr : Nat) : Mem := fun a => load P s (addr + a)

/-- `BLOCK(id)`: storage block `id` in flash. -/
def block (s : Dev) (id : Nat) : Mem := memFrom P s (idBlk id)

/-- The object a pointer points into. -/
def Dev.object (s : Dev) : Object → Mem
  | .cmdData => s.cmdData
  | .rootPage => s.rootPage
  | .cmdPacketBuf => s.cmdPacketBuf
  | .cleartextTypeBuf => s.cleartextTypeBuf

/-- The `n` bytes a pointer points to. -/
def Dev.deref (s : Dev) (p : Ptr) (n : Nat) : Bytes := (s.object p.object).read p.off n

/-- Append to the log of outputs. -/
def Dev.emit (s : Dev) (o : Output) : Dev := { s with outputs := o :: s.outputs }

/-! ### Random words -/

/-- `rtc_rand_get` / `rng_rand_get`. -/
def RandRing.get (r : RandRing) : UInt32 × RandRing :=
  if r.head = r.tail then (0, r)
  else (r.buf r.tail, { r with tail := (r.tail + 1) % 1024, level := r.level - 1 })

/-- A word arrives (`rtc_wakeup`, `rng_handler`).  The head is advanced by the
    store and once more after it. -/
def RandRing.put (r : RandRing) (w : UInt32) : RandRing :=
  let buf := fun i => if i = r.head then r.buf i ^^^ w else r.buf i
  let head := (r.head + 1 + 1) % 1024
  if head = r.tail then { r with buf, head, tail := (r.tail + 1) % 1024 }
  else { r with buf, head, level := r.level + 1 }

/-- `rand_avail`. -/
def randAvail (s : Dev) : Int :=
  if s.rtcRand.level > s.rngRand.level then s.rngRand.level else s.rtcRand.level

/-- `rand_get`. -/
def randGet (s : Dev) : UInt32 × Dev :=
  let (rtcVal, rtcRand) := s.rtcRand.get
  let (rngVal, rngRand) := s.rngRand.get
  (rtcVal ^^^ rngVal, { s with rtcRand, rngRand })

/-- `rand_get` into `n` consecutive words of `cmd_data` from offset `off`, each
    combined with what is there by `f`. -/
def randFill (f : Nat → Nat → Nat) (off : Nat) : Nat → Dev → Dev
  | 0, s => s
  | n + 1, s =>
    let (w, s) := randGet s
    randFill f (off + 4) n { s with cmdData := s.cmdData.put32 off (f (s.cmdData.get32 off) w.toNat) }

/-! ### AES -/

/-- `stm_aes_256_encrypt_cbc`. -/
def stmAes256EncryptCbc (key : Bytes) (nBlocks : Nat) (iv : Option Bytes) (din : Bytes) : Bytes :=
  cbcEncrypt (P.aes256Encrypt key) nBlocks iv din

/-- `stm_aes_256_decrypt_cbc`. -/
def stmAes256DecryptCbc (key : Bytes) (nBlocks : Nat) (iv : Option Bytes) (din : Bytes) : Bytes :=
  cbcDecrypt (P.aes256Decrypt key) nBlocks iv din

end SignetBase.Firmware

/-
  SignetBase/Common.lean
  ======================
  **What both devices share: `signetdev_common.h` and `signetdev_common_priv.h`.**

  The command codes, response codes and device states of the host protocol, and
  the sizes that do not depend on the device.  A command code is one byte of a
  packet header, so every value that is not in the table stays a command of its
  own (`unknown`): the firmware keeps it as the active command like any other.
-/
import SignetBase.Memory

namespace SignetBase

/-! ### Commands, responses, device states -/

/-- `enum commands`, and every other byte a header can carry. -/
inductive Command where
  | startup | openId | closeId | getData | setData | type | login | logout | deleteId
  | buttonWait | getProgress | getDeviceState | eraseFlashPages | writeFlash | resetDevice
  | initializeDevice | connect | disconnect | wipe | cancelButtonPress | changeMasterPassword
  | backupDevice | readBlock | backupDeviceDone | restoreDevice | writeBlock | eraseBlock
  | restoreDeviceDone | getDeviceCapacity | updateFirmware | getAllData | updateUid
  | readUid | readAllUids | getRandBits | enterMobileMode | loginToken
  | readCleartextPasswordNames | readCleartextPassword | writeCleartextPassword | updateUids
  | switchBootMode | writeBlockHc | readBlockHc | eraseBlockHc
  | unknown (code : UInt8)
deriving DecidableEq, Repr

/-- The commands in the order of their codes. -/
def Command.table : List Command :=
  [.startup, .openId, .closeId, .getData, .setData, .type, .login, .logout, .deleteId,
    .buttonWait, .getProgress, .getDeviceState, .eraseFlashPages, .writeFlash, .resetDevice,
    .initializeDevice, .connect, .disconnect, .wipe, .cancelButtonPress, .changeMasterPassword,
    .backupDevice, .readBlock, .backupDeviceDone, .restoreDevice, .writeBlock, .eraseBlock,
    .restoreDeviceDone, .getDeviceCapacity, .updateFirmware, .getAllData, .updateUid,
    .readUid, .readAllUids, .getRandBits, .enterMobileMode, .loginToken,
    .readCleartextPasswordNames, .readCleartextPassword, .writeCleartextPassword,
    .updateUids, .switchBootMode, .writeBlockHc, .readBlockHc, .eraseBlockHc]

/-- The command a header byte stands for. -/
def Command.ofCode (code : UInt8) : Command :=
  (Command.table[code.toNat]?).getD (.unknown code)

/-- `enum command_responses`. -/
inductive CommandResponse where
  | okay | invalidState | invalidInput | idInvalid | idNotOpen | tagInvalid | writeFailed
  | notLoggedIn | notInitialized | badPassword | inProgress | notEnoughSpace | done
  | buttonPressCanceled | buttonPressTimeout | unknownDbFormat | deviceNotWiped
deriving DecidableEq, Repr

/-- The byte a response code is sent as. -/
def CommandResponse.code (resp : CommandResponse) : UInt8 := UInt8.ofNat resp.ctorIdx

/-- `enum device_state`. -/
inductive DeviceState where
  | disconnected | reset | uninitialized | initializing | wiping | erasingPages
  | firmwareUpdate | loggedOut | loggedIn | backingUpDevice | restoringDevice | bootloader
deriving DecidableEq, Repr

/-- The byte a device state is sent as. -/
def DeviceState.code (state : DeviceState) : UInt8 := UInt8.ofNat state.ctorIdx

/-! ### Sizes -/

def AES_BLK_SIZE : Nat := 16
def AES_256_KEY_SIZE : Nat := 32
def SALT_SZ_V2 : Nat := AES_256_KEY_SIZE
def HASH_FN_SZ : Nat := AES_BLK_SIZE
def MAX_UID : Nat := 4095
def MIN_UID : Nat := 1
def CMD_PACKET_HEADER_SIZE : Nat := 6
def CBC_IV_SZ : Nat := AES_BLK_SIZE
def INIT_RAND_DATA_SZ : Nat := AES_256_KEY_SIZE * 2 + CBC_IV_SZ
def MIN_DATA_BLOCK : Nat := 1
def SUB_BLK_SIZE : Nat := AES_BLK_SIZE
def SUB_BLK_MASK_SIZE : Nat := 2
def SUB_BLK_DATA_SIZE : Nat := 14
def INVALID_BLOCK : Nat := 0
def INVALID_PART_SIZE : Nat := 0xffff
def INVALID_CRC : Nat := 0xffffffff
def NUM_CLEARTEXT_PASS : Nat := 4
def CLEARTEXT_PASS_SIZE : Nat := 256
def CLEARTEXT_PASS_NAME_SIZE : Nat := 64
def INITIALIZE_CMD_SIZE : Nat := AES_256_KEY_SIZE + HASH_FN_SZ + SALT_SZ_V2 + INIT_RAND_DATA_SZ

/-- `SIZE_TO_SUB_BLK_COUNT`: the sub-blocks that hold `sz` bytes of record data. -/
def sizeToSubBlkCount (sz : Nat) : Nat := (sz + (SUB_BLK_DATA_SIZE - 1)) / SUB_BLK_DATA_SIZE

/-- `SUB_BLK_COUNT`: the sub-blocks that hold `sz` raw bytes. -/
def subBlkCount (sz : Nat) : Nat := (sz + (SUB_BLK_SIZE - 1)) / SUB_BLK_SIZE

end SignetBase

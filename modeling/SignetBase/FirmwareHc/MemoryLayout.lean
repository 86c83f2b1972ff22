/-
  SignetBase/FirmwareHc/MemoryLayout.lean
  =======================================
  **The layout of the flash and the eMMC of Signet HC (`memory_layout.h`).**

  The eMMC holds, one behind the other, the area for firmware updates, the key
  store, the record database and the volumes of the mass storage.
-/
import Mathlib.Algebra.Group.Nat.Defs

namespace SignetBase.FirmwareHc

def NUM_STORAGE_BLOCKS : Nat := 1024
def MAX_DATA_BLOCK : Nat := NUM_STORAGE_BLOCKS - 1

def EMMC_SUB_BLOCK_SZ : Nat := 512
def HC_BLOCK_SZ : Nat := 2 ^ 14
def HC_FIRMWARE_HEADER_SZ : Nat := HC_BLOCK_SZ
def HC_FIRMWARE_SZ : Nat := 2 ^ 19
def EMMC_DB_FIRMWARE_UPDATE_BLOCK : Nat := 0
def EMMC_DB_FIRMWARE_UPDATE_BLOCKS : Nat := (HC_FIRMWARE_HEADER_SZ + HC_FIRMWARE_SZ) / HC_BLOCK_SZ
def EMMC_DB_KEYSTORE_BLOCK : Nat := EMMC_DB_FIRMWARE_UPDATE_BLOCK + EMMC_DB_FIRMWARE_UPDATE_BLOCKS
def EMMC_DB_KEYSTORE_BLOCKS : Nat := 4
def EMMC_DB_FIRST_BLOCK : Nat := EMMC_DB_KEYSTORE_BLOCK + EMMC_DB_KEYSTORE_BLOCKS
def EMMC_DB_NUM_BLOCK : Nat := 1024 + 4
def EMMC_STORAGE_FIRST_BLOCK : Nat := EMMC_DB_NUM_BLOCK + EMMC_DB_FIRST_BLOCK
def STORAGE_REGION_SIZE : Nat := 2 ^ 25
def MAX_SCSI_VOLUMES : Nat := 2

def HC_VOLUME_FLAG_VALID : Nat := 2 ^ 0
def HC_VOLUME_FLAG_READ_ONLY : Nat := 2 ^ 1
def HC_VOLUME_FLAG_HIDDEN : Nat := 2 ^ 4
def HC_VOLUME_FLAG_VISIBLE_ON_UNLOCK : Nat := 2 ^ 5
def HC_VOLUME_FLAG_ENCRYPTED : Nat := 2 ^ 8

end SignetBase.FirmwareHc

/-
  SignetBase/FirmwareHc/Startup.lean
  ==================================
  **What STARTUP makes of the root sectors of Signet HC (`commands.c`, `db.c`).**

  `cmd_init` takes the newer of the root sectors with a right checksum and `startup_cmd_iter`
  looks at the format of what it took.  `cmd_init` also ends with `g_root_page_valid` set when
  neither checksum is right, because `_root_page` is never NULL there, and `startup_cmd_iter`
  then takes the first sector for a database if its two format fields have the right values
  (`invalid_root_logged_out`).  The choice is the documented one whenever a checksum is right.
-/
import SignetBase.FirmwareHc.PacketReads
import SignetBase.FirmwareHc.RootBlock

namespace SignetBase.FirmwareHc

/-! ### The code -/

def ROOT_BLOCK_FORMAT_CURRENT : Nat := 3
def DB_FORMAT_CURRENT : Nat := 3
def DB_FORMAT_2 : Nat := 2
def STARTUP_RESP_INFO_SIZE : Nat := 8

def SIGNET_HC_MAJOR_VERSION : UInt8 := 0
def SIGNET_HC_MINOR_VERSION : UInt8 := 2
def SIGNET_HC_STEP_VERSION : UInt8 := 2

/-- Fields of `struct hc_device_data`: `format`, `db_format`, `upgrade_state` and the salt and
    hash function parameters of the first profile. -/
def deviceDataFormat (d : Mem) : Nat := d.get16 4

def deviceDataDbFormat (d : Mem) : Nat := d.get16 6

def deviceDataUpgradeState : Nat := 60

def deviceDataSalt : Nat := 884

def deviceDataHashFunctionParams : Nat := 916

/-- `enum hc_boot_mode` as a byte. -/
def HcBootMode.code : HcBootMode → UInt8
  | .bootloader => 0
  | .application => 1
  | .unknown => 2

/-- The firmware that runs, which is compiled with `BOOT_MODE_B` or without it, and what it
    works on in STARTUP: the root block, the device state, the versions found, the response
    being built, the scan of the data blocks (`db3_startup_scan_blk_num` is there while it runs)
    and the answer given. -/
structure Startup where
  bootModeB : Bool
  bootMode : HcBootMode
  root : RootState
  deviceState : DeviceState
  uninitializedWiped : Bool
  rootBlockVersion : UInt8
  dbVersion : UInt8
  resp : Mem
  scanBlkNum : Option Nat
  answer : Option (CommandResponse × Bytes)

variable (P : RootPlatform)

/-- `enter_state`. -/
def Startup.enterState (state : DeviceState) (s : Startup) : Startup :=
  { s with deviceState := state }

/-- `resp[3] = g_device_state` and the answer. -/
def Startup.finish (rc : CommandResponse) (s : Startup) : Startup :=
  let resp := s.resp.write 3 [s.deviceState.code]
  { s with
    resp
    answer := some (rc, resp.read 0
      (STARTUP_RESP_INFO_SIZE + HC_HASH_FUNCTION_PARAMS_LENGTH + HC_HASH_FN_SALT_SZ)) }

/-- The device has no database that STARTUP knows. -/
def Startup.notInitialized (rc : CommandResponse) (s : Startup) : Startup :=
  ({ s with uninitializedWiped := false }.enterState .uninitialized).finish rc

/-- `db3_startup_scan`, up to the first read. -/
def Startup.db3StartupScan (s : Startup) : Startup :=
  { s with scanBlkNum := some MIN_DATA_BLOCK }

/-- `startup_cmd_iter`. -/
def Startup.cmdIter (s : Startup) : Startup :=
  let info : Bytes := [SIGNET_HC_MAJOR_VERSION, SIGNET_HC_MINOR_VERSION, SIGNET_HC_STEP_VERSION,
    s.deviceState.code, 0, 0, s.bootMode.code, 0]
  let s := { s with resp := Mem.write (fun _ => 0) 0 info }
  if s.bootModeB then
    if ¬ s.root.rootPageValid then s.notInitialized .okay
    else
      let page := s.root.rootPage
      let s := { s with rootBlockVersion := UInt8.ofNat (deviceDataFormat page) }
      if deviceDataFormat page = ROOT_BLOCK_FORMAT_CURRENT then
        let resp := s.resp.copy STARTUP_RESP_INFO_SIZE page deviceDataHashFunctionParams
          HC_HASH_FUNCTION_PARAMS_LENGTH
        let resp := resp.copy (STARTUP_RESP_INFO_SIZE + HC_HASH_FUNCTION_PARAMS_LENGTH) page
          deviceDataSalt HC_HASH_FN_SALT_SZ
        -- `g_db_version` is a byte: the upper one of `db_format` is lost here
        let s := { s with dbVersion := UInt8.ofNat (deviceDataDbFormat page) }
        let s := { s with
          resp := (resp.write 4 [s.rootBlockVersion, s.dbVersion]).write 7
            [page deviceDataUpgradeState] }
        if s.dbVersion.toNat = DB_FORMAT_CURRENT ∨ s.dbVersion.toNat = DB_FORMAT_2 then
          s.db3StartupScan
        else s.notInitialized .unknownDbFormat
      else s.notInitialized .unknownDbFormat
  else (s.enterState .bootloader).finish .okay

/-- `startup_cmd`. -/
def Startup.cmd (s : Startup) : Startup := { s with root := cmdInit P s.root }.cmdIter

/-- `db3_read_block_complete` in the scan: the next block, or its end
    (`db3_startup_scan_resume`). -/
def Startup.readBlockComplete (s : Startup) : Startup :=
  match s.scanBlkNum with
  | none => s
  | some n =>
    if n + 1 ≤ MAX_DATA_BLOCK then { s with scanBlkNum := some (n + 1) }
    else ({ s with scanBlkNum := none }.enterState .loggedOut).finish .okay

/-- `n` blocks have been read. -/
def Startup.reads (n : Nat) (s : Startup) : Startup := Startup.readBlockComplete^[n] s

/-! ### What is expected -/

/-- `cmd_init` takes the newest root block that is in order, and a STARTUP after it takes
    nothing else for a database. -/
structure Startup.Selects (s : Startup) : Prop where
  newest : (∃ c, crcOk P (s.root.sector c) = true) →
    crcOk P (s.root.sector (cmdInit P s.root).current) = true ∧
      ∀ c, crcOk P (s.root.sector c) = true →
        dataIteration (s.root.sector c) ≤ dataIteration (s.root.sector (cmdInit P s.root).current)
  loaded : Loaded P (s.root.sector (cmdInit P s.root).current) (cmdInit P s.root)
  valid : (cmdInit P s.root).rootPageValid = true ↔ ∃ c, crcOk P (s.root.sector c) = true
  refused : (¬ ∃ c, crcOk P (s.root.sector c) = true) →
    (s.cmd P).scanBlkNum = none ∧ ∀ n, ((s.cmd P).reads n).deviceState ≠ .loggedOut

/-! ### The choice -/

section Choice

variable {P} {s : Startup} {sector : RootSector → Mem}

/-- No sector in order has a larger number than the one chosen. -/
theorem iteration_le_initSector {c : RootSector} (h : crcOk P (sector c) = true) :
    dataIteration (sector c) ≤ dataIteration (sector (initSector P sector)) := by
  have hsel := crcOk_initSector ⟨c, h⟩
  by_contra hlt
  -- a sector with a larger number is the newer one of the two
  have hne : c.other = initSector P sector := by
    generalize initSector P sector = c' at hlt ⊢
    cases c <;> cases c' <;> first | rfl | exact absurd (Nat.le_refl _) hlt
  have hchosen : initSector P sector = c := by
    apply initSector_of_newer h
    rw [hne]
    exact Nat.lt_of_not_le hlt
  rw [hchosen] at hlt
  exact hlt (Nat.le_refl _)

/-- **The root sector is selected as documented exactly when one of them is in order.** -/
theorem root_selected : s.Selects P ↔ ∃ c, crcOk P (s.root.sector c) = true := by
  refine ⟨fun h => h.valid.mp rfl, fun hex => ?_⟩
  exact {
    newest := fun _ => ⟨crcOk_initSector hex, fun c hc => iteration_le_initSector hc⟩
    loaded := loaded_cmdInit s.root
    valid := ⟨fun _ => hex, fun _ => rfl⟩
    refused := fun hnone => absurd hex hnone }

end Choice

/-! ### Contents that only look like a database -/

section Contents

variable {P} {s : Startup}

/-- The scan goes on to its last block. -/
theorem reads_scan {n : Nat} (hscan : s.scanBlkNum = some MIN_DATA_BLOCK)
    (hn : n < MAX_DATA_BLOCK) : (s.reads n).scanBlkNum = some (MIN_DATA_BLOCK + n) := by
  induction n with
  | zero => exact hscan
  | succ n ih =>
    have hnext : s.reads (n + 1) = (s.reads n).readBlockComplete :=
      Function.iterate_succ_apply' _ _ _
    have hle : MIN_DATA_BLOCK + n + 1 ≤ MAX_DATA_BLOCK := by
      change 1 + n + 1 ≤ MAX_DATA_BLOCK
      omega
    rw [hnext]
    unfold Startup.readBlockComplete
    rw [ih (by omega)]
    dsimp only
    rw [if_pos hle]
    rfl

theorem reads_end (hscan : s.scanBlkNum = some MIN_DATA_BLOCK) :
    (s.reads MAX_DATA_BLOCK).deviceState = .loggedOut := by
  have hlast := reads_scan (n := MAX_DATA_BLOCK - 1) hscan (by decide)
  have hnext : s.reads MAX_DATA_BLOCK = (s.reads (MAX_DATA_BLOCK - 1)).readBlockComplete :=
    Function.iterate_succ_apply' _ _ _
  rw [hnext]
  unfold Startup.readBlockComplete
  rw [hlast]
  rfl

theorem cmd_scan (hb : s.bootModeB = true)
    (hformat : deviceDataFormat (cmdInit P s.root).rootPage = ROOT_BLOCK_FORMAT_CURRENT)
    (hdb : deviceDataDbFormat (cmdInit P s.root).rootPage % 256 = DB_FORMAT_CURRENT ∨
      deviceDataDbFormat (cmdInit P s.root).rootPage % 256 = DB_FORMAT_2) :
    (s.cmd P).scanBlkNum = some MIN_DATA_BLOCK := by
  have hvalid : (cmdInit P s.root).rootPageValid = true := rfl
  unfold Startup.cmd Startup.cmdIter
  dsimp only
  rw [if_pos hb, if_neg (not_not.mpr hvalid), if_pos hformat, UInt8.toNat_ofNat', if_pos hdb]
  rfl

/-- **A root block that is out of order is used like one in order** when its format fields are
    those of a database (`db_format` only in its lower byte). -/
theorem invalid_root_logged_out (hb : s.bootModeB = true)
    (hformat : deviceDataFormat (cmdInit P s.root).rootPage = ROOT_BLOCK_FORMAT_CURRENT)
    (hdb : deviceDataDbFormat (cmdInit P s.root).rootPage % 256 = DB_FORMAT_CURRENT ∨
      deviceDataDbFormat (cmdInit P s.root).rootPage % 256 = DB_FORMAT_2) :
    ((s.cmd P).reads MAX_DATA_BLOCK).deviceState = .loggedOut :=
  reads_end (cmd_scan hb hformat hdb)

end Contents

/-- A device whose two root sectors say that they hold a database and have no checksum. -/
def unsealedStartup : Startup where
  bootModeB := true
  bootMode := .application
  root :=
    { sector := fun _ => Mem.write (fun _ => 0) 4 [3, 0, 3, 0]
      rootPage := fun _ => 0
      current := .cryptData1
      rootPageValid := false
      writing := none }
  deviceState := .disconnected
  uninitializedWiped := false
  rootBlockVersion := 0
  dbVersion := 0
  resp := fun _ => 0
  scanBlkNum := none
  answer := none

/-- Nothing is in order, and STARTUP ends logged out. -/
theorem unsealed_root_used : ¬ ∀ (P : RootPlatform) (s : Startup), s.Selects P := by
  intro h
  have hnone : ¬ ∃ c, crcOk sumPlatform (unsealedStartup.root.sector c) = true := by
    rintro ⟨c, hc⟩
    revert hc
    cases c <;> decide
  refine ((h sumPlatform unsealedStartup).refused hnone).2 MAX_DATA_BLOCK ?_
  exact invalid_root_logged_out rfl (by decide) (.inl (by decide))

end SignetBase.FirmwareHc

/-
  SignetBase/FirmwareHc/WriteFlash.lean
  =====================================
  **WRITE_FLASH on Signet HC (`firmware_update_state.c`, `flash.c`).**

  The command writes words to the boot area that the device does not run from.  The handler
  copies the data before it has looked at its length, checks the first and the last byte of
  the area to be written, and leaves the rest to `flash_write`, which halts the device when
  the length is no multiple of four.  The driver programs 16 words of `cmd_data` in each turn
  of the main loop.  They are the words of the packet exactly when what is received between
  the turns leaves `cmd_data` and the driver alone (`Undisturbed`), and `write_flash_confined`
  says for which packets all is as it should be.
-/
import SignetBase.FirmwareHc.PacketReads

namespace SignetBase.FirmwareHc

/-! ### The code -/

def BOOT_AREA_A : Nat := 0x8008000
def BOOT_AREA_B : Nat := 0x8020000
def HC_BOOT_AREA_A_LEN : Nat := 1024 * 96
def HC_BOOT_AREA_B_LEN : Nat := 1024 * 384

/-- A write in progress: `flash_write_dest`, `flash_write_src` as an offset in
    `cmd_data.write_flash` and `flash_write_length`. -/
structure FlashWrite where
  dest : Nat
  src : Nat
  length : Int

/-- What WRITE_FLASH works on: the boot mode, `cmd_data.write_flash`, `active_cmd` being
    WRITE_FLASH, `cmd_messages_remaining`, the write in progress (the driver is idle without
    one), the words programmed with their addresses and the answers given to WRITE_FLASH
    packets, the last ones first. -/
structure FlashWriter where
  bootMode : HcBootMode
  writeFlash : Mem
  active : Bool
  messagesRemaining : Nat
  write : Option FlashWrite
  programmed : List (Nat × Nat)
  answers : List CommandResponse

/-- `finish_command_resp`. -/
def FlashWriter.finish (rc : CommandResponse) (s : FlashWriter) : FlashWriter :=
  { s with answers := rc :: s.answers, active := s.active && s.messagesRemaining != 0 }

/-- `in_memory_range`. -/
def inMemoryRange (addr baseAddr len : Nat) : Prop :=
  baseAddr ≤ addr ∧ addr ≤ (baseAddr + len + (2 ^ 32 - 1)) % 2 ^ 32

instance (addr baseAddr len : Nat) : Decidable (inMemoryRange addr baseAddr len) :=
  inferInstanceAs (Decidable (_ ∧ _))

/-- `write_addr_base` and `write_addr_len`, in the modes there are. -/
def writeArea : HcBootMode → Option (Nat × Nat)
  | .bootloader => some (BOOT_AREA_B, HC_BOOT_AREA_B_LEN)
  | .application => some (BOOT_AREA_A, HC_BOOT_AREA_A_LEN)
  | .unknown => none

/-- `flash_write`; its assertions halt the device. -/
def flashWrite (dest src : Nat) (count : Int) (s : FlashWriter) : Option FlashWriter :=
  if s.write.isNone ∧ count % 4 = 0 then some { s with write := some ⟨dest, src, count⟩ } else none

/-- What `write_flash_cmd` copies into `cmd_data.write_flash.block`. -/
def writeFlashCmdWrites (mode : HcBootMode) (dataLen : Int) : List Span :=
  match writeArea mode with
  | some _ => [⟨0, sizeT (dataLen - 4)⟩]
  | none => []

/-- What is in `cmd_data.write_flash` after these copies: `block`, `addr` and `sz`. -/
def writeFlashCopied (data : Mem) (dataLen : Int) (writeFlash : Mem) : Mem :=
  ((writeFlash.copy 0 data 4 (sizeT (dataLen - 4))).put32 BLK_SIZE (data.get32 0)).put16
    (BLK_SIZE + 4) ((dataLen - 4) % 2 ^ 16).toNat

/-- `write_flash_cmd`. -/
def writeFlashCmd (data : Mem) (dataLen : Int) (s : FlashWriter) : Option FlashWriter :=
  match writeArea s.bootMode with
  | none => some (s.finish .invalidState)
  | some (writeAddrBase, writeAddrLen) =>
    let dest := (data.get32 0 + writeAddrBase) % 2 ^ 32
    let sz := ((dataLen - 4) % 2 ^ 16).toNat
    let s := { s with writeFlash := writeFlashCopied data dataLen s.writeFlash }
    if ¬ inMemoryRange dest writeAddrBase writeAddrLen ∨
        ¬ inMemoryRange ((dest + sz + (2 ^ 32 - 1)) % 2 ^ 32) writeAddrBase writeAddrLen then
      some (s.finish .invalidInput)
    else flashWrite dest 0 sz s

/-- A WRITE_FLASH packet in `cmd_packet_recv`. -/
def writeFlashPacket (data : Mem) (dataLen : Int) (messagesRemaining : Nat) (s : FlashWriter) :
    Option FlashWriter :=
  let s := { s with active := true, messagesRemaining }
  if dataLen > hcLink.cmdPacketPayloadSize then some (s.finish .invalidInput)
  else writeFlashCmd data dataLen s

/-- The copies such a packet leads to. -/
def writeFlashPacketWrites (mode : HcBootMode) (dataLen : Int) : List Span :=
  if dataLen > hcLink.cmdPacketPayloadSize then [] else writeFlashCmdWrites mode dataLen

/-- What the main loop does while a write is in progress: a turn of `flash_idle`, a further
    WRITE_FLASH packet, or a packet of another command, of which the model keeps what it leaves
    in `cmd_data.write_flash`, and that it may halt or reset the device (ERASE_FLASH_PAGES
    asserts that the driver is idle). -/
inductive FlashEvent where
  | turn
  | packet (data : Mem) (dataLen : Int) (messagesRemaining : Nat)
  | other (left : Option Mem)

variable (halFlashProgram : Nat → Nat → Bool)

/-- The loop of `flash_idle` in `FLASH_WRITING`, for `n` words at most.  It halts the device
    when `HAL_FLASH_Program` does not report HAL_OK. -/
def programWords (block : Mem) : Nat → FlashWrite → List (Nat × Nat) →
    Option (FlashWrite × List (Nat × Nat))
  | 0, w, programmed => some (w, programmed)
  | n + 1, w, programmed =>
    if 0 < w.length then
      let word := block.get32 w.src
      if halFlashProgram w.dest word then
        programWords block n ⟨(w.dest + 4) % 2 ^ 32, w.src + 4, w.length - 4⟩
          ((w.dest, word) :: programmed)
      else none
    else some (w, programmed)

/-- `write_flash_cmd_complete`, which `write_block_complete` calls for the active command. -/
def FlashWriter.writeComplete (s : FlashWriter) : FlashWriter :=
  if s.active then s.finish .okay else s

/-- `flash_idle` in `FLASH_IDLE` and `FLASH_WRITING`, with the completion when the write has
    ended. -/
def FlashWriter.flashIdle (s : FlashWriter) : Option FlashWriter :=
  match s.write with
  | none => some s
  | some w =>
    match programWords halFlashProgram s.writeFlash 16 w s.programmed with
    | none => none
    | some (w, programmed) =>
      if w.length = 0 then some { s with write := none, programmed }.writeComplete
      else some { s with write := some w, programmed }

/-- One event; `none` when the device halts or is reset. -/
def FlashWriter.event (s : FlashWriter) : FlashEvent → Option FlashWriter
  | .turn => s.flashIdle halFlashProgram
  | .packet data dataLen messagesRemaining => writeFlashPacket data dataLen messagesRemaining s
  | .other left => left.map fun writeFlash => { s with writeFlash, active := false }

def FlashWriter.events : List FlashEvent → FlashWriter → Option FlashWriter
  | [], s => some s
  | e :: es, s => (s.event halFlashProgram e).bind (FlashWriter.events es)

/-! ### What is expected -/

/-- The start and the number of bytes of the boot area that is not in use. -/
def areaBase (mode : HcBootMode) : Nat := ((writeArea mode).map Prod.fst).getD 0

def areaLen (mode : HcBootMode) : Nat := ((writeArea mode).map Prod.snd).getD 0

/-- The packet has whole words for addresses in that area. -/
structure ValidWrite (mode : HcBootMode) (data : Mem) (dataLen : Int) : Prop where
  some_data : 4 ≤ dataLen - 4
  block : dataLen - 4 ≤ BLK_SIZE
  words : (dataLen - 4) % 4 = 0
  range : data.get32 0 + (dataLen - 4) ≤ areaLen mode

/-- The first `n` words of the packet and the addresses they are for. -/
def packetWords (mode : HcBootMode) (data : Mem) (n : Nat) : List (Nat × Nat) :=
  (List.range n).map fun k =>
    (areaBase mode + data.get32 0 + 4 * k, data.get32 (4 + 4 * k))

/-- The WRITE_FLASH packets among the events, which are answered when they come. -/
def flashPackets (es : List FlashEvent) : Nat :=
  es.countP fun e => match e with
    | .packet .. => true
    | _ => false

/-- WRITE_FLASH is the active command after the events, when all their packets have been
    rejected. -/
def activeAfter (active : Bool) (es : List FlashEvent) : Bool :=
  es.foldl (fun active e => match e with
    | .turn => active
    | .packet _ _ messagesRemaining => messagesRemaining != 0
    | .other _ => false) active

/-- The answers given to a write and to the rejected packets that come while it goes on. -/
def answersAfter (active : Bool) (es : List FlashEvent) : List CommandResponse :=
  (if activeAfter active es then [.okay] else []) ++ List.replicate (flashPackets es) .invalidInput

/-- A WRITE_FLASH packet, with the events that follow it, is confined to its block and to the
    area: its words, if they are valid, are programmed in order and nothing else is, and it is
    answered INVALID_INPUT with nothing done otherwise. -/
structure WriteFlashConfined (data : Mem) (dataLen : Int) (messagesRemaining : Nat)
    (s : FlashWriter) (es : List FlashEvent) : Prop where
  copy : Span.AllWithin BLK_SIZE (writeFlashPacketWrites s.bootMode dataLen)
  valid : ValidWrite s.bootMode data dataLen → ∃ now later s', es = now ++ later ∧
    (writeFlashPacket data dataLen messagesRemaining s).bind
      (FlashWriter.events halFlashProgram now) = some s' ∧
    s'.write = none ∧ s'.answers = answersAfter true now ++ s.answers ∧
    s'.programmed =
      (packetWords s.bootMode data ((dataLen - 4) / 4).toNat).reverse ++ s.programmed
  inside : ValidWrite s.bootMode data dataLen →
    ∀ p ∈ packetWords s.bootMode data ((dataLen - 4) / 4).toNat,
      areaBase s.bootMode ≤ p.1 ∧ p.1 + 4 ≤ areaBase s.bootMode + areaLen s.bootMode
  invalid : ¬ ValidWrite s.bootMode data dataLen →
    ∃ s', writeFlashPacket data dataLen messagesRemaining s = some s' ∧
      s'.answers = .invalidInput :: s.answers ∧ s'.write = s.write ∧ s'.programmed = s.programmed

/-- The two checks of the handler, for `l` bytes. -/
def InArea (mode : HcBootMode) (data : Mem) (l : Nat) : Prop :=
  (l = 0 → 0 < data.get32 0) ∧ data.get32 0 + l ≤ areaLen mode ∧ data.get32 0 < areaLen mode

instance (mode : HcBootMode) (data : Mem) (l : Nat) : Decidable (InArea mode data l) :=
  inferInstanceAs (Decidable (_ ∧ _ ∧ _))

/-- A packet that is too long or fails the checks. -/
def Rejected (mode : HcBootMode) (data : Mem) (dataLen : Int) : Prop :=
  dataLen ≤ hcLink.cmdPacketPayloadSize →
    ¬ InArea mode data ((dataLen - 4) % 2 ^ 16).toNat

/-- What `cmd_data.write_flash` holds after a packet. -/
def packetLeaves (data : Mem) (dataLen : Int) (block : Mem) : Mem :=
  if dataLen > hcLink.cmdPacketPayloadSize then block else writeFlashCopied data dataLen block

/-- With `k` of `n` words programmed and `block` in `cmd_data`, the events let the write go on to
    its end: each turn finds the next 16 words of the packet still in `cmd_data` and the flash
    takes them, and before the last of them every further packet is rejected and no command
    halts the device. -/
inductive Undisturbed (mode : HcBootMode) (data : Mem) (n : Nat) :
    Nat → Mem → List FlashEvent → Prop
  | ended {k : Nat} {block : Mem} {es : List FlashEvent} : n ≤ k →
      Undisturbed mode data n k block es
  | turn {k : Nat} {block : Mem} {es : List FlashEvent} : k < n →
      (∀ j, k ≤ j → j < min (k + 16) n → block.get32 (4 * j) = data.get32 (4 + 4 * j) ∧
        halFlashProgram (areaBase mode + data.get32 0 + 4 * j) (data.get32 (4 + 4 * j)) = true) →
      Undisturbed mode data n (k + 16) block es → Undisturbed mode data n k block (.turn :: es)
  | packet {k : Nat} {block : Mem} {es : List FlashEvent} {data' : Mem} {dataLen : Int} {r : Nat} :
      k < n → Rejected mode data' dataLen →
      Undisturbed mode data n k (packetLeaves data' dataLen block) es →
      Undisturbed mode data n k block (.packet data' dataLen r :: es)
  | other {k : Nat} {block left : Mem} {es : List FlashEvent} : k < n →
      Undisturbed mode data n k left es → Undisturbed mode data n k block (.other (some left) :: es)

/-- The packets that `write_flash_cmd` handles.  For a write that goes ahead the driver has to be
    idle, and what follows has to leave it alone. -/
def WriteFlashHandled (data : Mem) (dataLen : Int) (s : FlashWriter) (es : List FlashEvent) :
    Prop :=
  dataLen ≤ hcLink.cmdPacketPayloadSize →
    0 ≤ dataLen - 4 ∧ dataLen - 4 ≤ BLK_SIZE ∧
    (dataLen - 4 = 0 → data.get32 0 = 0 ∨ areaLen s.bootMode ≤ data.get32 0) ∧
    ((dataLen - 4) % 4 ≠ 0 → areaLen s.bootMode < data.get32 0 + (dataLen - 4)) ∧
    (ValidWrite s.bootMode data dataLen → s.write = none ∧
      Undisturbed halFlashProgram s.bootMode data ((dataLen - 4) / 4).toNat 0
        (writeFlashCopied data dataLen s.writeFlash) es)

/-! ### The handler -/

section Handler

variable {data : Mem} {dataLen : Int} {s s' : FlashWriter} {l : Nat}

theorem writeArea_eq (hmode : s.bootMode ≠ .unknown) :
    writeArea s.bootMode = some (areaBase s.bootMode, areaLen s.bootMode) := by
  cases h : s.bootMode with
  | bootloader | application => rfl
  | unknown => exact absurd h hmode

/-- The areas lie above the block sizes and below the end of the address space. -/
theorem area_bounds (hmode : s.bootMode ≠ .unknown) :
    2 ^ 20 < areaBase s.bootMode ∧ 0 < areaLen s.bootMode ∧
      areaBase s.bootMode + areaLen s.bootMode < 2 ^ 28 := by
  cases h : s.bootMode with
  | bootloader | application => decide
  | unknown => exact absurd h hmode

theorem inMemoryRange_iff {addr baseAddr len : Nat} (hlen : 0 < len)
    (hend : baseAddr + len < 2 ^ 32) :
    inMemoryRange addr baseAddr len ↔ baseAddr ≤ addr ∧ addr < baseAddr + len := by
  unfold inMemoryRange
  omega

theorem checks_iff (hmode : s.bootMode ≠ .unknown) (hl : l < 2 ^ 16) :
    inMemoryRange ((data.get32 0 + areaBase s.bootMode) % 2 ^ 32) (areaBase s.bootMode)
        (areaLen s.bootMode) ∧
      inMemoryRange (((data.get32 0 + areaBase s.bootMode) % 2 ^ 32 + l + (2 ^ 32 - 1)) % 2 ^ 32)
        (areaBase s.bootMode) (areaLen s.bootMode) ↔ InArea s.bootMode data l := by
  obtain ⟨hbase, hlen, hend⟩ := area_bounds hmode
  have hoffs := data.get32_lt 0
  rw [inMemoryRange_iff hlen (by omega), inMemoryRange_iff hlen (by omega)]
  unfold InArea
  omega

/-- **What `write_flash_cmd` does**: all that is left of the handler is its check. -/
theorem writeFlashCmd_eq (hmode : s.bootMode ≠ .unknown) : writeFlashCmd data dataLen s =
    if InArea s.bootMode data ((dataLen - 4) % 2 ^ 16).toNat then
      flashWrite (areaBase s.bootMode + data.get32 0) 0 ((dataLen - 4) % 2 ^ 16).toNat
        { s with writeFlash := writeFlashCopied data dataLen s.writeFlash }
    else some ({ s with writeFlash := writeFlashCopied data dataLen s.writeFlash }.finish
      .invalidInput) := by
  generalize hsz : ((dataLen - 4) % 2 ^ 16).toNat = sz
  have hlt : sz < 2 ^ 16 := by omega
  have hiff := @checks_iff data s sz hmode hlt
  unfold writeFlashCmd
  rw [writeArea_eq hmode]
  dsimp only
  rw [hsz]
  by_cases hin : InArea s.bootMode data sz
  · have hboth := hiff.mpr hin
    obtain ⟨hbase, hlen, hend⟩ := area_bounds hmode
    have hoffs := data.get32_lt 0
    have hdest : (data.get32 0 + areaBase s.bootMode) % 2 ^ 32 =
        areaBase s.bootMode + data.get32 0 := by
      have hfirst := (inMemoryRange_iff hlen (by omega)).mp hboth.1
      omega
    rw [if_pos hin, if_neg (not_or.mpr ⟨not_not.mpr hboth.1, not_not.mpr hboth.2⟩), hdest]
  · rw [if_neg hin, if_pos (Decidable.not_and_iff_not_or_not.mp fun hboth => hin (hiff.mp hboth))]

theorem flashWrite_eq_some {dest src : Nat} {count : Int}
    (h : flashWrite dest src count s = some s') :
    s.write = none ∧ count % 4 = 0 ∧ s' = { s with write := some ⟨dest, src, count⟩ } := by
  unfold flashWrite at h
  split at h
  · rename_i hboth
    cases h
    exact ⟨Option.isNone_iff_eq_none.mp hboth.1, hboth.2, rfl⟩
  · cases h

/-- A packet that is rejected is answered and leaves its bytes in `cmd_data`. -/
theorem writeFlashPacket_rejected (hmode : s.bootMode ≠ .unknown) (r : Nat)
    (h : Rejected s.bootMode data dataLen) :
    writeFlashPacket data dataLen r s = some { s with
      writeFlash := packetLeaves data dataLen s.writeFlash
      active := r != 0
      messagesRemaining := r
      answers := .invalidInput :: s.answers } := by
  unfold writeFlashPacket packetLeaves
  by_cases hlong : dataLen > hcLink.cmdPacketPayloadSize
  · rw [if_pos hlong, if_pos hlong]
    rfl
  · dsimp only
    rw [if_neg hlong, if_neg hlong,
      writeFlashCmd_eq (s := { s with active := true, messagesRemaining := r }) hmode,
      if_neg (h (by omega))]
    rfl

/-- One that is not rejected halts the device when the driver is not idle. -/
theorem rejected_of_busy (hmode : s.bootMode ≠ .unknown) {r : Nat} (hbusy : s.write ≠ none)
    (h : writeFlashPacket data dataLen r s = some s') : Rejected s.bootMode data dataLen := by
  intro hle hin
  unfold writeFlashPacket at h
  dsimp only at h
  rw [if_neg (by omega), writeFlashCmd_eq (s := { s with active := true, messagesRemaining := r })
    hmode, if_pos hin] at h
  exact hbusy (flashWrite_eq_some h).1

end Handler

/-! ### Programming -/

section Programming

variable {H : Nat → Nat → Bool} {data block : Mem} {mode : HcBootMode} {s s' : FlashWriter}
  {old : List (Nat × Nat)} {n : Nat}

theorem packetWords_succ (mode : HcBootMode) (data : Mem) (k : Nat) :
    packetWords mode data (k + 1) = packetWords mode data k ++
      [(areaBase mode + data.get32 0 + 4 * k, data.get32 (4 + 4 * k))] := by
  unfold packetWords
  rw [List.range_succ, List.map_append, List.map_singleton]

/-- The write of `n` words after `k` of them. -/
def writeAt (mode : HcBootMode) (data : Mem) (n k : Nat) : FlashWrite :=
  ⟨areaBase mode + data.get32 0 + 4 * k, 4 * k, 4 * ((n : Int) - k)⟩

/-- The words `k` to `l` of what is in `cmd_data`, with the addresses they are for. -/
def blockWords (mode : HcBootMode) (data block : Mem) (k l : Nat) : List (Nat × Nat) :=
  (List.range' k (l - k)).map fun j => (areaBase mode + data.get32 0 + 4 * j, block.get32 (4 * j))

theorem blockWords_self (mode : HcBootMode) (data block : Mem) (k : Nat) :
    blockWords mode data block k k = [] := by
  unfold blockWords
  rw [Nat.sub_self]
  rfl

theorem blockWords_of_lt {k l : Nat} (h : k < l) : blockWords mode data block k l =
    (areaBase mode + data.get32 0 + 4 * k, block.get32 (4 * k)) ::
      blockWords mode data block (k + 1) l := by
  unfold blockWords
  rw [show l - k = (l - (k + 1)) + 1 by omega, List.range'_succ, List.map_cons]

/-- They are the next words of the packet when `cmd_data` still holds these. -/
theorem packetWords_append {k l : Nat} (hkl : k ≤ l)
    (h : ∀ j, k ≤ j → j < l → block.get32 (4 * j) = data.get32 (4 + 4 * j)) :
    packetWords mode data l = packetWords mode data k ++ blockWords mode data block k l := by
  induction l, hkl using Nat.le_induction with
  | base => rw [blockWords_self, List.append_nil]
  | succ l hkl ih =>
    have hlast : blockWords mode data block k (l + 1) = blockWords mode data block k l ++
        [(areaBase mode + data.get32 0 + 4 * l, block.get32 (4 * l))] := by
      unfold blockWords
      rw [show l + 1 - k = (l - k) + 1 by omega, List.range'_1_concat, List.map_append,
        List.map_singleton, Nat.add_sub_cancel' hkl]
    rw [packetWords_succ, ih fun j hj hjl => h j hj (by omega), hlast, ← h l hkl (by omega),
      List.append_assoc]

/-- The loop programs the next words of `cmd_data`, if the flash takes them. -/
theorem programWords_iff {r : FlashWrite × List (Nat × Nat)}
    (hend : areaBase mode + data.get32 0 + 4 * n < 2 ^ 32) (m : Nat) {k : Nat} (hk : k ≤ n) :
    programWords H block m (writeAt mode data n k) old = some r ↔
      (∀ j, k ≤ j → j < min (k + m) n →
        H (areaBase mode + data.get32 0 + 4 * j) (block.get32 (4 * j)) = true) ∧
      r = (writeAt mode data n (min (k + m) n),
        (blockWords mode data block k (min (k + m) n)).reverse ++ old) := by
  induction m generalizing k old with
  | zero =>
    have hnone : ∀ j, k ≤ j → j < min (k + 0) n →
        H (areaBase mode + data.get32 0 + 4 * j) (block.get32 (4 * j)) = true := by
      intro j hj hlt
      omega
    rw [and_iff_right hnone, Nat.add_zero, Nat.min_eq_left hk, blockWords_self]
    exact Option.some_inj.trans eq_comm
  | succ m ih =>
    unfold programWords
    rcases Nat.eq_or_lt_of_le hk with rfl | hlt
    · have hdone : ¬ 0 < (writeAt mode data k k).length := by
        unfold writeAt
        dsimp only
        omega
      have hnone : ∀ j, k ≤ j → j < min (k + (m + 1)) k →
          H (areaBase mode + data.get32 0 + 4 * j) (block.get32 (4 * j)) = true := by
        intro j hj hlt
        omega
      rw [if_neg hdone, and_iff_right hnone, Nat.min_eq_right (by omega), blockWords_self]
      exact Option.some_inj.trans eq_comm
    · have hmore : 0 < (writeAt mode data n k).length := by
        unfold writeAt
        dsimp only
        omega
      have hnext : (⟨((writeAt mode data n k).dest + 4) % 2 ^ 32, (writeAt mode data n k).src + 4,
          (writeAt mode data n k).length - 4⟩ : FlashWrite) = writeAt mode data n (k + 1) := by
        unfold writeAt
        dsimp only
        rw [FlashWrite.mk.injEq]
        omega
      have hsrc : (writeAt mode data n k).src = 4 * k := rfl
      have hdest : (writeAt mode data n k).dest = areaBase mode + data.get32 0 + 4 * k := rfl
      rw [if_pos hmore]
      dsimp only
      rw [hnext, hsrc, hdest]
      have hstop : min (k + (m + 1)) n = min (k + 1 + m) n := by
        rw [Nat.add_right_comm, Nat.add_assoc]
      have hsplit : (∀ j, k ≤ j → j < min (k + (m + 1)) n →
            H (areaBase mode + data.get32 0 + 4 * j) (block.get32 (4 * j)) = true) ↔
          H (areaBase mode + data.get32 0 + 4 * k) (block.get32 (4 * k)) = true ∧
            ∀ j, k + 1 ≤ j → j < min (k + 1 + m) n →
              H (areaBase mode + data.get32 0 + 4 * j) (block.get32 (4 * j)) = true := by
        constructor
        · intro h
          exact ⟨h k (Nat.le_refl k) (by omega), fun j hj hjl => h j (by omega) (by omega)⟩
        · rintro ⟨hfirst, hrest⟩ j hj hjl
          rcases Nat.eq_or_lt_of_le hj with rfl | hjk
          · exact hfirst
          · exact hrest j hjk (by omega)
      rw [hsplit, hstop, blockWords_of_lt (show k < min (k + 1 + m) n by omega),
        List.reverse_cons, List.append_assoc, List.singleton_append]
      cases htaken : H (areaBase mode + data.get32 0 + 4 * k) (block.get32 (4 * k)) with
      | true => rw [if_pos rfl, ih hlt, and_iff_right rfl]
      | false =>
        rw [if_neg Bool.false_ne_true]
        constructor
        · rintro ⟨⟩
        · rintro ⟨⟨⟨⟩, -⟩, -⟩

@[simp] theorem write_writeComplete (s : FlashWriter) : s.writeComplete.write = s.write := by
  unfold FlashWriter.writeComplete
  split <;> rfl

@[simp] theorem programmed_writeComplete (s : FlashWriter) :
    s.writeComplete.programmed = s.programmed := by
  unfold FlashWriter.writeComplete
  split <;> rfl

theorem answers_writeComplete (s : FlashWriter) :
    s.writeComplete.answers = (if s.active then [.okay] else []) ++ s.answers := by
  unfold FlashWriter.writeComplete
  split <;> rfl

/-- A turn of `flash_idle` in a write of which `k` words have been programmed. -/
theorem flashIdle_iff (hend : areaBase mode + data.get32 0 + 4 * n < 2 ^ 32) {k : Nat} (hk : k < n)
    (hwrite : s.write = some (writeAt mode data n k)) :
    s.flashIdle H = some s' ↔
      (∀ j, k ≤ j → j < min (k + 16) n →
        H (areaBase mode + data.get32 0 + 4 * j) (s.writeFlash.get32 (4 * j)) = true) ∧
      s' = (if n ≤ k + 16 then
          { s with write := none, programmed :=
            (blockWords mode data s.writeFlash k n).reverse ++ s.programmed }.writeComplete
        else { s with write := some (writeAt mode data n (k + 16)), programmed :=
          (blockWords mode data s.writeFlash k (k + 16)).reverse ++ s.programmed }) := by
  unfold FlashWriter.flashIdle
  rw [hwrite]
  dsimp only
  cases hwords : programWords H s.writeFlash 16 (writeAt mode data n k) s.programmed with
  | none =>
    constructor
    · rintro ⟨⟩
    · rintro ⟨htaken, -⟩
      rw [(programWords_iff hend 16 (Nat.le_of_lt hk)).mpr ⟨htaken, rfl⟩] at hwords
      cases hwords
  | some r =>
    obtain ⟨htaken, rfl⟩ := (programWords_iff hend 16 (Nat.le_of_lt hk)).mp hwords
    rw [and_iff_right htaken]
    dsimp only
    by_cases hlast : n ≤ k + 16
    · have hzero : (writeAt mode data n (min (k + 16) n)).length = 0 := by
        unfold writeAt
        dsimp only
        omega
      rw [if_pos hzero, if_pos hlast, Nat.min_eq_right hlast]
      exact Option.some_inj.trans eq_comm
    · have hmore : (writeAt mode data n (min (k + 16) n)).length ≠ 0 := by
        unfold writeAt
        dsimp only
        omega
      rw [if_neg hmore, if_neg hlast, Nat.min_eq_left (by omega)]
      exact Option.some_inj.trans eq_comm

/-- Words programmed stay programmed. -/
theorem programWords_programmed {m : Nat} {w w' : FlashWrite}
    {programmed programmed' : List (Nat × Nat)}
    (h : programWords H block m w programmed = some (w', programmed')) :
    ∃ new, programmed' = new ++ programmed := by
  induction m generalizing w programmed with
  | zero =>
    cases h
    exact ⟨[], rfl⟩
  | succ m ih =>
    unfold programWords at h
    dsimp only at h
    split at h
    · split at h
      · obtain ⟨new, rfl⟩ := ih h
        exact ⟨new ++ [(w.dest, block.get32 w.src)], by rw [List.append_assoc]; rfl⟩
      · cases h
    · cases h
      exact ⟨[], rfl⟩

theorem writeFlashPacket_programmed {dataLen : Int} {r : Nat}
    (h : writeFlashPacket data dataLen r s = some s') : s'.programmed = s.programmed := by
  unfold writeFlashPacket at h
  dsimp only at h
  split at h
  · cases h
    rfl
  · unfold writeFlashCmd at h
    dsimp only at h
    split at h
    · cases h
      rfl
    · split at h
      · cases h
        rfl
      · rw [(flashWrite_eq_some h).2.2]

theorem event_programmed {e : FlashEvent} (h : s.event H e = some s') :
    ∃ new, s'.programmed = new ++ s.programmed := by
  cases e with
  | turn =>
    unfold FlashWriter.event FlashWriter.flashIdle at h
    dsimp only at h
    split at h
    · cases h
      exact ⟨[], rfl⟩
    · split at h
      · cases h
      · rename_i hwords
        obtain ⟨new, heq⟩ := programWords_programmed hwords
        split at h
        · cases h
          exact ⟨new, (programmed_writeComplete _).trans heq⟩
        · cases h
          exact ⟨new, heq⟩
  | packet data dataLen r => exact ⟨[], writeFlashPacket_programmed h⟩
  | other left =>
    obtain ⟨writeFlash, -, rfl⟩ := Option.map_eq_some_iff.mp h
    exact ⟨[], rfl⟩

theorem events_programmed {es : List FlashEvent} (h : s.events H es = some s') :
    ∃ new, s'.programmed = new ++ s.programmed := by
  induction es generalizing s with
  | nil =>
    cases h
    exact ⟨[], rfl⟩
  | cons e es ih =>
    obtain ⟨s₁, hevent, hrest⟩ := Option.bind_eq_some_iff.mp h
    obtain ⟨new, heq⟩ := event_programmed hevent
    obtain ⟨new', heq'⟩ := ih hrest
    exact ⟨new' ++ new, by rw [heq', heq, List.append_assoc]⟩

/-- The driver has programmed `k` words of the packet. -/
structure Writing (mode : HcBootMode) (data : Mem) (n k : Nat) (old : List (Nat × Nat))
    (s : FlashWriter) : Prop where
  bootMode : s.bootMode = mode
  write : s.write = some (writeAt mode data n k)
  programmed : s.programmed = (packetWords mode data k).reverse ++ old

/-- **A write that is left alone goes on to its end**, by induction on what leaves it alone. -/
theorem Undisturbed.written {k : Nat} {es : List FlashEvent} (hmode : mode ≠ .unknown)
    (hend : areaBase mode + data.get32 0 + 4 * n < 2 ^ 32)
    (h : Undisturbed H mode data n k block es) (hk : k < n) (hs : Writing mode data n k old s)
    (hblock : s.writeFlash = block) :
    ∃ now later s', es = now ++ later ∧ s.events H now = some s' ∧ s'.write = none ∧
      s'.answers = answersAfter s.active now ++ s.answers ∧
      s'.programmed = (packetWords mode data n).reverse ++ old := by
  induction h generalizing s with
  | ended hle => exact absurd hk (Nat.not_lt.mpr hle)
  | @turn k block es hlt hwords _ ih =>
    subst hblock
    have htaken : ∀ j, k ≤ j → j < min (k + 16) n →
        H (areaBase mode + data.get32 0 + 4 * j) (s.writeFlash.get32 (4 * j)) = true := by
      intro j hj hjl
      obtain ⟨hword, hprogram⟩ := hwords j hj hjl
      rw [hword]
      exact hprogram
    have hturn := (flashIdle_iff hend hk hs.write).mpr ⟨htaken, rfl⟩
    by_cases hlast : n ≤ k + 16
    · rw [if_pos hlast] at hturn
      have hout : (packetWords mode data n).reverse ++ old =
          (blockWords mode data s.writeFlash k n).reverse ++ s.programmed := by
        rw [hs.programmed, packetWords_append (Nat.le_of_lt hk)
          (fun j hj hjl => (hwords j hj (by omega)).1), List.reverse_append, List.append_assoc]
      refine ⟨[.turn], es, _, rfl, Option.bind_eq_some_iff.mpr ⟨_, hturn, rfl⟩, ?_, ?_, ?_⟩
      · exact write_writeComplete _
      · rw [answers_writeComplete]
        unfold answersAfter
        exact congrArg (· ++ s.answers) (List.append_nil _).symm
      · rw [hout]
        exact programmed_writeComplete _
    · rw [if_neg hlast] at hturn
      obtain ⟨now, later, s', rfl, hevents, hwrite, hanswers, hprogrammed⟩ := ih (by omega)
        (s := { s with
          write := some (writeAt mode data n (k + 16))
          programmed := (blockWords mode data s.writeFlash k (k + 16)).reverse ++ s.programmed })
        ⟨hs.bootMode, rfl, by
          rw [packetWords_append (Nat.le_add_right k 16)
            (fun j hj hjl => (hwords j hj (by omega)).1), List.reverse_append, List.append_assoc,
            ← hs.programmed]⟩ rfl
      exact ⟨.turn :: now, later, s', rfl, Option.bind_eq_some_iff.mpr ⟨_, hturn, hevents⟩, hwrite,
        hanswers, hprogrammed⟩
  | @packet k block es data' dataLen r hlt hrejected _ ih =>
    subst hblock
    have hpacket := writeFlashPacket_rejected (s := s) (hs.bootMode ▸ hmode) r
      (hs.bootMode ▸ hrejected)
    obtain ⟨now, later, s', rfl, hevents, hwrite, hanswers, hprogrammed⟩ := ih hk
      (s := { s with
        writeFlash := packetLeaves data' dataLen s.writeFlash
        active := r != 0
        messagesRemaining := r
        answers := .invalidInput :: s.answers }) ⟨hs.bootMode, hs.write, hs.programmed⟩ rfl
    refine ⟨.packet data' dataLen r :: now, later, s', rfl,
      Option.bind_eq_some_iff.mpr ⟨_, hpacket, hevents⟩, hwrite, ?_, hprogrammed⟩
    have hcount : flashPackets (FlashEvent.packet data' dataLen r :: now) = flashPackets now + 1 :=
      List.countP_cons_of_pos rfl
    have hactive : activeAfter s.active (FlashEvent.packet data' dataLen r :: now) =
        activeAfter (r != 0) now := rfl
    rw [hanswers]
    unfold answersAfter
    rw [hcount, hactive, List.replicate_succ', List.append_assoc, List.append_assoc,
      List.append_assoc]
    rfl
  | @other k block left es hlt _ ih =>
    obtain ⟨now, later, s', rfl, hevents, hwrite, hanswers, hprogrammed⟩ := ih hk
      (s := { s with writeFlash := left, active := false })
      ⟨hs.bootMode, hs.write, hs.programmed⟩ rfl
    exact ⟨.other (some left) :: now, later, s', rfl,
      Option.bind_eq_some_iff.mpr ⟨_, rfl, hevents⟩, hwrite, hanswers, hprogrammed⟩

/-- What a turn adds to a write that ends as it should are the packet's own words. -/
theorem words_of_programmed {k l : Nat} {more : List (Nat × Nat)} (hkl : k ≤ l) (hln : l ≤ n)
    (h : more ++ ((blockWords mode data block k l).reverse ++ (packetWords mode data k).reverse) =
      (packetWords mode data n).reverse) {j : Nat} (hj : k ≤ j) (hjl : j < l) :
    block.get32 (4 * j) = data.get32 (4 + 4 * j) := by
  have hrev := congrArg List.reverse h
  rw [List.reverse_append, List.reverse_append, List.reverse_reverse, List.reverse_reverse,
    List.reverse_reverse, List.append_assoc] at hrev
  -- the word `j` on both sides
  have hget := congrArg (fun words : List (Nat × Nat) => words[j]?) hrev
  beta_reduce at hget
  have hlen : (packetWords mode data k).length = k := by
    unfold packetWords
    rw [List.length_map, List.length_range]
  have hblen : (blockWords mode data block k l).length = l - k := by
    unfold blockWords
    rw [List.length_map, List.length_range']
  rw [List.getElem?_append_right (by omega), List.getElem?_append_left (by omega), hlen] at hget
  unfold blockWords packetWords at hget
  rw [List.getElem?_map, List.getElem?_map, List.getElem?_range' (by omega),
    List.getElem?_range (by omega), Option.map_some, Option.map_some, Option.some_inj,
    Prod.mk.injEq] at hget
  have hidx : k + 1 * (j - k) = j := by omega
  rw [hidx] at hget
  exact hget.2

/-- **A write that ends as it should has been left alone.** -/
theorem undisturbed_of_events {k : Nat} {now later : List FlashEvent} (hmode : mode ≠ .unknown)
    (hend : areaBase mode + data.get32 0 + 4 * n < 2 ^ 32) (hk : k < n)
    (hs : Writing mode data n k old s) (h : s.events H now = some s') (hwrite : s'.write = none)
    (hprogrammed : s'.programmed = (packetWords mode data n).reverse ++ old) :
    Undisturbed H mode data n k s.writeFlash (now ++ later) := by
  induction now generalizing s k with
  | nil =>
    cases h
    rw [hs.write] at hwrite
    cases hwrite
  | cons e now ih =>
    obtain ⟨s₁, hevent, hrest⟩ := Option.bind_eq_some_iff.mp h
    cases e with
    | turn =>
      obtain ⟨htaken, hs₁⟩ := (flashIdle_iff hend hk hs.write).mp hevent
      obtain ⟨more, hmore⟩ := events_programmed hrest
      have hnew : s₁.programmed =
          (blockWords mode data s.writeFlash k (min (k + 16) n)).reverse ++ s.programmed := by
        rw [hs₁]
        split
        · rename_i hlast
          rw [Nat.min_eq_right hlast, programmed_writeComplete]
        · rename_i hlast
          rw [Nat.min_eq_left (by omega)]
      have hwords : ∀ j, k ≤ j → j < min (k + 16) n →
          s.writeFlash.get32 (4 * j) = data.get32 (4 + 4 * j) := by
        rw [hprogrammed, hnew, hs.programmed, ← List.append_assoc, ← List.append_assoc] at hmore
        have hsuffix := (List.append_cancel_right hmore).symm
        rw [List.append_assoc] at hsuffix
        intro j hj hjl
        exact words_of_programmed (by omega) (by omega) hsuffix hj hjl
      refine .turn hk (fun j hj hjl => ⟨hwords j hj hjl, ?_⟩) ?_
      · rw [← hwords j hj hjl]
        exact htaken j hj hjl
      · by_cases hlast : n ≤ k + 16
        · exact .ended hlast
        · rw [if_neg hlast] at hs₁
          have hkeep : s₁.writeFlash = s.writeFlash := by rw [hs₁]
          rw [← hkeep]
          refine ih (k := k + 16) (by omega) ⟨?_, ?_, ?_⟩ hrest
          · rw [hs₁]
            exact hs.bootMode
          · rw [hs₁]
          · rw [hnew, hs.programmed, Nat.min_eq_left (by omega),
              packetWords_append (Nat.le_add_right k 16) (fun j hj hjl => hwords j hj (by omega)),
              List.reverse_append, List.append_assoc]
    | packet data' dataLen r =>
      have hbusy : s.write ≠ none := by
        rw [hs.write]
        exact Option.some_ne_none _
      have hrejected := rejected_of_busy (hs.bootMode ▸ hmode) hbusy hevent
      have hpacket := writeFlashPacket_rejected (hs.bootMode ▸ hmode) r hrejected
      obtain rfl := Option.some_inj.mp (hevent.symm.trans hpacket)
      exact .packet hk (hs.bootMode ▸ hrejected)
        (ih (s := { s with
          writeFlash := packetLeaves data' dataLen s.writeFlash
          active := r != 0
          messagesRemaining := r
          answers := .invalidInput :: s.answers }) hk ⟨hs.bootMode, hs.write, hs.programmed⟩ hrest)
    | other left =>
      obtain ⟨writeFlash, rfl, rfl⟩ := Option.map_eq_some_iff.mp hevent
      exact .other hk (ih (s := { s with writeFlash, active := false }) hk
        ⟨hs.bootMode, hs.write, hs.programmed⟩ hrest)

end Programming

/-! ### Which packets are handled -/

section Packets

variable {H : Nat → Nat → Bool} {data : Mem} {dataLen : Int} {r : Nat} {s s' : FlashWriter}
  {es : List FlashEvent} {l : Nat}

/-- Data that is a packet's is valid when it is whole words for the area. -/
theorem validWrite_iff (hl : dataLen - 4 = l) :
    ValidWrite s.bootMode data dataLen ↔
      4 ≤ l ∧ l ≤ BLK_SIZE ∧ l % 4 = 0 ∧ data.get32 0 + l ≤ areaLen s.bootMode := by
  constructor
  · rintro ⟨h₁, h₂, h₃, h₄⟩
    omega
  · rintro ⟨h₁, h₂, h₃, h₄⟩
    exact ⟨by omega, by omega, by omega, by omega⟩

/-- A packet that is not too long, with data whose length is not negative. -/
theorem writeFlashPacket_eq (hmode : s.bootMode ≠ .unknown)
    (hle : dataLen ≤ hcLink.cmdPacketPayloadSize) (hl : dataLen - 4 = l) (hlt : l < 2 ^ 16) :
    writeFlashPacket data dataLen r s =
      if InArea s.bootMode data l then
        flashWrite (areaBase s.bootMode + data.get32 0) 0 l { s with
          writeFlash := writeFlashCopied data dataLen s.writeFlash
          active := true
          messagesRemaining := r }
      else some ({ s with
        writeFlash := writeFlashCopied data dataLen s.writeFlash
        active := true
        messagesRemaining := r }.finish .invalidInput) := by
  have hsz : ((dataLen - 4) % 2 ^ 16).toNat = l := by omega
  unfold writeFlashPacket
  dsimp only
  rw [if_neg (by omega), writeFlashCmd_eq (s := { s with active := true, messagesRemaining := r })
    hmode, hsz]

/-- Data that passes the check begins a write, or halts the device. -/
theorem not_rejected (hmode : s.bootMode ≠ .unknown) (hle : dataLen ≤ hcLink.cmdPacketPayloadSize)
    (hl : dataLen - 4 = l) (hlt : l < 2 ^ 16) (hin : InArea s.bootMode data l)
    (h : writeFlashPacket data dataLen r s = some s') :
    s.write = none ∧ l % 4 = 0 ∧ s' = { s with
      writeFlash := writeFlashCopied data dataLen s.writeFlash
      active := true
      messagesRemaining := r
      write := some ⟨areaBase s.bootMode + data.get32 0, 0, l⟩ } := by
  rw [writeFlashPacket_eq hmode hle hl hlt, if_pos hin] at h
  obtain ⟨hidle, hmod, rfl⟩ := flashWrite_eq_some h
  exact ⟨hidle, by omega, rfl⟩

/-- **A packet that is confined is one that is handled.** -/
theorem WriteFlashConfined.handled (hge : -6 ≤ dataLen) (hmode : s.bootMode ≠ .unknown)
    (h : WriteFlashConfined H data dataLen r s es) : WriteFlashHandled H data dataLen s es := by
  intro hle
  have hcopy := h.copy
  unfold writeFlashPacketWrites writeFlashCmdWrites at hcopy
  rw [if_neg (by omega), writeArea_eq hmode] at hcopy
  dsimp only at hcopy
  rw [Span.allWithin_cons] at hcopy
  have hsize : sizeT (dataLen - 4) ≤ BLK_SIZE := by
    have hin := hcopy.1
    change 0 + sizeT (dataLen - 4) ≤ BLK_SIZE at hin
    omega
  have hblk : BLK_SIZE = 16384 := rfl
  have hnonneg : 0 ≤ dataLen - 4 := by
    by_contra hneg
    have hlarge := lt_sizeT_of_neg (n := dataLen - 4) (by omega) (by omega)
    omega
  obtain ⟨l, hl⟩ := Int.eq_ofNat_of_zero_le hnonneg
  have hpayload : hcLink.cmdPacketPayloadSize = 16391 := rfl
  have hlt : l < 2 ^ 16 := by omega
  have hfit : l ≤ BLK_SIZE := by
    rw [hl, sizeT_of_nonneg (by omega) (by omega)] at hsize
    omega
  -- a packet that is not valid does not pass the check
  have hreject : ¬ ValidWrite s.bootMode data dataLen → ¬ InArea s.bootMode data l := by
    intro hinvalid hin
    obtain ⟨s', hs', hanswers, -, -⟩ := h.invalid hinvalid
    obtain ⟨-, -, rfl⟩ := not_rejected hmode hle hl hlt hin hs'
    exact absurd (congrArg List.length hanswers) (by rw [List.length_cons]; dsimp only; omega)
  rw [validWrite_iff hl] at hreject
  unfold InArea at hreject
  refine ⟨hnonneg, by omega, ?_, ?_, ?_⟩
  · intro hzero
    obtain rfl : l = 0 := by omega
    have hnot := hreject (by omega)
    omega
  · intro hodd
    have hnot := hreject (by omega)
    omega
  · intro hvalid
    obtain ⟨now, later, s'', rfl, hrun, hwrite, -, hprogrammed⟩ := h.valid hvalid
    obtain ⟨h₁, h₂, h₃, h₄⟩ := (validWrite_iff hl).mp hvalid
    obtain ⟨s', hs', hevents⟩ := Option.bind_eq_some_iff.mp hrun
    have hin : InArea s.bootMode data l := ⟨by omega, h₄, by omega⟩
    obtain ⟨hidle, -, rfl⟩ := not_rejected hmode hle hl hlt hin hs'
    obtain ⟨n, rfl⟩ : ∃ n, l = 4 * n := ⟨l / 4, by omega⟩
    have hn : ((dataLen - 4) / 4).toNat = n := by omega
    obtain ⟨hbase, hlen, hend⟩ := area_bounds hmode
    rw [hn] at hprogrammed ⊢
    have hwriting : Writing s.bootMode data n 0 s.programmed { s with
        writeFlash := writeFlashCopied data dataLen s.writeFlash
        active := true
        messagesRemaining := r
        write := some ⟨areaBase s.bootMode + data.get32 0, 0, (4 * n : Nat)⟩ } := by
      refine ⟨rfl, ?_, rfl⟩
      unfold writeAt
      congr 2
    exact ⟨hidle, undisturbed_of_events hmode (by omega) (by omega) hwriting hevents hwrite
      hprogrammed⟩

/-- **A packet that is handled is confined.** -/
theorem WriteFlashHandled.confined (hmode : s.bootMode ≠ .unknown)
    (h : WriteFlashHandled H data dataLen s es) : WriteFlashConfined H data dataLen r s es := by
  obtain ⟨hbase, hlen, hend⟩ := area_bounds hmode
  have hpayload : hcLink.cmdPacketPayloadSize = 16391 := rfl
  have hblk : BLK_SIZE = 16384 := rfl
  have hinside : ValidWrite s.bootMode data dataLen →
      ∀ p ∈ packetWords s.bootMode data ((dataLen - 4) / 4).toNat,
        areaBase s.bootMode ≤ p.1 ∧ p.1 + 4 ≤ areaBase s.bootMode + areaLen s.bootMode := by
    rintro ⟨-, -, hwords, hrange⟩ p hp
    obtain ⟨k, hk, rfl⟩ := List.mem_map.mp hp
    rw [List.mem_range] at hk
    dsimp only
    omega
  by_cases hle : dataLen ≤ hcLink.cmdPacketPayloadSize
  · obtain ⟨hnonneg, hfit, hempty, hodd, hgo⟩ := h hle
    obtain ⟨l, hl⟩ := Int.eq_ofNat_of_zero_le hnonneg
    have heq := @writeFlashPacket_eq data dataLen r s l hmode hle hl (by omega)
    refine ⟨?_, ?_, hinside, ?_⟩
    · unfold writeFlashPacketWrites writeFlashCmdWrites
      rw [if_neg (by omega), writeArea_eq hmode]
      dsimp only
      rw [Span.allWithin_cons]
      refine ⟨?_, Span.allWithin_nil⟩
      change 0 + sizeT (dataLen - 4) ≤ BLK_SIZE
      rw [hl, sizeT_of_nonneg (by omega) (by omega)]
      omega
    · intro hvalid
      obtain ⟨hidle, hundisturbed⟩ := hgo hvalid
      obtain ⟨h₁, h₂, h₃, h₄⟩ := (validWrite_iff hl).mp hvalid
      obtain ⟨n, rfl⟩ : ∃ n, l = 4 * n := ⟨l / 4, by omega⟩
      have hn : ((dataLen - 4) / 4).toNat = n := by omega
      rw [hn] at hundisturbed ⊢
      have hstart : writeFlashPacket data dataLen r s = some { s with
          writeFlash := writeFlashCopied data dataLen s.writeFlash
          active := true
          messagesRemaining := r
          write := some (writeAt s.bootMode data n 0) } := by
        rw [heq, if_pos ⟨by omega, h₄, by omega⟩]
        unfold flashWrite
        dsimp only
        rw [hidle, if_pos ⟨rfl, by omega⟩]
        unfold writeAt
        rw [Nat.mul_zero, Nat.add_zero]
        congr 4
      obtain ⟨now, later, s', rfl, hevents, hdone⟩ := hundisturbed.written hmode (by omega)
        (by omega) (s := { s with
          writeFlash := writeFlashCopied data dataLen s.writeFlash
          active := true
          messagesRemaining := r
          write := some (writeAt s.bootMode data n 0) }) ⟨rfl, rfl, rfl⟩ rfl
      exact ⟨now, later, s', rfl, Option.bind_eq_some_iff.mpr ⟨_, hstart, hevents⟩, hdone⟩
    · intro hinvalid
      rw [validWrite_iff hl] at hinvalid
      have hout : ¬ InArea s.bootMode data l := by
        unfold InArea
        omega
      rw [if_neg hout] at heq
      exact ⟨_, heq, rfl, rfl, rfl⟩
  · have hreject := @writeFlashPacket_rejected data dataLen s hmode r fun hle' => absurd hle' hle
    refine ⟨?_, ?_, hinside, fun _ => ⟨_, hreject, rfl, rfl, rfl⟩⟩
    · unfold writeFlashPacketWrites
      rw [if_pos (by omega)]
      exact Span.allWithin_nil
    · rintro ⟨-, hblock, hwords, -⟩
      omega

/-- **WRITE_FLASH is confined exactly for the packets that are handled**, whatever is received
    while the write goes on. -/
theorem write_flash_confined (hge : -6 ≤ dataLen) (hmode : s.bootMode ≠ .unknown) :
    WriteFlashConfined H data dataLen r s es ↔ WriteFlashHandled H data dataLen s es :=
  ⟨WriteFlashConfined.handled hge hmode, WriteFlashHandled.confined hmode⟩

end Packets

/-! ### Two packets -/

/-- A device in bootloader mode whose driver is idle. -/
def idleWriter : FlashWriter where
  bootMode := .bootloader
  writeFlash := fun _ => 0
  active := false
  messagesRemaining := 0
  write := none
  programmed := []
  answers := []

/-- Twenty words for the start of the area. -/
def twentyWords : Mem := fun a => if a < 4 then 0 else UInt8.ofNat a

/-- They take two turns, between which a packet without data for an address outside is
    rejected. -/
theorem write_flash_confined_twenty : WriteFlashConfined (fun _ _ => true) twentyWords 84 0
    idleWriter [.turn, .packet (fun _ => 0xff) 4 0, .turn] := by
  refine (write_flash_confined (by decide) (by decide)).mpr fun _ => ?_
  refine ⟨by decide, by decide, by decide, by decide, fun _ => ⟨rfl, ?_⟩⟩
  have hfirst : ∀ j < 20, (writeFlashCopied twentyWords 84 idleWriter.writeFlash).get32 (4 * j) =
      twentyWords.get32 (4 + 4 * j) := by decide
  have hsecond : ∀ j < 20, (packetLeaves (fun _ => 0xff) 4
      (writeFlashCopied twentyWords 84 idleWriter.writeFlash)).get32 (4 * j) =
      twentyWords.get32 (4 + 4 * j) := by decide
  refine .turn (by decide) (fun j _ hj => ⟨hfirst j (Nat.lt_trans hj (by decide)), rfl⟩) ?_
  refine .packet (by decide) (fun _ => by decide) ?_
  exact .turn (by decide) (fun j _ hj => ⟨hsecond j (Nat.lt_of_lt_of_le hj (by decide)), rfl⟩)
    (.ended (by decide))

/-- One byte for the area halts the device. -/
theorem odd_write_halts : ¬ ∀ (H : Nat → Nat → Bool) (data : Mem) (dataLen : Int) (r : Nat)
    (s : FlashWriter) (es : List FlashEvent), -6 ≤ dataLen → s.bootMode ≠ .unknown →
      WriteFlashConfined H data dataLen r s es := by
  intro h
  have hconfined := h (fun _ _ => true) (fun _ => 0) 5 0 idleWriter [] (by decide) (by decide)
  obtain ⟨s', hs', -⟩ := hconfined.invalid fun hvalid => absurd hvalid.some_data (by decide)
  have hin : InArea idleWriter.bootMode (fun _ => 0) 1 := by decide
  exact absurd (not_rejected (by decide) (by decide) rfl (by decide) hin hs').2.1 (by decide)

end SignetBase.FirmwareHc

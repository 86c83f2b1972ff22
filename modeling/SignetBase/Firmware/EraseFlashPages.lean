/-
  SignetBase/Firmware/EraseFlashPages.lean
  ========================================
  **The erases of ERASE_FLASH_PAGES.**

  `erase_flash_pages_cmd` copies the list of pages into `cmd_data` and starts the first
  erase; every completion counts `index` up, and the operation is over when `index` meets
  `num_pages`.  Nothing ever reads the list: what is erased is page `index` itself, so a
  list of `n` pages erases the first `n` pages of the flash, and the empty list, whose end
  test was missed by the first completion, does not end before `index` wraps.  A list with a
  page out of range is answered OKAY.  The command does what it is for just when an idle
  driver gets a list that names the pages `0 … n - 1` (`pages_erased`).
-/
import SignetBase.Firmware.FlashRuns
import SignetBase.Firmware.PacketSafety

namespace SignetBase.Firmware

open Control

variable (P : Platform)

variable {s t u : Dev} {n k : Nat}

/-! ### What the command is for -/

/-- The first address of page `p`. -/
def flashPage (p : Nat) : Nat := FLASH_MEM_BASE_ADDR + FLASH_PAGE_SIZE * p

/-- The address is in page `p`. -/
def inPage (p a : Nat) : Prop := flashPage p ≤ a ∧ a < flashPage p + FLASH_PAGE_SIZE

instance (p a : Nat) : Decidable (inPage p a) := inferInstanceAs (Decidable (_ ∧ _))

/-- The list of pages in the packet. -/
def listedPages (s : Dev) : List Nat :=
  ((packetData s).read 0 (packetDataLen s.cmdPacketBuf).toNat).map UInt8.toNat

/-- `cmd_packet_buf` holds an ERASE_FLASH_PAGES packet of a length that the protocol allows, and
    the device takes firmware. -/
structure ErasePacket (s : Dev) : Prop where
  state : s.deviceState = .firmwareUpdate
  cmd : packetCmd s.cmdPacketBuf = .eraseFlashPages
  nonneg : 0 ≤ packetDataLen s.cmdPacketBuf
  le : packetDataLen s.cmdPacketBuf ≤ CMD_PACKET_PAYLOAD_SIZE

/-- All pages are pages of the flash. -/
def PagesInRange (pages : List Nat) : Prop := ∀ p ∈ pages, p < FLASH_MEM_SIZE / FLASH_PAGE_SIZE

instance (pages : List Nat) : Decidable (PagesInRange pages) :=
  inferInstanceAs (Decidable (∀ p ∈ pages, _))

/-- The device after `n` erases have ended well. -/
def afterErases (n : Nat) (t : Dev) : Dev := (flashHandler P true)^[n] t

/-- The requests that the driver took on the way from `s` to `u`. -/
def startedRequests (s u : Dev) : List FlashRequest :=
  (newRequests s u).filter (·.started)

/-- From the packet on, which leads from `s` to `t`, one listed page after the other is erased,
    and after as many erases as there are entries the device takes firmware again. -/
structure ErasesListed (s t : Dev) (pages : List Nat) : Prop where
  underWay : ∀ k < pages.length, (afterErases P k t).deviceState = .erasingPages
  returns : (afterErases P pages.length t).deviceState = .firmwareUpdate
  ends : (afterErases P pages.length t).flashState = .idle
  number : (startedRequests s (afterErases P pages.length t)).length = pages.length
  only : ∀ r ∈ startedRequests s (afterErases P pages.length t),
    r.src = none ∧ ∃ p ∈ pages, r.dest = flashPage p
  all : ∀ p ∈ pages, ∃ r ∈ startedRequests s (afterErases P pages.length t),
    r.dest = flashPage p
  flash : ∀ a, (afterErases P pages.length t).flash a =
    if ∃ p ∈ pages, inPage p a then 0xff else s.flash a

/-- Nothing is erased, and the answer is not OKAY. -/
structure RefusesErase (s t : Dev) : Prop where
  requests : t.flashRequests = s.flashRequests
  driver : t.toFlashDriver = s.toFlashDriver
  answers : ∀ r : Response, .response r ∈ newOutputs s t → r.resp ≠ .okay

/-- The listed pages are erased, or the list is refused. -/
def PagesErased (s : Dev) : Prop :=
  ∃ t, cmdPacketRecv P s = some t ∧
    if PagesInRange (listedPages s) then ErasesListed P s t (listedPages s) else RefusesErase s t

/-! ### The packet -/

section Packet

variable {P}

theorem length_listedPages : (listedPages s).length = (packetDataLen s.cmdPacketBuf).toNat := by
  unfold listedPages
  rw [List.length_map, Mem.length_read]

theorem ErasePacket.length_lt (hp : ErasePacket s) : (listedPages s).length < 65536 := by
  have hle := hp.le
  have hmax : CMD_PACKET_PAYLOAD_SIZE < 65536 := by decide
  rw [length_listedPages]
  omega

theorem any_outOfRange (s : Dev) :
    (((packetData s).read 0 (packetDataLen s.cmdPacketBuf).toNat).any fun p =>
      p.toNat ≥ FLASH_MEM_SIZE / FLASH_PAGE_SIZE) = true ↔ ¬ PagesInRange (listedPages s) := by
  rw [List.any_eq_true]
  unfold PagesInRange listedPages
  constructor
  · rintro ⟨p, hmem, hp⟩ hall
    have hlt := hall _ (List.mem_map_of_mem hmem)
    exact absurd (of_decide_eq_true hp) (Nat.not_le.mpr hlt)
  · intro hnot
    push Not at hnot
    obtain ⟨q, hmem, hq⟩ := hnot
    obtain ⟨p, hp, rfl⟩ := List.mem_map.mp hmem
    exact ⟨p, hp, decide_eq_true hq⟩

theorem ErasePacket.received (hp : ErasePacket s) :
    cmdPacketRecv P s = some (countIteration (packetMessagesRemaining s.cmdPacketBuf)
      (eraseFlashPagesCmd (packetData s) (packetDataLen s.cmdPacketBuf) (activate s))) := by
  refine cmdPacketRecv_of_handled ?_ hp.le ?_
  · change packetCmd s.cmdPacketBuf ∉ _
    rw [hp.cmd]
    decide
  · unfold dispatch stateFunction
    have hstate : (activate s).deviceState = .firmwareUpdate := hp.state
    have hcmd : packetCmd (activate s).cmdPacketBuf = .eraseFlashPages := hp.cmd
    rw [hstate, hcmd]
    rfl

/-- `cmd_data` after the list was copied. -/
def eraseData (s : Dev) : Mem :=
  (((activate s).cmdData.put16 CmdData.eraseFlashPagesIndex 0).put16
    CmdData.eraseFlashPagesNumPages (packetDataLen s.cmdPacketBuf).toNat).write
      CmdData.eraseFlashPagesPages
      ((packetData s).read 0 (packetDataLen s.cmdPacketBuf).toNat)

theorem index_eraseData (s : Dev) : (eraseData s).get16 CmdData.eraseFlashPagesIndex = 0 := by
  unfold eraseData
  rw [Mem.get16_write_disjoint _ (.inl (by decide)),
    Mem.get16_put16_disjoint _ _ (.inl (by decide)), Mem.get16_put16]

theorem numPages_eraseData (s : Dev) :
    (eraseData s).get16 CmdData.eraseFlashPagesNumPages =
      (packetDataLen s.cmdPacketBuf).toNat % 65536 := by
  unfold eraseData
  rw [Mem.get16_write_disjoint _ (.inl (by decide)), Mem.get16_put16]

/-- The device once the first erase was asked for. -/
def eraseAsked (s : Dev) : Dev := flashWritePage (flashPage 0) none 0
  { activate s with cmdData := eraseData s }

theorem activeCmd_eraseAsked (hp : ErasePacket s) :
    (eraseAsked s).activeCmd = some .eraseFlashPages := by
  have hcmd : some (packetCmd s.cmdPacketBuf) = some Command.eraseFlashPages :=
    congrArg some hp.cmd
  unfold eraseAsked flashWritePage
  split <;> exact hcmd

/-- The command is answered, or waits for more packets. -/
theorem activeCmd_eraseAnswered (hp : ErasePacket s) (mx : List Int) :
    (finishCommandResp .okay (resetProgress .erasingPages mx (eraseAsked s))).activeCmd = none ∨
      (finishCommandResp .okay (resetProgress .erasingPages mx (eraseAsked s))).activeCmd =
        some .eraseFlashPages := by
  change (if _ then none else (eraseAsked s).activeCmd) = none ∨
    (if _ then none else (eraseAsked s).activeCmd) = some .eraseFlashPages
  rw [activeCmd_eraseAsked hp]
  split
  · exact .inl rfl
  · exact .inr rfl

/-- A list in range is answered OKAY before a page is erased. -/
theorem eraseFlashPagesCmd_of_inRange (hp : ErasePacket s) (hin : PagesInRange (listedPages s)) :
    eraseFlashPagesCmd (packetData s) (packetDataLen s.cmdPacketBuf) (activate s) =
      finishCommandResp .okay (resetProgress .erasingPages
        [((eraseData s).get16 CmdData.eraseFlashPagesNumPages : Int)] (eraseAsked s)) := by
  have hge := hp.nonneg
  unfold eraseFlashPagesCmd
  dsimp only
  rw [if_neg (fun h => (any_outOfRange s).mp h hin), if_neg (by omega), Mem.length_read]
  change finishCommandResp .okay (enterProgressingState .erasingPages
    [((flashWritePage (FLASH_MEM_BASE_ADDR + FLASH_PAGE_SIZE *
      (eraseData s).get16 CmdData.eraseFlashPagesIndex) none 0
      { activate s with cmdData := eraseData s }).cmdData.get16
        CmdData.eraseFlashPagesNumPages : Int)] (flashWritePage (FLASH_MEM_BASE_ADDR +
      FLASH_PAGE_SIZE * (eraseData s).get16 CmdData.eraseFlashPagesIndex) none 0
      { activate s with cmdData := eraseData s })) = _
  rw [index_eraseData]
  change finishCommandResp .okay (enterProgressingState .erasingPages
    [((eraseAsked s).cmdData.get16 CmdData.eraseFlashPagesNumPages : Int)] (eraseAsked s)) = _
  have hdata : (eraseAsked s).cmdData = eraseData s := by
    unfold eraseAsked flashWritePage
    split <;> rfl
  rw [hdata]
  unfold enterProgressingState
  rw [getProgressCheck_of_ne]
  change (eraseAsked s).activeCmd ≠ some .getProgress
  rw [activeCmd_eraseAsked hp]
  decide

end Packet

/-! ### The run of completions -/

/-- The erase of page `k`. -/
def eraseRequest (k : Nat) : FlashRequest := ⟨flashPage k, none, [], true⟩

/-- Page `k` is being erased, and the pages before it are; `index` is `k`, and `n` are to be
    erased. -/
structure ErasingPage (s : Dev) (n k : Nat) (t : Dev) : Prop where
  state : t.deviceState = .erasingPages
  cmd : t.activeCmd = none ∨ t.activeCmd = some .eraseFlashPages
  busy : t.flashState = .erasing
  data : t.flashWriteData = none
  addr : t.flashWriteAddr = flashPage k
  index : t.cmdData.get16 CmdData.eraseFlashPagesIndex = k
  numPages : t.cmdData.get16 CmdData.eraseFlashPagesNumPages = n
  requests : t.flashRequests = ((List.range (k + 1)).map eraseRequest).reverse ++ s.flashRequests
  flash : ∀ a, t.flash a = if flashPage 0 ≤ a ∧ a < flashPage k then 0xff else s.flash a

/-- The `n` pages are erased, and firmware is taken again. -/
structure ErasedPages (s : Dev) (n : Nat) (t : Dev) : Prop where
  state : t.deviceState = .firmwareUpdate
  idle : t.flashState = .idle
  requests : t.flashRequests = ((List.range n).map eraseRequest).reverse ++ s.flashRequests
  flash : ∀ a, t.flash a = if flashPage 0 ≤ a ∧ a < flashPage n then 0xff else s.flash a

theorem pageAddr_flashPage (k : Nat) : pageAddr (flashPage k) = flashPage k := by
  unfold pageAddr flashPage FLASH_MEM_BASE_ADDR FLASH_PAGE_SIZE
  omega

theorem flashPage_succ (k : Nat) : flashPage (k + 1) = flashPage k + FLASH_PAGE_SIZE := by
  unfold flashPage
  rw [Nat.mul_add, Nat.mul_one, Nat.add_assoc]

theorem flashPage_le (k : Nat) : flashPage 0 ≤ flashPage k := by
  unfold flashPage
  exact Nat.add_le_add_left (Nat.mul_le_mul_left _ (Nat.zero_le k)) _

/-- The erase of page `k` extends the erased part of the flash by that page. -/
theorem ErasingPage.flash_erased (h : ErasingPage s n k t) (a : Nat) :
    (pageErased t).flash a = if flashPage 0 ≤ a ∧ a < flashPage (k + 1) then 0xff else s.flash a := by
  have hle := flashPage_le k
  change (t.flash.fill (pageAddr t.flashWriteAddr) FLASH_PAGE_SIZE 0xff) a = _
  rw [h.addr, pageAddr_flashPage, flashPage_succ]
  unfold Mem.fill
  rw [h.flash a]
  by_cases hpage : flashPage k ≤ a ∧ a < flashPage k + FLASH_PAGE_SIZE
  · rw [if_pos hpage, if_pos ⟨by omega, hpage.2⟩]
  · rw [if_neg hpage]
    by_cases hbefore : flashPage 0 ≤ a ∧ a < flashPage k
    · rw [if_pos hbefore, if_pos ⟨hbefore.1, by omega⟩]
    · rw [if_neg hbefore, if_neg (by omega)]

/-- What a completion does to a device that erases pages. -/
theorem flashHandler_erasing (hstate : t.deviceState = .erasingPages)
    (hcmd : t.activeCmd = none ∨ t.activeCmd = some .eraseFlashPages)
    (hbusy : t.flashState = .erasing) (hdata : t.flashWriteData = none) :
    flashHandler P true t =
      let next := (t.cmdData.get16 CmdData.eraseFlashPagesIndex + 1) % 65536
      let t' : Dev := { pageErased t with
        flashState := .idle
        cmdData := t.cmdData.put16 CmdData.eraseFlashPagesIndex next
        progressLevel := fun i => if i = 0 then next else t.progressLevel i }
      if next = t.cmdData.get16 CmdData.eraseFlashPagesNumPages then
        resetProgress .firmwareUpdate [] t'
      else flashWritePage (flashPage next) none 0 t' := by
  have hcheck : ∀ t' : Dev, t'.activeCmd = t.activeCmd → getProgressCheck t' = t' := by
    intro t' ht'
    refine getProgressCheck_of_ne _ ?_
    rw [ht']
    rcases hcmd with h | h <;> rw [h] <;> decide
  have hserves : ∀ t' : Dev, t'.activeCmd = t.activeCmd → commandWriteComplete P t' = t' := by
    intro t' ht'
    refine commandWriteComplete_of_none P ?_
    rw [ht']
    rcases hcmd with h | h <;> rw [h] <;> rfl
  have hstage : ∀ t' : Dev, t'.deviceState = t.deviceState →
      stateWriteComplete P t' = erasingPagesWriteComplete t' := by
    intro t' ht'
    unfold stateWriteComplete
    rw [ht', hstate]
  have hnone : ¬ ((pageErased t).flashWriteData.isSome = true) := by
    change ¬ (t.flashWriteData.isSome = true)
    rw [hdata]
    decide
  have hnum : ∀ v, (t.cmdData.put16 CmdData.eraseFlashPagesIndex v).get16
      CmdData.eraseFlashPagesNumPages = t.cmdData.get16 CmdData.eraseFlashPagesNumPages :=
    fun v => Mem.get16_put16_disjoint _ _ (.inr (by decide))
  have hstep : flashHandler P true t =
      commandWriteComplete P (erasingPagesWriteComplete
        { pageErased t with flashState := .idle }) := by
    unfold flashHandler flashWriteComplete
    dsimp only
    rw [if_pos hbusy, if_pos rfl, if_neg hnone, hstage]
    rfl
  rw [hstep]
  unfold erasingPagesWriteComplete
  dsimp only
  rw [hcheck]
  · change commandWriteComplete P (if _ = (t.cmdData.put16 CmdData.eraseFlashPagesIndex _).get16
      CmdData.eraseFlashPagesNumPages then _ else _) = _
    rw [hnum]
    change commandWriteComplete P (if (t.cmdData.get16 CmdData.eraseFlashPagesIndex + 1) % 65536 =
      t.cmdData.get16 CmdData.eraseFlashPagesNumPages then _ else _) = _
    split
    · unfold enterState enterProgressingState
      rw [hcheck, hserves]
      all_goals rfl
    · rw [hserves]
      · rfl
      · unfold flashWritePage
        split <;> rfl
  · rfl

variable {P}

/-- The completion of the last page ends the operation. -/
theorem ErasingPage.last (h : ErasingPage s n k t) (hlast : k + 1 = n) (hlt : n < 65536) :
    ErasedPages s n (flashHandler P true t) := by
  have hmod : (k + 1) % 65536 = n := by omega
  rw [flashHandler_erasing P h.state h.cmd h.busy h.data]
  dsimp only
  rw [if_pos (by rw [h.index, h.numPages, hmod])]
  constructor
  · rfl
  · rfl
  · rw [← hlast]
    exact h.requests
  · rw [← hlast]
    exact h.flash_erased

/-- The completion of any other page starts the next one. -/
theorem ErasingPage.next (h : ErasingPage s n k t) (hnext : k + 1 ≠ n) (hlt : k + 1 < 65536) :
    ErasingPage s n (k + 1) (flashHandler P true t) := by
  have hmod : (k + 1) % 65536 = k + 1 := Nat.mod_eq_of_lt hlt
  rw [flashHandler_erasing P h.state h.cmd h.busy h.data]
  dsimp only
  rw [h.index, hmod, if_neg (by rw [h.numPages]; exact hnext)]
  unfold flashWritePage
  rw [if_pos rfl]
  constructor
  · exact h.state
  · exact h.cmd
  · rfl
  · rfl
  · rfl
  · change (t.cmdData.put16 CmdData.eraseFlashPagesIndex (k + 1)).get16 _ = k + 1
    rw [Mem.get16_put16, hmod]
  · change (t.cmdData.put16 CmdData.eraseFlashPagesIndex (k + 1)).get16 _ = n
    rw [Mem.get16_put16_disjoint _ _ (.inr (by decide)), h.numPages]
  · change eraseRequest (k + 1) :: t.flashRequests = _
    rw [h.requests, List.range_succ (n := k + 1), List.map_append, List.reverse_append]
    rfl
  · exact h.flash_erased

/-- After `k` completions page `k` is being erased. -/
theorem ErasingPage.run (h : ErasingPage s n 0 t) (hlt : n < 65536) (hk : k < n) :
    ErasingPage s n k (afterErases P k t) := by
  induction k with
  | zero => exact h
  | succ k ih =>
    unfold afterErases
    rw [Function.iterate_succ_apply']
    exact (ih (by omega)).next (by omega) (by omega)

/-- **What the completions do**: the first `n` pages of the flash are erased, whatever pages were
    asked for. -/
theorem ErasingPage.erased (h : ErasingPage s n 0 t) (hlt : n < 65536) (hpos : 0 < n) :
    ErasedPages s n (afterErases P n t) := by
  obtain ⟨m, rfl⟩ := Nat.exists_eq_add_of_lt hpos
  rw [Nat.zero_add] at h hlt ⊢
  unfold afterErases
  rw [Function.iterate_succ_apply']
  exact (h.run hlt (Nat.lt_succ_self m)).last rfl hlt

/-- An idle driver starts with page 0. -/
theorem erasingPage_start (hp : ErasePacket s) (hidle : s.flashState = .idle) (m : Nat)
    (mx : List Int) :
    ErasingPage s (listedPages s).length 0
      (countIteration m (finishCommandResp .okay
        (resetProgress .erasingPages mx (eraseAsked s)))) := by
  have hbare : ErasingPage s (listedPages s).length 0
      (finishCommandResp .okay (resetProgress .erasingPages mx (eraseAsked s))) := by
    have hasked : eraseAsked s = { ({ activate s with cmdData := eraseData s } : Dev).emit
          (.flashWritePage (flashPage 0) none 0 [] true) with
        flashWriteData := none
        flashWriteAddr := flashPage 0
        flashWriteCount := doubleWords 0
        flashState := .erasing } := by
      unfold eraseAsked flashWritePage
      rw [if_pos (show (activate s).flashState = .idle from hidle)]
      rfl
    have hcmd := activeCmd_eraseAnswered hp mx
    rw [hasked] at hcmd ⊢
    constructor
    · rfl
    · exact hcmd
    · rfl
    · rfl
    · rfl
    · exact index_eraseData s
    · rw [length_listedPages]
      refine (numPages_eraseData s).trans (Nat.mod_eq_of_lt ?_)
      rw [← length_listedPages]
      exact hp.length_lt
    · rfl
    · intro a
      rw [if_neg (by omega)]
      rfl
  unfold countIteration
  split
  · exact ⟨hbare.state, hbare.cmd, hbare.busy, hbare.data, hbare.addr, hbare.index, hbare.numPages,
      hbare.requests, hbare.flash⟩
  · exact hbare

/-! ### A driver that is busy -/

theorem newRequests_of_append {l : List FlashRequest}
    (h : u.flashRequests = l ++ s.flashRequests) : newRequests s u = l := by
  unfold newRequests
  rw [h, List.length_append, Nat.add_sub_cancel, List.take_left]

/-- The operation goes on, or is over. -/
structure ErasingOn (t : Dev) : Prop where
  state : t.deviceState = .erasingPages ∨ t.deviceState = .firmwareUpdate
  cmd : t.activeCmd = none ∨ t.activeCmd = some .eraseFlashPages

/-- Where the driver is idle the last completion started nothing. -/
def underWayCount (t : Dev) : Nat := if t.flashState = .idle then 0 else 1

/-- A completion starts at most one request, and none if the driver is idle afterwards. -/
theorem ErasingOn.step (h : ErasingOn t) :
    ErasingOn (flashHandler P true t) ∧
      ∃ l, (flashHandler P true t).flashRequests = l ++ t.flashRequests ∧
        (l.filter (·.started)).length ≤ underWayCount (flashHandler P true t) := by
  by_cases hbusy : t.flashState = .erasing
  · by_cases hsome : t.flashWriteData.isSome = true
    · -- the page is to be written: the completion comes later
      have heq : flashHandler P true t = { pageErased t with flashState := .writing } := by
        unfold flashHandler
        dsimp only
        rw [if_pos hbusy, if_pos rfl, if_pos (show (pageErased t).flashWriteData.isSome = true
          from hsome)]
      rw [heq]
      exact ⟨⟨h.state, h.cmd⟩, [], rfl, Nat.zero_le _⟩
    · have hdata : t.flashWriteData = none := by
        rw [Bool.not_eq_true, Option.isSome_eq_false_iff, Option.isNone_iff_eq_none] at hsome
        exact hsome
      rcases h.state with hstate | hstate
      · rw [flashHandler_erasing P hstate h.cmd hbusy hdata]
        dsimp only
        split
        · exact ⟨⟨.inr rfl, h.cmd⟩, [], rfl, Nat.zero_le _⟩
        · unfold flashWritePage
          rw [if_pos rfl]
          exact ⟨⟨.inl hstate, h.cmd⟩, [eraseRequest _], rfl, Nat.le_refl 1⟩
      · have heq : flashHandler P true t = { pageErased t with flashState := .idle } := by
          have hnone : ¬ ((pageErased t).flashWriteData.isSome = true) := hsome
          unfold flashHandler flashWriteComplete
          dsimp only
          rw [if_pos hbusy, if_pos rfl, if_neg hnone, stateWriteComplete_of_none P,
            commandWriteComplete_of_none P]
          · change commandOperation t.activeCmd = none
            rcases h.cmd with hc | hc <;> rw [hc] <;> rfl
          · change stateOperation t.deviceState = none
            rw [hstate]
            rfl
        rw [heq]
        exact ⟨⟨.inr hstate, h.cmd⟩, [], rfl, Nat.zero_le _⟩
  · have heq : flashHandler P true t = t := if_neg hbusy
    rw [heq]
    exact ⟨h, [], rfl, Nat.zero_le _⟩

/-- Of `n` completions the first one belongs to what the driver was busy with. -/
theorem ErasingOn.run (h : ErasingOn t) (n : Nat) :
    ErasingOn (afterErases P (n + 1) t) ∧
      ∃ l, (afterErases P (n + 1) t).flashRequests = l ++ t.flashRequests ∧
        (l.filter (·.started)).length ≤ n + underWayCount (afterErases P (n + 1) t) := by
  induction n with
  | zero =>
    obtain ⟨hon, l, hl, hle⟩ := h.step (P := P)
    exact ⟨hon, l, hl, Nat.le_trans hle (Nat.le_add_left _ _)⟩
  | succ n ih =>
    obtain ⟨hon, l, hl, hle⟩ := ih
    obtain ⟨hon', l', hl', hle'⟩ := hon.step (P := P)
    have heq : afterErases P (n + 2) t = flashHandler P true (afterErases P (n + 1) t) := by
      unfold afterErases
      rw [Function.iterate_succ_apply']
    have hone : underWayCount (afterErases P (n + 1) t) ≤ 1 := by
      unfold underWayCount
      split <;> omega
    rw [heq]
    refine ⟨hon', l' ++ l, ?_, ?_⟩
    · rw [hl', hl, List.append_assoc]
    · rw [List.filter_append, List.length_append]
      omega

/-- A busy driver drops the first request. -/
theorem erasingOn_start (hp : ErasePacket s) (hbusy : s.flashState ≠ .idle) (m : Nat)
    (mx : List Int) (ht : t = countIteration m (finishCommandResp .okay
      (resetProgress .erasingPages mx (eraseAsked s)))) :
    ErasingOn t ∧ t.flashRequests = ⟨flashPage 0, none, [], false⟩ :: s.flashRequests := by
  have hasked : eraseAsked s = ({ activate s with cmdData := eraseData s } : Dev).emit
      (.flashWritePage (flashPage 0) none 0 [] false) := by
    unfold eraseAsked flashWritePage
    rw [if_neg (show ¬ (activate s).flashState = .idle from hbusy)]
    rfl
  have hcmd := activeCmd_eraseAnswered hp mx
  have hreq : (finishCommandResp .okay (resetProgress .erasingPages mx (eraseAsked s))).flashRequests
      = ⟨flashPage 0, none, [], false⟩ :: s.flashRequests := by
    rw [hasked]
    rfl
  rw [ht]
  unfold countIteration
  split
  · exact ⟨⟨.inl rfl, hcmd⟩, hreq⟩
  · exact ⟨⟨.inl rfl, hcmd⟩, hreq⟩

/-! ### The exact condition -/

theorem ErasedPages.started (h : ErasedPages s n u) :
    startedRequests s u = ((List.range n).map eraseRequest).reverse := by
  unfold startedRequests
  rw [newRequests_of_append h.requests, List.filter_eq_self]
  intro r hr
  obtain ⟨k, -, rfl⟩ := List.mem_map.mp (List.mem_reverse.mp hr)
  rfl

theorem flashPage_inj {p q : Nat} (h : flashPage p = flashPage q) : p = q := by
  unfold flashPage FLASH_PAGE_SIZE at h
  omega

/-- The first `n` pages of the flash. -/
theorem inPage_first {a : Nat} :
    (∃ p < n, inPage p a) ↔ flashPage 0 ≤ a ∧ a < flashPage n := by
  constructor
  · rintro ⟨p, hp, hle, hlt⟩
    refine ⟨Nat.le_trans (flashPage_le p) hle, Nat.lt_of_lt_of_le hlt ?_⟩
    unfold flashPage FLASH_PAGE_SIZE
    omega
  · rintro ⟨hle, hlt⟩
    refine ⟨(a - FLASH_MEM_BASE_ADDR) / FLASH_PAGE_SIZE, ?_, ?_, ?_⟩
    all_goals
      unfold flashPage FLASH_PAGE_SIZE at *
      omega

/-- Erasing the first pages of the flash is what a list that names them asks for. -/
theorem erasesListed_of_first {pages : List Nat} (h : ErasingPage s pages.length 0 t)
    (hlt : pages.length < 65536) (hpos : 0 < pages.length)
    (hfirst : ∀ p, p ∈ pages ↔ p < pages.length) : ErasesListed P s t pages := by
  have hdone := h.erased (P := P) hlt hpos
  constructor
  · exact fun k hk => (h.run hlt hk).state
  · exact hdone.state
  · exact hdone.idle
  · rw [hdone.started, List.length_reverse, List.length_map, List.length_range]
  · intro r hr
    rw [hdone.started, List.mem_reverse] at hr
    obtain ⟨k, hk, rfl⟩ := List.mem_map.mp hr
    exact ⟨rfl, k, (hfirst k).mpr (List.mem_range.mp hk), rfl⟩
  · intro p hp
    refine ⟨eraseRequest p, ?_, rfl⟩
    rw [hdone.started, List.mem_reverse]
    exact List.mem_map_of_mem (List.mem_range.mpr ((hfirst p).mp hp))
  · intro a
    rw [hdone.flash a]
    refine if_congr ?_ rfl rfl
    rw [← inPage_first]
    exact exists_congr fun p => and_congr_left fun _ => (hfirst p).symm

/-- What the erases show of the list. -/
theorem first_of_erasesListed {pages : List Nat} (h : ErasingPage s pages.length 0 t)
    (hlt : pages.length < 65536) (hlisted : ErasesListed P s t pages) :
    pages ≠ [] ∧ ∀ p, p ∈ pages ↔ p < pages.length := by
  have hpos : 0 < pages.length := by
    by_contra hzero
    have hnil : pages.length = 0 := by omega
    have hret := hlisted.returns
    rw [hnil] at hret
    exact absurd (h.state.symm.trans hret) (by decide)
  have hstarted := (h.erased (P := P) hlt hpos).started
  refine ⟨List.ne_nil_of_length_pos hpos, fun p => ⟨fun hp => ?_, fun hp => ?_⟩⟩
  · obtain ⟨r, hr, hdest⟩ := hlisted.all p hp
    rw [hstarted, List.mem_reverse] at hr
    obtain ⟨k, hk, rfl⟩ := List.mem_map.mp hr
    rw [← flashPage_inj hdest]
    exact List.mem_range.mp hk
  · have hr : eraseRequest p ∈ startedRequests s (afterErases P pages.length t) := by
      rw [hstarted, List.mem_reverse]
      exact List.mem_map_of_mem (List.mem_range.mpr hp)
    obtain ⟨-, q, hq, hdest⟩ := hlisted.only _ hr
    rw [flashPage_inj hdest]
    exact hq

/-- A busy driver does not do all of the erases. -/
theorem not_erasesListed_of_busy {pages : List Nat} (hon : ErasingOn t)
    (hreq : t.flashRequests = ⟨flashPage 0, none, [], false⟩ :: s.flashRequests)
    (hstate : t.deviceState = .erasingPages) : ¬ ErasesListed P s t pages := by
  intro hlisted
  cases hn : pages.length with
  | zero =>
    have hret := hlisted.returns
    rw [hn] at hret
    exact absurd (hstate.symm.trans hret) (by decide)
  | succ n =>
    obtain ⟨-, l, hl, hle⟩ := hon.run (P := P) n
    have hnumber := hlisted.number
    have hends := hlisted.ends
    rw [hn] at hnumber hends
    have hidle : underWayCount (afterErases P (n + 1) t) = 0 := if_pos hends
    have hall : (afterErases P (n + 1) t).flashRequests =
        (l ++ [⟨flashPage 0, none, [], false⟩]) ++ s.flashRequests := by
      rw [hl, hreq, List.append_assoc]
      rfl
    unfold startedRequests at hnumber
    rw [newRequests_of_append hall, List.filter_append, List.length_append] at hnumber
    change _ + 0 = n + 1 at hnumber
    omega

/-- A list out of range is answered OKAY. -/
theorem not_refused (hp : ErasePacket s) (hout : ¬ PagesInRange (listedPages s))
    (ht : cmdPacketRecv P s = some t) : ¬ RefusesErase s t := by
  rw [hp.received] at ht
  cases ht
  have hcmd : eraseFlashPagesCmd (packetData s) (packetDataLen s.cmdPacketBuf) (activate s) =
      finishCommandResp .okay (activate s) := by
    unfold eraseFlashPagesCmd
    dsimp only
    rw [if_pos ((any_outOfRange s).mpr hout)]
  intro hrefused
  have hanswers := hrefused.answers
  rw [hcmd] at hanswers
  unfold newOutputs at hanswers
  rw [outputs_countIteration] at hanswers
  change ∀ r : Response, .response r ∈ (_ :: s.outputs).take ((_ :: s.outputs).length -
    s.outputs.length) → _ at hanswers
  rw [List.length_cons, Nat.add_sub_cancel_left] at hanswers
  exact hanswers _ (List.mem_cons_self) rfl

/-- **The listed pages are erased just when an idle driver gets a list that names the first pages
    of the flash**, as many as it has entries. -/
theorem pages_erased (hp : ErasePacket s) :
    PagesErased P s ↔ s.flashState = .idle ∧ PagesInRange (listedPages s) ∧ listedPages s ≠ [] ∧
      ∀ p, p ∈ listedPages s ↔ p < (listedPages s).length := by
  constructor
  · rintro ⟨t, ht, hdone⟩
    have hin : PagesInRange (listedPages s) := by
      by_contra hout
      rw [if_neg hout] at hdone
      exact not_refused hp hout ht hdone
    rw [if_pos hin] at hdone
    rw [hp.received, eraseFlashPagesCmd_of_inRange hp hin] at ht
    have heq := (Option.some.inj ht).symm
    have hidle : s.flashState = .idle := by
      by_contra hbusy
      obtain ⟨hon, hreq⟩ := erasingOn_start hp hbusy _ _ heq
      refine not_erasesListed_of_busy hon hreq ?_ hdone
      rw [heq]
      unfold countIteration
      split <;> rfl
    refine ⟨hidle, hin, ?_⟩
    refine first_of_erasesListed ?_ hp.length_lt hdone
    rw [heq]
    exact erasingPage_start hp hidle _ _
  · rintro ⟨hidle, hin, hne, hfirst⟩
    refine ⟨countIteration (packetMessagesRemaining s.cmdPacketBuf) (finishCommandResp .okay
      (resetProgress .erasingPages
        [((eraseData s).get16 CmdData.eraseFlashPagesNumPages : Int)] (eraseAsked s))), ?_, ?_⟩
    · rw [hp.received, eraseFlashPagesCmd_of_inRange hp hin]
    · rw [if_pos hin]
      exact erasesListed_of_first (erasingPage_start hp hidle _ _) hp.length_lt
        (List.length_pos_of_ne_nil hne) hfirst

/-! ### Two lists -/

/-- A device that takes firmware and has a packet with the list of pages in its buffer. -/
def eraseDev (pages : Bytes) : Dev :=
  { erasedDev with
    deviceState := .firmwareUpdate
    cmdPacketBuf := Mem.write (fun _ => 0) 0
      ([UInt8.ofNat (CMD_PACKET_HEADER_SIZE + pages.length), 0, 12, 0, 0, 0] ++ pages) }

/-- The first three pages, in another order. -/
theorem erasePacket_three : ErasePacket (eraseDev [2, 0, 1]) := ⟨rfl, rfl, by decide, by decide⟩

theorem listedPages_three : listedPages (eraseDev [2, 0, 1]) = [2, 0, 1] := rfl

theorem pages_erased_three : PagesErased plainPlatform (eraseDev [2, 0, 1]) := by
  refine (pages_erased erasePacket_three).mpr ⟨rfl, ?_, ?_, ?_⟩
  · rw [listedPages_three]
    decide
  · rw [listedPages_three]
    decide
  · intro p
    rw [listedPages_three]
    simp only [List.mem_cons, List.not_mem_nil, or_false, List.length_cons, List.length_nil]
    omega

theorem erasePacket_second : ErasePacket (eraseDev [1]) := ⟨rfl, rfl, by decide, by decide⟩

theorem listedPages_second : listedPages (eraseDev [1]) = [1] := rfl

/-- A list of page 1 erases page 0. -/
theorem other_page_erased : ¬ ∀ (P : Platform) (s : Dev), ErasePacket s → PagesErased P s := by
  intro h
  obtain ⟨t, ht, hdone⟩ := h plainPlatform (eraseDev [1]) erasePacket_second
  have hin : PagesInRange (listedPages (eraseDev [1])) := by
    rw [listedPages_second]
    decide
  rw [if_pos hin] at hdone
  rw [erasePacket_second.received, eraseFlashPagesCmd_of_inRange erasePacket_second hin] at ht
  cases ht
  have hfirst := (first_of_erasesListed (erasingPage_start erasePacket_second rfl _ _)
    erasePacket_second.length_lt hdone).2 1
  rw [listedPages_second] at hfirst
  exact absurd (hfirst.mp (by decide)) (by decide)

end SignetBase.Firmware

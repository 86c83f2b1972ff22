/-
  SignetBase/FirmwareHc/CtaphidAnswers.lean
  =========================================
  **What the CTAPHID layer answers itself: PING and GETRNG.**

  The frames that `ctaphid_write` makes of a payload are a message for `ctaphid_buffer_packet`,
  so the two halves of the layer agree on the format, and a host that frames a PING the same way
  gets its own packets back, whatever other channels send meanwhile.  GETRNG clears the bytes it
  was sent with before it knows whether there are enough random words; when it has to wait it
  has forgotten how many bytes it was asked for, and answers with 57.
-/
import SignetBase.FirmwareHc.CtaphidAssembly

namespace SignetBase.FirmwareHc

namespace Ctaphid

variable {m : Mem} {s : Ctaphid} {p : Packet} {env : Services}

/-! ### Frames are messages -/

/-- A byte of the header of a packet. -/
theorem mem_eq {n i : Nat} {header : Bytes} (h : p.1.take n = header) (hi : i < n) :
    p.mem i = header.getD i 0 := by
  unfold Packet.mem
  rw [← h, List.getD_eq_getElem?_getD, List.getD_eq_getElem?_getD,
    List.getElem?_take_of_lt hi]

theorem toNat_ofNat_of_lt {v : Nat} (h : v < 256) : (UInt8.ofNat v).toNat = v := by
  rw [UInt8.toNat_ofNat', Nat.mod_eq_of_lt h]

/-- The channel that a header names. -/
theorem cid_eq {n cid : Nat} {tail : Bytes} (h : p.1.take n = Mem.bytes32 cid ++ tail)
    (hn : 4 ≤ n) (hcid : cid < 2 ^ 32) : p.cid = cid := by
  have hput : (Mem.put32 (fun _ => 0) 0 cid).get32 0 = cid := by
    rw [Mem.get32_put32, Nat.mod_eq_of_lt hcid]
  refine (Mem.get32_congr fun i hi => ?_).trans hput
  rw [Nat.zero_add, mem_eq h (Nat.lt_of_lt_of_le hi hn), List.getD_append _ _ _ _ hi]
  exact (if_pos ⟨Nat.zero_le _, by rw [Nat.zero_add]; exact hi⟩).symm

section Header

variable {cid cmd bcnt : Nat} {b : Bytes}

/-- What the layer reads in the first packet of a response. -/
theorem first_header (hcid : cid < 2 ^ 32) (hcmd : cmd < 256) (hbcnt : bcnt < 65536)
    (h : p.1.take 7 = initHeader cid cmd bcnt) :
    p.cid = cid ∧ p.cmd = cmd ∧ p.ctaphidPacketLen = bcnt := by
  refine ⟨cid_eq h (by decide) hcid, ?_, ?_⟩
  · unfold Packet.cmd
    rw [mem_eq h (by decide)]
    exact toNat_ofNat_of_lt hcmd
  · unfold Packet.ctaphidPacketLen
    rw [mem_eq h (by decide), mem_eq h (by decide)]
    change 256 * (UInt8.ofNat (bcnt / 256)).toNat + (UInt8.ofNat bcnt).toNat = bcnt
    rw [UInt8.toNat_ofNat', UInt8.toNat_ofNat']
    omega

/-- What it reads in a further one. -/
theorem cont_header {i : Nat} (hcid : cid < 2 ^ 32) (hi : i < 256)
    (h : p.1.take 5 = contHeader cid (UInt8.ofNat i)) : p.cid = cid ∧ p.cmd = i := by
  refine ⟨cid_eq h (by decide) hcid, ?_⟩
  unfold Packet.cmd
  rw [mem_eq h (by decide)]
  exact toNat_ofNat_of_lt hi

end Header

/-- The packets behind the first one: how many, and what they name. -/
theorem contFrames_conts {cid : Nat} {payload : Bytes} (hcid : cid < 2 ^ 32)
    (hlen : payload.length ≤ CTAPHID_BUFFER_SIZE) :
    Needs payload.length (contFrames cid 0 (payload.drop CTAPHID_INIT_PAYLOAD_SIZE)).length ∧
      ∀ i (hi : i < (contFrames cid 0 (payload.drop CTAPHID_INIT_PAYLOAD_SIZE)).length),
        Packet.cid (contFrames cid 0 (payload.drop CTAPHID_INIT_PAYLOAD_SIZE))[i] = cid ∧
          Packet.cmd (contFrames cid 0 (payload.drop CTAPHID_INIT_PAYLOAD_SIZE))[i] = i := by
  obtain ⟨hcount, hheaders, -⟩ :=
    contFrames_spec cid 0 (payload.drop CTAPHID_INIT_PAYLOAD_SIZE)
  rw [List.length_drop] at hcount
  have hneeds : Needs payload.length
      (contFrames cid 0 (payload.drop CTAPHID_INIT_PAYLOAD_SIZE)).length := by
    rw [hcount]
    simp only [Needs, CTAPHID_INIT_PAYLOAD_SIZE, CTAPHID_CONT_PAYLOAD_SIZE, HID_MESSAGE_SIZE]
    omega
  refine ⟨hneeds, fun i hi => cont_header hcid ?_ ?_⟩
  · simp only [CTAPHID_INIT_PAYLOAD_SIZE, CTAPHID_CONT_PAYLOAD_SIZE, HID_MESSAGE_SIZE,
      CTAPHID_BUFFER_SIZE] at hcount hlen hi
    omega
  · rw [hheaders i hi, UInt8.zero_add]

/-- **The frames of a payload are a message that carries it.** -/
theorem frames_isMessage {cid cmd : Nat} {payload : Bytes} (hcid : cid < 2 ^ 32)
    (hinit : TYPE_INIT ≤ cmd) (hcmd : cmd < 256) (hnot : cmd ≠ CTAPHID_INIT)
    (hlen : payload.length ≤ CTAPHID_BUFFER_SIZE) {first : Packet} {conts : List Packet}
    (hframes : frames cid cmd payload.length payload = first :: conts) :
    IsMessage cid cmd payload first conts ∧ Needs payload.length conts.length := by
  have hresponse : HidResponse.payload ⟨cid, cmd, payload.length, [payload]⟩ = payload :=
    List.flatten_singleton
  have hpackets : HidResponse.packets ⟨cid, cmd, payload.length, [payload]⟩ = first :: conts := by
    rw [HidResponse.packets_eq, hresponse]
    exact hframes
  have hcarries := carries_packets (r := ⟨cid, cmd, payload.length, [payload]⟩) (by
    rw [hresponse]
    exact hlen)
  rw [hpackets] at hcarries
  have hfirst := hcarries.first
  have hpayload := hcarries.payload
  rw [hresponse] at hpayload
  rw [List.getElem_cons_zero] at hfirst
  have hshort : payload.length < 65536 := Nat.lt_of_le_of_lt hlen (by decide)
  obtain ⟨hfcid, hfcmd, hflen⟩ := first_header hcid hcmd hshort hfirst
  obtain ⟨hneeds, hheaders⟩ := contFrames_conts hcid hlen
  have hconts : conts = contFrames cid 0 (payload.drop CTAPHID_INIT_PAYLOAD_SIZE) :=
    (List.cons.inj hframes).2.symm
  subst hconts
  refine ⟨⟨⟨?_, ?_⟩, ?_, hfcmd, hflen, ?_, hpayload⟩, hneeds⟩
  · unfold Packet.IsInitPkt
    rw [hfcmd]
    exact hnot
  · unfold Packet.IsContPkt
    rw [hfcmd]
    exact Nat.not_lt_of_le hinit
  · intro q hq
    rcases List.mem_cons.mp hq with rfl | hq
    · exact hfcid
    · obtain ⟨i, hi, rfl⟩ := List.mem_iff_getElem.mp hq
      exact (hheaders i hi).1
  · apply List.ext_getElem
    · rw [List.length_map, List.length_range]
    · intro i hi hi'
      rw [List.length_map] at hi
      rw [List.getElem_map, List.getElem_range]
      exact (hheaders i hi).2

/-! ### The echo -/

theorem processCtaphidPacket_ping (hstatus : s.bufferStatus ≠ .BUFFERING)
    (hcmd : s.bufferCmd = CTAPHID_PING) : s.processCtaphidPacket env =
      (false, (s.send (.ping s.bufferCid s.message)).answered) := by
  unfold processCtaphidPacket
  rw [if_neg (not_not.mpr (status_of_not_buffering hstatus)), if_neg (by rw [hcmd]; decide),
    if_pos hcmd]

/-- A PING is answered at once with its own bytes. -/
theorem ctaphidIdle_ping (hprocessing : s.processingPacket = true)
    (hstatus : s.bufferStatus ≠ .BUFFERING) (hcmd : s.bufferCmd = CTAPHID_PING) :
    (s.ctaphidIdle env).sent = s.sent ++ [.ping s.bufferCid s.message] := by
  have hprocess : { s with randNeeded := 0 }.processCtaphidPacket env =
      (false, ({ s with randNeeded := 0 }.send (.ping s.bufferCid s.message)).answered) :=
    processCtaphidPacket_ping hstatus hcmd
  unfold ctaphidIdle
  rw [if_pos hprocessing]
  unfold restartCommand
  dsimp only
  rw [hprocess]
  rfl

theorem packets_ping (cid : Nat) (data : Bytes) :
    (HidResponse.ping cid data).packets = frames cid CTAPHID_PING data.length data := by
  rw [HidResponse.packets_eq]
  unfold HidResponse.ping HidResponse.payload
  rw [List.flatten_singleton]

/-- The packets sent on a channel. -/
def sentOn (cid : Nat) (rs : List HidResponse) : List Packet :=
  (rs.filter fun r => r.cid = cid).flatMap HidResponse.packets

/-- The packets that came in on a channel. -/
def onChannel (cid : Nat) (ps : List Packet) : List Packet := ps.filter fun p => p.cid = cid

/-- The executions of a request, one after the other. -/
def executions (s : Ctaphid) (es : List Services) : Ctaphid :=
  es.foldl (fun s env => s.ctaphidIdle env) s

/-- How many bytes GETRNG takes itself to be asked for. -/
def asked (s : Ctaphid) : Nat :=
  if (s.ctapBuffer 0).toNat = 0 then 57 else (s.ctapBuffer 0).toNat

/-- A GETRNG that is not answered yet. -/
structure Getrng (s : Ctaphid) : Prop where
  request : s.processingPacket = true
  status : s.bufferStatus ≠ .BUFFERING
  cmd : s.bufferCmd = CTAPHID_GETRNG

theorem processCtaphidPacket_getrng (hstatus : s.bufferStatus ≠ .BUFFERING)
    (hcmd : s.bufferCmd = CTAPHID_GETRNG) :
    s.processCtaphidPacket env = s.processGetrngCase env := by
  unfold processCtaphidPacket
  rw [if_neg (not_not.mpr (status_of_not_buffering hstatus)), if_neg (by rw [hcmd]; decide),
    if_neg (by rw [hcmd]; decide), if_neg (by rw [hcmd]; decide), if_neg (by rw [hcmd]; decide),
    if_neg (by rw [hcmd]; decide), if_neg (by rw [hcmd]; decide), if_pos hcmd]

/-- Enough words: the answer has as many bytes as are asked for. -/
theorem Getrng.answer (h : Getrng s) (henough : s.asked ≤ env.randAvail) :
    (s.ctaphidIdle env).processingPacket = false ∧
      ∃ r, (s.ctaphidIdle env).sent = s.sent ++ [r] ∧ r.bcnt = s.asked := by
  have hprocess : { s with randNeeded := 0 }.processCtaphidPacket env =
      { s with randNeeded := 0 }.processGetrngCase env :=
    processCtaphidPacket_getrng h.status h.cmd
  have hcase : ∃ t r, { s with randNeeded := 0 }.processGetrngCase env = (false, t) ∧
      t.sent = s.sent ++ [r] ∧ r.bcnt = s.asked := by
    unfold processGetrngCase
    refine ⟨_, _, if_pos henough, rfl, rfl⟩
  obtain ⟨t, r, heq, hsent, hbcnt⟩ := hcase
  unfold ctaphidIdle
  rw [if_pos h.request]
  unfold restartCommand
  dsimp only
  rw [hprocess, heq]
  exact ⟨rfl, r, hsent, hbcnt⟩

/-- Too few words: nothing is sent, and the bytes asked for are forgotten. -/
theorem Getrng.wait (h : Getrng s) (hfew : env.randAvail < s.asked) :
    Getrng (s.ctaphidIdle env) ∧ (s.ctaphidIdle env).sent = s.sent ∧
      (s.ctaphidIdle env).asked = 57 := by
  have hprocess : { s with randNeeded := 0 }.processCtaphidPacket env =
      { s with randNeeded := 0 }.processGetrngCase env :=
    processCtaphidPacket_getrng h.status h.cmd
  have hcase : { s with randNeeded := 0 }.processGetrngCase env = (true, { s with
      ctapBuffer := s.ctapBuffer.fill 0 s.asked 0
      isBusy := false
      randNeeded := s.asked }) := by
    unfold processGetrngCase
    exact if_neg (Nat.not_le_of_lt hfew)
  have hcleared : s.ctapBuffer.fill 0 s.asked 0 0 = 0 :=
    if_pos ⟨Nat.le_refl 0, by rw [Nat.zero_add]; exact s.getrng_bcnt.1⟩
  have hasked : ∀ t : Ctaphid, t.ctapBuffer 0 = 0 → t.asked = 57 := fun t ht => by
    unfold asked
    rw [ht]
    rfl
  unfold ctaphidIdle
  rw [if_pos h.request]
  unfold restartCommand
  dsimp only
  rw [hprocess, hcase]
  dsimp only
  split
  · exact ⟨⟨h.request, h.status, h.cmd⟩, rfl, hasked _ hcleared⟩
  · exact ⟨⟨h.request, h.status, h.cmd⟩, rfl, hasked _ hcleared⟩

/-- Nothing is executed any more when the request is answered. -/
theorem executions_of_answered (hanswered : s.processingPacket = false) (es : List Services) :
    s.executions es = s := by
  induction es with
  | nil => rfl
  | cons env es ih =>
    have hidle : s.ctaphidIdle env = s := by
      unfold ctaphidIdle
      rw [hanswered]
      rfl
    unfold executions at ih ⊢
    rw [List.foldl_cons, hidle, ih]

/-- A GETRNG that waited is answered with 57 bytes. -/
theorem Getrng.answered_after_wait (h : Getrng s) (hasked : s.asked = 57) (es : List Services)
    (hanswered : (s.executions es).processingPacket = false) :
    ∃ r, (s.executions es).sent = s.sent ++ [r] ∧ r.bcnt = 57 := by
  induction es generalizing s with
  | nil =>
    have hrequest := h.request
    rw [show s.processingPacket = false from hanswered] at hrequest
    cases hrequest
  | cons env es ih =>
    change ((s.ctaphidIdle env).executions es).processingPacket = false at hanswered
    change ∃ r, ((s.ctaphidIdle env).executions es).sent = s.sent ++ [r] ∧ r.bcnt = 57
    by_cases henough : s.asked ≤ env.randAvail
    · obtain ⟨hdone, r, hsent, hbcnt⟩ := h.answer henough
      rw [executions_of_answered hdone]
      exact ⟨r, hsent, hbcnt.trans hasked⟩
    · obtain ⟨hstill, hsent, hasked'⟩ := h.wait (Nat.lt_of_not_le henough)
      obtain ⟨r, hanswer, hbcnt⟩ := ih hstill hasked' hanswered
      exact ⟨r, by rw [hanswer, hsent], hbcnt⟩

/-- **A GETRNG is answered with as many bytes as it was asked for just when there were enough
    random words at its first execution, or when 57 were asked for; one that had to wait is
    answered with 57 bytes.** -/
theorem getrng_answered_iff (h : Getrng s) (env : Services) (es : List Services)
    (hanswered : (s.executions (env :: es)).processingPacket = false) :
    ∃ r, (s.executions (env :: es)).sent = s.sent ++ [r] ∧
      (r.bcnt = s.asked ↔ s.asked ≤ env.randAvail ∨ s.asked = 57) ∧
      (env.randAvail < s.asked → r.bcnt = 57) := by
  change ((s.ctaphidIdle env).executions es).processingPacket = false at hanswered
  change ∃ r, ((s.ctaphidIdle env).executions es).sent = s.sent ++ [r] ∧ _
  by_cases henough : s.asked ≤ env.randAvail
  · obtain ⟨hdone, r, hsent, hbcnt⟩ := h.answer henough
    rw [executions_of_answered hdone]
    exact ⟨r, hsent, ⟨fun _ => .inl henough, fun _ => hbcnt⟩,
      fun hfew => absurd henough (Nat.not_le_of_lt hfew)⟩
  · obtain ⟨hstill, hsent, hasked⟩ := h.wait (Nat.lt_of_not_le henough)
    obtain ⟨r, hanswer, hbcnt⟩ := hstill.answered_after_wait hasked es hanswered
    refine ⟨r, by rw [hanswer, hsent], ?_, fun _ => hbcnt⟩
    rw [hbcnt]
    constructor
    · exact fun heq => .inr heq.symm
    · rintro (hle | heq)
      · exact absurd hle henough
      · exact heq.symm

/-- Services that have so many random words, and nothing else. -/
def withWords (randAvail : Nat) : Services :=
  ⟨fun _ => (0, []), [], fun _ => (0, []), 0, 0, randAvail, fun _ => 0⟩

/-- GETRNG for 16 bytes, complete and not executed yet. -/
def sixteen : Ctaphid :=
  { powerOn fun _ => 16 with
    bufferCid := 1
    bufferCmd := CTAPHID_GETRNG
    bufferBcnt := 1
    bufferOffset := 1
    processingPacket := true }

/-- It finds 10 words, then 60: the answer has 57 bytes. -/
theorem getrng_answered_sixteen :
    ∃ r, (sixteen.executions [withWords 10, withWords 60]).sent = [r] ∧ r.bcnt = 57 := by
  obtain ⟨r, hsent, -, hwaited⟩ := @getrng_answered_iff sixteen ⟨rfl, by decide, rfl⟩ (withWords 10)
    [withWords 60] rfl
  exact ⟨r, hsent, hwaited (by decide)⟩

end Ctaphid

end SignetBase.FirmwareHc

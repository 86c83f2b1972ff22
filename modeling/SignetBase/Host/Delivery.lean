/-
  SignetBase/Host/Delivery.lean
  =============================
  **Responses and events on their way to the host: `usb_raw_hid.c` over the endpoint of
  each device, and the host at the other end.**

  Response packets and event packets leave through one endpoint, one at a time.  When a
  transfer is complete the host has its packet and the device looks for the next one: an
  event first, then the next packet of the response.  What is handed to the endpoint while
  it is busy is dropped on the original device (`usb_fs_driver.c`) and kept back
  on Signet HC (`usbd_hid.c`).
-/
import SignetBase.Run
import SignetBase.Host.Framing

namespace SignetBase

variable (d : Device)

/-! ### The endpoint -/

/-- A response whose payload is given and fits the buffer and its header. -/
structure SentResponse (d : Device) where
  resp : CommandResponse
  messagesRemaining : Nat
  state : DeviceState
  payload : Bytes
  fits : payload.length ≤ d.hidLink.cmdPacketPayloadSize
  small : messagesRemaining < 65536

/-- The arguments of `finish_command_multi`. -/
def SentResponse.toHid {d : Device} (r : SentResponse d) : HidResponse where
  resp := r.resp
  messagesRemaining := r.messagesRemaining
  state := r.state
  payload := some r.payload
  payloadLen := r.payload.length

/-- An event that `event_mask` has a bit for and whose data fits a packet and its length
    byte. -/
structure SentEvent (d : Device) where
  num : Nat
  data : Option Bytes
  bit : num < 8
  fits : ∀ b ∈ data, b.length + 2 ≤ d.hidLink.rawHidPayloadSize ∧ b.length < 256

/-- The device's end of the link, the transfer in flight, what Signet HC keeps back
    (`tx_report`), the packets the host has got, and the calls of `cmd_packet_sent`. -/
structure RawHidLink where
  tx : HidTx
  inFlight : Option HidPacket
  txReport : Option HidPacket
  delivered : List HidPacket
  packetsSent : Nat
  failed : Bool

/-- `usb_send_bytes`. -/
def usbSendBytes (s : RawHidLink) (p : HidPacket) : RawHidLink :=
  match s.inFlight, d with
  | none, _ => { s with inFlight := some p }
  | some _, .signet => s
  | some _, .signetHc =>
    if s.txReport.isSome then { s with failed := true } else { s with txReport := some p }

/-- `finish_command_multi` and `cmd_packet_send` up to the call of
    `maybe_send_raw_hid_packet`. -/
def beginResponse (l : HidLink) (r : HidResponse) (t : HidTx) : HidTx :=
  { t with
    cmdResp := r.writeTo t.cmdResp, txCount := packetCount l r.fullLength, txSeq := 0
    txData := true }

theorem hidFinishCommandMulti_eq (l : HidLink) (r : HidResponse) (busy : Bool) (t : HidTx) :
    hidFinishCommandMulti l r busy t = maybeSendRawHidPacket l busy (beginResponse l r t) := rfl

/-- A function of `usb_raw_hid.c` runs: what it hands over goes to the endpoint, and where it
    lets go of the response it calls `cmd_packet_sent`. -/
def usbRun (f : Bool → HidTx → HidTx) (s : RawHidLink) : RawHidLink :=
  let tx := f s.inFlight.isSome s.tx
  (tx.sent.drop s.tx.sent.length).foldl (usbSendBytes d)
    { s with
      tx
      packetsSent := if s.tx.txData && !tx.txData then s.packetsSent + 1 else s.packetsSent }

inductive LinkEvent (d : Device) where
  | respond (r : SentResponse d)
  | event (e : SentEvent d)
  | complete

/-- One step of the link: `finish_command_multi`, `cmd_event_send`, or the end of the
    transfer in flight, upon which Signet HC first sends what it kept back and both call
    `usb_raw_hid_tx`. -/
def linkStep (s : RawHidLink) : LinkEvent d → RawHidLink
  | .respond r =>
    if s.failed then s
    else usbRun d (maybeSendRawHidPacket d.hidLink) { s with tx := beginResponse d.hidLink r.toHid s.tx }
  | .event e => if s.failed then s else usbRun d (cmdEventSend d.hidLink e.num e.data) s
  | .complete =>
    match s.inFlight with
    | none => s
    | some p =>
      if s.failed then s
      else usbRun d (maybeSendRawHidPacket d.hidLink)
        { s with inFlight := s.txReport, txReport := none, delivered := s.delivered ++ [p] }

/-- The link after a reset. -/
def linkInit : RawHidLink where
  tx := hidInit
  inFlight := none
  txReport := none
  delivered := []
  packetsSent := 0
  failed := false

/-! ### The host -/

/-- `rx_packet_buf` after a read; what the packet does not fill does not matter. -/
def rxPacketBuf (p : Bytes) : Mem := fun i => p.getD i 0

/-- The host's state and the calls it has made. -/
structure HostRx where
  rx : RxMessageState
  calls : List HostCall

/-- A request that waits for a response. -/
structure Request where
  req : SendMessageReq
  getResp : req.getResp = true
  interrupt : req.interrupt = false

/-- The host takes in a packet.  When no request is pending, the next one has been issued
    before the packet came; `reqs` has them by the number of calls made so far. -/
def hostTake (reqs : Nat → Request) (h : HostRx) (p : Bytes) : HostRx :=
  let req := h.rx.message.getD (reqs h.calls.length).req
  let x := processRxPacket d { h.rx with message := some req } (rxPacketBuf p)
  { rx := x.state, calls := h.calls ++ x.calls }

/-- The bytes of a packet. -/
def HidPacket.bytes : HidPacket → Bytes
  | .cmd bytes => bytes
  | .event bytes => bytes

/-- The host after the packets it has got. -/
def hostAfter (reqs : Nat → Request) (h : HostRx) (packets : List HidPacket) : HostRx :=
  (packets.map HidPacket.bytes).foldl (hostTake d reqs) h

/-- What the host passes on of a response: the code, the payload, the number of messages
    that remain and the device state. -/
structure Passed where
  respCode : Int
  payload : Bytes
  messagesRemaining : Nat
  endDeviceState : UInt8
deriving DecidableEq

/-- The response behind a call. -/
def HostCall.passed? : HostCall → Option Passed
  | .commandResp c =>
    some ⟨c.respCode, c.resp.read 0 c.respLen, c.expectedMessagesRemaining, c.endDeviceState⟩
  | .deviceEvent .. => none

/-- The data of an event of number `i` behind a call. -/
def HostCall.event? (i : Nat) : HostCall → Option Bytes
  | .deviceEvent eventType respLen data =>
    if eventType.toNat = i then some (data.read 0 respLen.toNat) else none
  | .commandResp _ => none

def SentResponse.passed {d : Device} (r : SentResponse d) : Passed where
  respCode := r.resp.code.toNat
  payload := r.payload
  messagesRemaining := r.messagesRemaining
  endDeviceState := r.state.code

/-! ### The host puts a response together -/

variable {d} {reqs : Nat → Request}

/-- The packet with number `j` out of `n`, as the host sees it. -/
theorem rxPacketBuf_packetBytes (l : HidLink) (buf : Mem) (n j : Nat) :
    rxPacketBuf (packetBytes l buf n j) 0 = txHeader j n ∧ ∀ i < l.rawHidPayloadSize,
      rxPacketBuf (packetBytes l buf n j) (1 + i) = buf (j * l.rawHidPayloadSize + i) := by
  refine ⟨rfl, ?_⟩
  intro i hi
  have hlen : i < (buf.read (j * l.rawHidPayloadSize) l.rawHidPayloadSize).length := by
    rw [Mem.length_read]
    exact hi
  unfold rxPacketBuf packetBytes
  rw [Nat.add_comm, List.getD_cons_succ, List.getD_eq_getElem _ _ hlen, Mem.getElem_read]

/-- The response buffer that holds a response. -/
structure InBuffer (r : SentResponse d) (buf : Mem) : Prop where
  header : buf.read 0 CMD_PACKET_HEADER_SIZE = r.toHid.header
  payload : ∀ i (hi : i < r.payload.length), buf (CMD_PACKET_HEADER_SIZE + i) = r.payload[i]

theorem inBuffer_writeTo (r : SentResponse d) (m : Mem) : InBuffer r (r.toHid.writeTo m) := by
  refine ⟨?_, ?_⟩
  · unfold HidResponse.writeTo
    rw [Mem.read_write_disjoint _ (.inl (by decide))]
    exact Mem.read_write _ _ _ _ rfl
  · intro i hi
    unfold HidResponse.writeTo
    have hpay : (r.toHid.payload.getD []) = r.payload := rfl
    rw [hpay, Mem.write_apply_of_mem _ (Nat.le_add_right _ _) (by omega)]
    simp

/-- The fields of the header in the buffer. -/
theorem InBuffer.fields {r : SentResponse d} {buf : Mem} (h : InBuffer r buf) :
    buf.get16 0 = r.payload.length + CMD_PACKET_HEADER_SIZE ∧ buf 2 = r.resp.code ∧
      buf.get16 3 = r.messagesRemaining ∧ buf 5 = r.state.code := by
  have hsmall := d.hidLink.small
  have hfits := r.fits
  have hmr := r.small
  unfold HidLink.cmdPacketPayloadSize at hfits
  have hfull : r.toHid.fullLength = r.payload.length + CMD_PACKET_HEADER_SIZE := rfl
  have hhead : r.toHid.header = Mem.bytes16 r.toHid.fullLength ++ [r.resp.code] ++
      Mem.bytes16 ((r.messagesRemaining : Int) % 65536).toNat ++ [r.state.code] := rfl
  have hmod : ((r.messagesRemaining : Int) % 65536).toNat = r.messagesRemaining := by omega
  have heq := h.header
  rw [hhead, hmod] at heq
  have hget : ∀ i < 6, buf i = (Mem.bytes16 r.toHid.fullLength ++ [r.resp.code] ++
      Mem.bytes16 r.messagesRemaining ++ [r.state.code]).getD i 0 := by
    intro i hi
    have hlen : i < (buf.read 0 CMD_PACKET_HEADER_SIZE).length := by
      rw [Mem.length_read]
      exact hi
    calc buf i = (buf.read 0 CMD_PACKET_HEADER_SIZE)[i] := by rw [Mem.getElem_read, Nat.zero_add]
      _ = (buf.read 0 CMD_PACKET_HEADER_SIZE).getD i 0 := (List.getD_eq_getElem _ _ hlen).symm
      _ = _ := by rw [heq]
  refine ⟨?_, hget 2 (by decide), ?_, hget 5 (by decide)⟩
  · unfold Mem.get16
    rw [hget 0 (by decide), hget 1 (by decide)]
    simp [Mem.bytes16, hfull]
    omega
  · unfold Mem.get16
    rw [hget 3 (by decide), hget 4 (by decide)]
    simp [Mem.bytes16]
    omega

/-- No request is pending, or one that waits for a response. -/
def Waits (s : RxMessageState) : Prop :=
  ∀ m, s.message = some m → m.getResp = true ∧ m.interrupt = false

/-- The host has `j` packets of a response. -/
structure Assembling (r : SentResponse d) (j : Nat) (s : RxMessageState) : Prop where
  size : s.expectedRespSize.toNat = r.payload.length
  messagesRemaining : s.expectedMessagesRemaining = r.messagesRemaining
  code : s.asyncRespCode = r.resp.code
  message : ∃ m, s.message = some m ∧ m.getResp = true ∧ m.interrupt = false ∧
    m.endDeviceState = r.state.code
  bytes : ∀ i (hi : i < r.payload.length),
    i + CMD_PACKET_HEADER_SIZE < j * d.hidLink.rawHidPayloadSize → s.asyncResp i = r.payload[i]

/-- The number of packets of a response. -/
def SentResponse.packets (r : SentResponse d) : Nat := packetCount d.hidLink r.toHid.fullLength

theorem SentResponse.fits_toHid (r : SentResponse d) : r.toHid.Fits d.hidLink := by
  refine ⟨?_, r.fits⟩
  rintro p ⟨⟩
  rfl

/-- A response takes at least one packet and few enough for the seven bits. -/
theorem SentResponse.packets_bounds (r : SentResponse d) :
    0 < r.packets ∧ r.packets ≤ MAX_MESSAGE_PACKETS ∧
      r.payload.length + CMD_PACKET_HEADER_SIZE ≤ r.packets * d.hidLink.rawHidPayloadSize ∧
      ∀ j < r.packets, j * d.hidLink.rawHidPayloadSize < r.payload.length + CMD_PACKET_HEADER_SIZE := by
  have hfits := r.fits
  have hcount : r.packets = (r.payload.length + CMD_PACKET_HEADER_SIZE +
      d.hidLink.rawHidPayloadSize - 1) / d.hidLink.rawHidPayloadSize := packetCount_eq r.fits_toHid
  have hpos := d.hidLink.header_lt
  rw [hcount]
  refine ⟨packetCount_pos (Nat.add_pos_right _ (by decide)), ?_, le_packetCount_mul _, ?_⟩
  · rw [packetCount_le_iff]
    cases d
    · change r.payload.length ≤ 2055 at hfits
      change r.payload.length + 6 ≤ 33 * 63
      omega
    · change r.payload.length ≤ 16391 at hfits
      change r.payload.length + 6 ≤ 33 * 511
      omega
  · intro j hj
    have := (Nat.le_div_iff_mul_le (by omega)).mp hj
    rw [Nat.succ_mul] at this
    omega

theorem toNat_ofNat_sub {n : Nat} (hn : n < 65536) :
    (UInt32.ofNat (n + CMD_PACKET_HEADER_SIZE) - UInt32.ofNat CMD_PACKET_HEADER_SIZE).toNat = n := by
  have hle : UInt32.ofNat CMD_PACKET_HEADER_SIZE ≤ UInt32.ofNat (n + CMD_PACKET_HEADER_SIZE) := by
    rw [UInt32.le_iff_toNat_le, UInt32.toNat_ofNat', UInt32.toNat_ofNat']
    unfold CMD_PACKET_HEADER_SIZE
    omega
  rw [UInt32.toNat_sub_of_le _ _ hle, UInt32.toNat_ofNat', UInt32.toNat_ofNat']
  unfold CMD_PACKET_HEADER_SIZE
  omega

/-- The first packet of a response. -/
theorem assembling_first {r : SentResponse d} {buf pkt : Mem} (hbuf : InBuffer r buf)
    (hpkt : ∀ i < d.hidLink.rawHidPayloadSize, pkt (1 + i) = buf i) (s : RxMessageState)
    {m : SendMessageReq} (hm : m.getResp = true ∧ m.interrupt = false) :
    Assembling r 1 (rxFirst d s m pkt).1 := by
  obtain ⟨hlen, hcode, hmr, hstate⟩ := hbuf.fields
  have hsmall := d.hidLink.small
  have hfits := r.fits
  have hpos := d.hidLink.header_lt
  unfold HidLink.cmdPacketPayloadSize at hfits
  have hps : 6 < d.hidLink.rawHidPayloadSize := hpos
  have hsize : pkt.get16 1 = r.payload.length + CMD_PACKET_HEADER_SIZE := by
    rw [← hlen]
    exact Mem.get16_congr fun i hi => (hpkt i (by omega)).trans (by rw [Nat.zero_add])
  refine ⟨?_, ?_, ?_, ⟨_, rfl, hm.1, hm.2, ?_⟩, ?_⟩
  · change (UInt32.ofNat (pkt.get16 1) - UInt32.ofNat CMD_PACKET_HEADER_SIZE).toNat = _
    rw [hsize]
    exact toNat_ofNat_sub (by omega)
  · change pkt.get16 4 = _
    rw [← hmr]
    refine Mem.get16_congr fun i hi => ?_
    rw [show 4 + i = 1 + (3 + i) by omega]
    exact hpkt (3 + i) (by omega)
  · change (if m.getResp = true then pkt 3 else s.asyncRespCode) = _
    rw [if_pos hm.1, ← hcode]
    exact hpkt 2 (by omega)
  · change pkt 6 = _
    rw [← hstate]
    exact hpkt 5 (by omega)
  · intro i hi hlt
    rw [Nat.one_mul] at hlt
    change s.asyncResp.copy 0 pkt (RAW_HID_HEADER_SIZE + CMD_PACKET_HEADER_SIZE)
      (d.hidLink.rawHidPayloadSize - CMD_PACKET_HEADER_SIZE) i = _
    rw [Mem.copy_apply_of_mem _ _ (Nat.zero_le i) (by omega), ← hbuf.payload i hi,
      ← hpkt _ (by omega)]
    congr 1
    unfold RAW_HID_HEADER_SIZE
    omega

/-- Every other packet of a response goes on where the one before it ended. -/
theorem assembling_next {r : SentResponse d} {buf pkt : Mem} (hbuf : InBuffer r buf) {j : Nat}
    (hseq : packetSeq pkt = j) (hj : 0 < j) (hlt : j < r.packets)
    (hpkt : ∀ i < d.hidLink.rawHidPayloadSize,
      pkt (1 + i) = buf (j * d.hidLink.rawHidPayloadSize + i))
    {s : RxMessageState} (hs : Assembling r j s) : Assembling r (j + 1) (rxNext d s pkt).1 := by
  obtain ⟨-, -, -, hstart⟩ := r.packets_bounds
  have hbegin := hstart j hlt
  have hpos := d.hidLink.header_lt
  have hone : d.hidLink.rawHidPayloadSize ≤ j * d.hidLink.rawHidPayloadSize :=
    Nat.le_mul_of_pos_left _ hj
  have hoffset : rxOffset d pkt = j * d.hidLink.rawHidPayloadSize - CMD_PACKET_HEADER_SIZE := by
    unfold rxOffset
    rw [hseq, Nat.mul_comm]
  obtain ⟨hsize, hmr, hcode, hmsg, hbytes⟩ := hs
  have hfits := r.fits
  have hsmall := d.hidLink.small
  unfold HidLink.cmdPacketPayloadSize at hfits
  have hlen : r.payload.length < 2 ^ 32 := by omega
  unfold rxNext
  dsimp only
  rw [hoffset, hsize]
  generalize hoff : j * d.hidLink.rawHidPayloadSize - CMD_PACKET_HEADER_SIZE = offset
  generalize hto : (if offset + d.hidLink.rawHidPayloadSize > r.payload.length then
    (r.payload.length + 2 ^ 64 - offset) % 2 ^ 64 else d.hidLink.rawHidPayloadSize) = toRead
  have htoRead : toRead = min d.hidLink.rawHidPayloadSize (r.payload.length - offset) := by
    rw [← hto]
    split
    · omega
    · omega
  have hpositive : toRead > 0 := by omega
  rw [if_pos hpositive]
  refine ⟨hsize, hmr, hcode, hmsg, ?_⟩
  intro i hi hlt'
  rw [Nat.succ_mul] at hlt'
  dsimp only
  by_cases hmem : offset ≤ i
  · rw [Mem.copy_apply_of_mem _ _ hmem (by omega), ← hbuf.payload i hi]
    unfold RAW_HID_HEADER_SIZE
    rw [hpkt _ (by omega)]
    congr 1
    omega
  · rw [Mem.copy_apply_of_notMem _ _ (.inl (by omega))]
    exact hbytes i hi (by omega)

/-- With its last packet a response is passed on, and nothing is left of it. -/
theorem assembled {r : SentResponse d} {s : RxMessageState} (hs : Assembling r r.packets s) :
    Waits (rxLast s true).1 ∧
      ∃ c, (rxLast s true).2 = [c] ∧ c.passed? = some r.passed ∧ ∀ i, c.event? i = none := by
  obtain ⟨hsize, hmr, hcode, ⟨m, hm, hget, hint, hstate⟩, hbytes⟩ := hs
  obtain ⟨-, -, hend, -⟩ := r.packets_bounds
  have hfits := r.fits
  have hsmall := d.hidLink.small
  unfold HidLink.cmdPacketPayloadSize at hfits
  have hint' : ¬ m.interrupt = true := by
    rw [hint]
    decide
  have hrc : respSizeInt s.expectedRespSize = (r.payload.length : Int) := by
    unfold respSizeInt
    rw [hsize, if_pos (by omega)]
  have hread : s.asyncResp.read 0 r.payload.length = r.payload := by
    apply List.ext_getElem (by simp)
    intro i h₁ h₂
    rw [Mem.getElem_read, Nat.zero_add]
    exact hbytes i h₂ (by omega)
  have hcall : ∀ n, ∃ c, messageSendResp s m (respSizeInt s.expectedRespSize) n = [c] ∧
      c.passed? = some ⟨r.resp.code.toNat, r.payload, n, r.state.code⟩ ∧
      ∀ i, c.event? i = none := by
    intro n
    refine ⟨_, if_neg hint', ?_, fun i => rfl⟩
    simp only [HostCall.passed?, hrc, hget, if_true, Int.toNat_natCast, hread, hcode, hstate]
    rw [if_pos (Int.natCast_nonneg _)]
  unfold rxLast
  rw [hm]
  simp only [if_true]
  by_cases hzero : s.expectedMessagesRemaining = 0
  · rw [if_pos hzero]
    refine ⟨?_, ?_⟩
    · intro m' h
      cases h
    obtain ⟨c, hc, hpassed, hevent⟩ := hcall 0
    refine ⟨c, hc, ?_, hevent⟩
    rw [hpassed, SentResponse.passed, ← hmr, hzero]
  · rw [if_neg hzero]
    refine ⟨?_, ?_⟩
    · intro m' h
      rw [hm] at h
      cases h
      exact ⟨hget, hint⟩
    · rw [hmr]
      exact hcall r.messagesRemaining

/-- The host before it takes in packet `j` of a response. -/
def ReadyFor (r : SentResponse d) (j : Nat) (s : RxMessageState) : Prop :=
  if j = 0 then Waits s else Assembling r j s

/-- The request that is pending when a packet comes. -/
theorem pending_message {r : SentResponse d} {j : Nat} {h : HostRx} (hs : ReadyFor r j h.rx)
    (reqs : Nat → Request) :
    ∃ m, h.rx.message.getD (reqs h.calls.length).req = m ∧ m.getResp = true ∧
      m.interrupt = false ∧ ReadyFor r j { h.rx with message := some m } := by
  refine ⟨_, rfl, ?_⟩
  unfold ReadyFor at hs ⊢
  by_cases hj : j = 0
  · rw [if_pos hj] at hs ⊢
    cases hm : h.rx.message with
    | none =>
      refine ⟨(reqs _).getResp, (reqs _).interrupt, ?_⟩
      rintro m ⟨⟩
      exact ⟨(reqs _).getResp, (reqs _).interrupt⟩
    | some m =>
      obtain ⟨hget, hint⟩ := hs m hm
      refine ⟨hget, hint, ?_⟩
      rintro m' ⟨⟩
      exact ⟨hget, hint⟩
  · rw [if_neg hj] at hs ⊢
    obtain ⟨m, hm, hget, hint, hstate⟩ := hs.message
    rw [hm]
    exact ⟨hget, hint, hs.size, hs.messagesRemaining, hs.code, ⟨m, rfl, hget, hint, hstate⟩, hs.bytes⟩

/-- **The host takes in packet `j` of a response**: the last one completes it. -/
theorem hostTake_packet {r : SentResponse d} {buf : Mem} (hbuf : InBuffer r buf) {j : Nat}
    (hj : j < r.packets) {h : HostRx} (hs : ReadyFor r j h.rx) (reqs : Nat → Request) :
    if j + 1 = r.packets then
      Waits (hostTake d reqs h (packetBytes d.hidLink buf r.packets j)).rx ∧
        ∃ c, (hostTake d reqs h (packetBytes d.hidLink buf r.packets j)).calls = h.calls ++ [c] ∧
          c.passed? = some r.passed ∧ ∀ i, c.event? i = none
    else
      ReadyFor r (j + 1) (hostTake d reqs h (packetBytes d.hidLink buf r.packets j)).rx ∧
        (hostTake d reqs h (packetBytes d.hidLink buf r.packets j)).calls = h.calls := by
  obtain ⟨-, hmax, -, -⟩ := r.packets_bounds
  obtain ⟨hhead, hbody⟩ := rxPacketBuf_packetBytes d.hidLink buf r.packets j
  have hsmall : j < 127 := by
    unfold MAX_MESSAGE_PACKETS at hmax
    omega
  have hseq := packetSeq_of_header (by omega) hhead
  have hlast := packetLast_of_header (by omega) hhead
  obtain ⟨m, hm, hget, hint, hready⟩ := pending_message hs reqs
  unfold hostTake
  dsimp only
  rw [hm]
  generalize rxPacketBuf (packetBytes d.hidLink buf r.packets j) = pkt at hbody hseq hlast ⊢
  unfold processRxPacket
  rw [hseq, if_neg (show ¬ j = 0x7f by omega), hlast]
  dsimp only
  have hnext : Assembling r (j + 1)
      (if j = 0 then rxFirst d { h.rx with message := some m } m pkt
        else rxNext d { h.rx with message := some m } pkt).1 := by
    unfold ReadyFor at hready
    by_cases hzero : j = 0
    · rw [if_pos hzero, hzero]
      refine assembling_first hbuf (fun i hi => ?_) _ ⟨hget, hint⟩
      rw [hbody i hi, hzero, Nat.zero_mul, Nat.zero_add]
    · rw [if_neg hzero] at hready ⊢
      exact assembling_next hbuf hseq (Nat.pos_of_ne_zero hzero) hj hbody hready
  generalize (if j = 0 then rxFirst d { h.rx with message := some m } m pkt
    else rxNext d { h.rx with message := some m } pkt) = x at hnext ⊢
  by_cases hend : j + 1 = r.packets
  · rw [if_pos hend, decide_eq_true hend]
    rw [hend] at hnext
    obtain ⟨hwaits, c, hc, hpassed, hevent⟩ := assembled hnext
    exact ⟨hwaits, c, congrArg (h.calls ++ ·) hc, hpassed, hevent⟩
  · rw [if_neg hend, decide_eq_false hend]
    have hidle : rxLast x.1 false = (x.1, []) := by
      unfold rxLast
      split
      · rfl
      · rfl
    rw [hidle]
    refine ⟨?_, List.append_nil _⟩
    unfold ReadyFor
    rw [if_neg (Nat.succ_ne_zero j)]
    exact hnext

/-- What `maybe_send_raw_hid_event` puts at the start of its packet. -/
def eventBytes (num : Nat) (data : Option Bytes) : Bytes :=
  [0xff, UInt8.ofNat num] ++
    match data with
    | some data => UInt8.ofNat data.length :: data
    | none => [0]

theorem eventBytes_eq (num : Nat) (data : Option Bytes) :
    eventBytes num data = 0xff :: UInt8.ofNat num :: UInt8.ofNat (data.getD []).length :: data.getD [] := by
  cases data <;> rfl

/-- An event packet, as the host sees it. -/
theorem rxPacketBuf_event (num : Nat) (data : Option Bytes) {n : Nat} (m : Mem)
    (hn : (eventBytes num data).length ≤ n) :
    let pkt := rxPacketBuf ((m.write 0 (eventBytes num data)).read 0 n)
    pkt 0 = 0xff ∧ pkt 1 = UInt8.ofNat num ∧ pkt 2 = UInt8.ofNat (data.getD []).length ∧
      (pkt.window 3).read 0 (data.getD []).length = data.getD [] := by
  intro pkt
  have hget : ∀ i (hi : i < (eventBytes num data).length), pkt i = (eventBytes num data)[i] := by
    intro i hi
    have hlen : i < ((m.write 0 (eventBytes num data)).read 0 n).length := by
      rw [Mem.length_read]
      omega
    change ((m.write 0 (eventBytes num data)).read 0 n).getD i 0 = _
    rw [List.getD_eq_getElem _ _ hlen, Mem.getElem_read, Nat.zero_add,
      Mem.write_apply_of_mem _ (Nat.zero_le i) (by omega)]
    rfl
  rw [eventBytes_eq] at hget
  refine ⟨hget 0 (by simp), hget 1 (by simp), hget 2 (by simp), ?_⟩
  apply List.ext_getElem (by simp)
  intro i h₁ h₂
  rw [Mem.getElem_read, Mem.window_apply, Nat.zero_add, Nat.add_comm, hget (i + 3) (by simp; omega)]
  rfl

/-- **An event goes past the response that is being put together.** -/
theorem hostTake_event (e : SentEvent d) (m : Mem) {r : SentResponse d} {j : Nat} {h : HostRx}
    (hs : ReadyFor r j h.rx) (reqs : Nat → Request) :
    let h' := hostTake d reqs h ((m.write 0 (eventBytes e.num e.data)).read 0 d.hidLink.rawHidPacketSize)
    ReadyFor r j h'.rx ∧ ∃ c, h'.calls = h.calls ++ [c] ∧ c.passed? = none ∧
      ∀ i, c.event? i = if i = e.num then some (e.data.getD []) else none := by
  intro h'
  have hnum := e.bit
  have hdata : (e.data.getD []).length + 2 ≤ d.hidLink.rawHidPayloadSize ∧
      (e.data.getD []).length < 256 := by
    cases hd : e.data with
    | none =>
      have hpos := d.hidLink.header_lt
      unfold CMD_PACKET_HEADER_SIZE at hpos
      exact ⟨by simp; omega, by simp⟩
    | some b => exact e.fits b hd
  have hsize := rawHidPacketSize_eq (d := d)
  obtain ⟨h0, h1, h2, h3⟩ := rxPacketBuf_event e.num e.data
    (n := d.hidLink.rawHidPacketSize) m (by rw [eventBytes_eq]; simp only [List.length_cons]; omega)
  obtain ⟨msg, hm, -, -, hready⟩ := pending_message hs reqs
  have hstep : h' = hostTake d reqs h
      ((m.write 0 (eventBytes e.num e.data)).read 0 d.hidLink.rawHidPacketSize) := rfl
  unfold hostTake at hstep
  dsimp only at hstep
  rw [hm] at hstep
  generalize rxPacketBuf ((m.write 0 (eventBytes e.num e.data)).read 0 d.hidLink.rawHidPacketSize) =
    pkt at h0 h1 h2 h3 hstep
  have hseq : packetSeq pkt = 0x7f := by
    unfold packetSeq
    rw [h0]
    rfl
  unfold processRxPacket at hstep
  rw [if_pos hseq] at hstep
  rw [hstep]
  refine ⟨hready, _, rfl, rfl, fun i => ?_⟩
  simp only [HostCall.event?, h1, h2]
  rw [UInt8.toNat_ofNat', UInt8.toNat_ofNat', Nat.mod_eq_of_lt (by omega), Nat.mod_eq_of_lt hdata.2]
  by_cases hi : i = e.num
  · rw [if_pos hi.symm, if_pos hi, h3]
  · rw [if_neg (fun h => hi h.symm), if_neg hi]

end SignetBase

/-
  SignetBase/FirmwareHc/TxRing.lean
  =================================
  **The transmit ring of the FIDO interface (`fido_device.c`, `usbd_hid.c`).**

  `ctaphid_write_block` puts a packet into a ring of 2048 bytes and starts the endpoint when
  the ring was empty; the completion of a packet starts the next one.  The ring is a tape of
  packets (`Tape.lean`) read at its cursor, and it hands over every packet once and in order
  as long as at most 31 of them wait.  A packet that comes when 31 wait makes the two cursors
  meet, and the assertion of `ctaphid_write_block` fires: nothing holds a writer back.
-/
import Mathlib.Data.List.Induction
import SignetBase.Memory
import SignetBase.Tape

namespace SignetBase.FirmwareHc

open Function

/-! ### The code -/

def HID_MESSAGE_SIZE : Nat := 64

/-- `sizeof(ctaphid_tx_buffer)`. -/
def CTAPHID_TX_BUFFER_SIZE : Nat := 2048

/-- The packets that the ring has cells for. -/
def TX_SLOTS : Nat := CTAPHID_TX_BUFFER_SIZE / HID_MESSAGE_SIZE

/-- The 64 bytes of a report. -/
abbrev Packet := { b : Bytes // b.length = HID_MESSAGE_SIZE }

/-- The report that a pointer points to. -/
def packetAt (m : Mem) (off : Nat) : Packet :=
  ⟨m.read off HID_MESSAGE_SIZE, Mem.length_read _ _ _⟩

/-- The ring, the HID state of the FIDO interface (`hhid`), what the endpoint is sending, and the
    packets handed to the endpoint and sent by it so far. -/
structure TxRing where
  ctaphidTxBuffer : Mem
  ctapHidBytesRead : Nat
  ctapHidBytesWrite : Nat
  hidBusy : Bool
  txReport : Option Nat
  transmitting : Option Nat
  handed : List Packet
  sent : List Packet
  failed : Bool

namespace TxRing

variable (s : TxRing)

/-- `assert`: the firmware stops. -/
def assert (cond : Prop) [Decidable cond] : TxRing :=
  if cond then s else { s with failed := true }

/-- `USBD_HID_SendReport` on a configured device. -/
def usbdHidSendReport (report : Nat) : TxRing :=
  if ¬ s.hidBusy then
    { s with
      hidBusy := true
      transmitting := some report
      handed := s.handed ++ [packetAt s.ctaphidTxBuffer report] }
  else s.assert False

/-- `usb_send_bytes`. -/
def usbSendBytes (data : Nat) : TxRing :=
  if s.hidBusy then
    let s := s.assert (s.txReport = none)
    { s with txReport := some data }
  else s.usbdHidSendReport data

/-- `ctaphid_write_block`. -/
def ctaphidWriteBlock (data : Packet) : TxRing :=
  let s := { s with ctaphidTxBuffer := s.ctaphidTxBuffer.write s.ctapHidBytesRead data.1 }
  let s := if s.ctapHidBytesRead = s.ctapHidBytesWrite then s.usbSendBytes s.ctapHidBytesWrite else s
  let s := { s with
    ctapHidBytesRead := (s.ctapHidBytesRead + HID_MESSAGE_SIZE) % CTAPHID_TX_BUFFER_SIZE }
  if s.ctapHidBytesRead = s.ctapHidBytesWrite then s.assert False else s

/-- `ctaphid_write_packet_sent`. -/
def ctaphidWritePacketSent : TxRing :=
  if s.ctapHidBytesRead ≠ s.ctapHidBytesWrite then
    let s := { s with
      ctapHidBytesWrite := (s.ctapHidBytesWrite + HID_MESSAGE_SIZE) % CTAPHID_TX_BUFFER_SIZE }
    if s.ctapHidBytesRead ≠ s.ctapHidBytesWrite then s.usbSendBytes s.ctapHidBytesWrite else s
  else s

/-- `USBD_HID_DataIn` for the FIDO interface: the endpoint has sent what it was given. -/
def usbdHidDataIn : TxRing :=
  let s := { s with hidBusy := false }
  let s := match s.txReport with
    | some report => { s.usbdHidSendReport report with txReport := none }
    | none => s
  s.ctaphidWritePacketSent

end TxRing

/-- A packet is written, or the endpoint has sent one. -/
inductive TxEvent where
  | write (data : Packet)
  | dataIn

namespace TxRing

/-- The buffer and the interface after a start. -/
def start (buffer : Mem) : TxRing := ⟨buffer, 0, 0, false, none, none, [], [], false⟩

/-- Both functions run with interrupts off.  The endpoint completes what it is sending; a firmware
    that has stopped does nothing any more. -/
def step (s : TxRing) (e : TxEvent) : TxRing :=
  if s.failed then s
  else match e with
    | .write data => s.ctaphidWriteBlock data
    | .dataIn =>
      match s.transmitting with
      | none => s
      | some report =>
        { s with transmitting := none, sent := s.sent ++ [packetAt s.ctaphidTxBuffer report] }
          |>.usbdHidDataIn

def run (buffer : Mem) (es : List TxEvent) : TxRing := es.foldl step (start buffer)

end TxRing

/-! ### What the ring is for -/

/-- An event on the tape of packets: the cursor is behind the packets that were sent. -/
def tapeStep (t : Tape Packet) : TxEvent → Tape Packet
  | .write data => t.write data
  | .dataIn => t.read

def tapeRun (es : List TxEvent) : Tape Packet := es.foldl tapeStep ⟨[], 0, none⟩

/-- The packets that wait to be sent. -/
def waiting (t : Tape Packet) : Nat := t.words.length - t.cursor

/-- At no time do more than 31 packets wait. -/
def NeverFull (es : List TxEvent) : Prop :=
  ∀ pre post, es = pre ++ post → waiting (tapeRun pre) < TX_SLOTS

/-- The cells of the ring. -/
def slots (m : Mem) (i : Nat) : Packet := packetAt m (HID_MESSAGE_SIZE * i)

/-- The ring holds the packets that wait, the endpoint is sending the first of them, and all
    before it are sent, each once and in order. -/
structure Delivers (t : Tape Packet) (s : TxRing) : Prop where
  failed : s.failed = false
  mark : t.mark = none
  held : t.Held TX_SLOTS (slots s.ctaphidTxBuffer)
  read : s.ctapHidBytesRead = HID_MESSAGE_SIZE * (t.words.length % TX_SLOTS)
  write : s.ctapHidBytesWrite = HID_MESSAGE_SIZE * (t.cursor % TX_SLOTS)
  busy : s.hidBusy = decide (t.cursor < t.words.length)
  report : s.txReport = none
  transmitting : s.transmitting =
    if t.cursor < t.words.length then some s.ctapHidBytesWrite else none
  handed : s.handed = t.words.take (t.cursor + 1)
  sent : s.sent = t.words.take t.cursor

theorem slots_write (m : Mem) (i : Nat) (data : Packet) :
    slots (m.write (HID_MESSAGE_SIZE * i) data.1) = update (slots m) i data := by
  funext j
  by_cases h : j = i
  · subst h
    rw [update_self]
    exact Subtype.ext (Mem.read_write m _ _ _ data.2.symm)
  · rw [update_of_ne h]
    refine Subtype.ext (Mem.read_write_disjoint m ?_)
    rw [data.2]
    unfold HID_MESSAGE_SIZE
    omega

theorem next_cell (k : Nat) :
    (HID_MESSAGE_SIZE * (k % TX_SLOTS) + HID_MESSAGE_SIZE) % CTAPHID_TX_BUFFER_SIZE =
      HID_MESSAGE_SIZE * ((k + 1) % TX_SLOTS) := by
  have hsize : CTAPHID_TX_BUFFER_SIZE = HID_MESSAGE_SIZE * TX_SLOTS := by decide
  rw [hsize, ← Nat.mul_succ, Nat.mul_mod_mul_left, Nat.succ_eq_add_one, Nat.mod_add_mod]

theorem cell_eq_iff (j k : Nat) :
    HID_MESSAGE_SIZE * j = HID_MESSAGE_SIZE * k ↔ j = k :=
  Nat.mul_right_inj (by decide)

namespace Delivers

variable {t : Tape Packet} {s : TxRing}

theorem low_eq (h : Delivers t s) : t.low = t.cursor := by
  unfold Tape.low
  rw [h.mark]
  rfl

theorem start (buffer : Mem) : Delivers ⟨[], 0, none⟩ (TxRing.start buffer) := by
  refine ⟨rfl, rfl, ⟨Nat.le_refl _, Nat.le_refl _, by decide, ?_⟩, rfl, rfl, rfl, rfl, rfl, rfl,
    rfl⟩
  intro k hk
  cases hk

theorem read_eq_write_iff (h : Delivers t s) :
    s.ctapHidBytesRead = s.ctapHidBytesWrite ↔ t.cursor = t.words.length := by
  rw [h.read, h.write, cell_eq_iff]
  exact h.held.empty_iff

/-- The cursors meet behind a packet when 31 others wait. -/
theorem next_eq_write_iff (h : Delivers t s) :
    HID_MESSAGE_SIZE * ((t.words.length + 1) % TX_SLOTS) = s.ctapHidBytesWrite ↔
      waiting t + 1 = TX_SLOTS := by
  have hfull := h.held.full_iff
  have hle := h.held.cursor_le
  rw [h.low_eq] at hfull
  rw [h.write, cell_eq_iff, hfull]
  unfold waiting
  omega

/-- What `ctaphid_write_block` does up to its assertion. -/
theorem written (h : Delivers t s) (data : Packet) (hroom : waiting t + 1 < TX_SLOTS) :
    let s' := { s with
      ctaphidTxBuffer := s.ctaphidTxBuffer.write s.ctapHidBytesRead data.1 }
    let s' := if s.ctapHidBytesRead = s.ctapHidBytesWrite then s'.usbSendBytes s.ctapHidBytesWrite
      else s'
    Delivers (t.write data) { s' with
      ctapHidBytesRead := HID_MESSAGE_SIZE * ((t.words.length + 1) % TX_SLOTS) } := by
  have hle := h.held.cursor_le
  have hlen : (t.write data).words.length = t.words.length + 1 := List.length_append
  have hbuffer : slots (s.ctaphidTxBuffer.write s.ctapHidBytesRead data.1) =
      update (slots s.ctaphidTxBuffer) (t.words.length % TX_SLOTS) data := by
    rw [h.read]
    exact slots_write _ _ data
  have hheld : (t.write data).Held TX_SLOTS
      (slots (s.ctaphidTxBuffer.write s.ctapHidBytesRead data.1)) := by
    rw [hbuffer]
    refine h.held.write data ?_
    rw [h.low_eq]
    unfold waiting at hroom
    omega
  have hcell : packetAt (s.ctaphidTxBuffer.write s.ctapHidBytesRead data.1) s.ctapHidBytesRead =
      data := by
    have hself := congrFun hbuffer (t.words.length % TX_SLOTS)
    rw [update_self] at hself
    rw [h.read] at hself ⊢
    exact hself
  have hlt : t.cursor < (t.write data).words.length := by
    rw [hlen]
    exact Nat.lt_succ_of_le hle
  dsimp only
  by_cases hempty : t.cursor = t.words.length
  · -- no packet waits: the endpoint is given this one
    have hidle : s.hidBusy = false := by
      rw [h.busy, hempty]
      exact decide_eq_false (Nat.lt_irrefl _)
    have heq := h.read_eq_write_iff.mpr hempty
    rw [if_pos heq]
    simp only [TxRing.usbSendBytes, TxRing.usbdHidSendReport, hidle, Bool.false_eq_true, if_false,
      not_false_eq_true, if_true]
    refine ⟨h.failed, h.mark, hheld, by rw [hlen], h.write, (decide_eq_true hlt).symm, h.report,
      (if_pos hlt).symm, ?_, ?_⟩
    · change s.handed ++ [_] = (t.words ++ [data]).take (t.cursor + 1)
      rw [← heq, hcell, h.handed, hempty, List.take_of_length_le (Nat.le_succ _),
        List.take_of_length_le (by rw [List.length_append]; exact Nat.le_refl _)]
    · change s.sent = (t.words ++ [data]).take t.cursor
      rw [h.sent, List.take_append_of_le_length hle]
  · rw [if_neg fun heq => hempty (h.read_eq_write_iff.mp heq)]
    have hbusy : t.cursor < t.words.length := Nat.lt_of_le_of_ne hle hempty
    refine ⟨h.failed, h.mark, hheld, by rw [hlen], h.write, ?_, h.report, ?_, ?_, ?_⟩
    · change s.hidBusy = _
      rw [h.busy, decide_eq_true hbusy]
      exact (decide_eq_true hlt).symm
    · change s.transmitting = if t.cursor < (t.write data).words.length then _ else _
      rw [h.transmitting, if_pos hbusy, if_pos hlt]
    · change s.handed = (t.words ++ [data]).take (t.cursor + 1)
      rw [h.handed, List.take_append_of_le_length hbusy]
    · change s.sent = (t.words ++ [data]).take t.cursor
      rw [h.sent, List.take_append_of_le_length hle]

theorem writeBlock (h : Delivers t s) (data : Packet) (hroom : waiting t + 1 < TX_SLOTS) :
    Delivers (t.write data) (s.ctaphidWriteBlock data) := by
  have hwritten := h.written data hroom
  have hne := fun heq => Nat.ne_of_lt hroom (h.next_eq_write_iff.mp heq)
  have hread : (if s.ctapHidBytesRead = s.ctapHidBytesWrite then
        { s with
          ctaphidTxBuffer := s.ctaphidTxBuffer.write s.ctapHidBytesRead data.1 }.usbSendBytes
            s.ctapHidBytesWrite
      else { s with
        ctaphidTxBuffer := s.ctaphidTxBuffer.write s.ctapHidBytesRead data.1 }).ctapHidBytesRead =
          s.ctapHidBytesRead := by
    unfold TxRing.usbSendBytes TxRing.usbdHidSendReport TxRing.assert
    repeat' split
    all_goals rfl
  have hwrite : (if s.ctapHidBytesRead = s.ctapHidBytesWrite then
        { s with
          ctaphidTxBuffer := s.ctaphidTxBuffer.write s.ctapHidBytesRead data.1 }.usbSendBytes
            s.ctapHidBytesWrite
      else { s with
        ctaphidTxBuffer := s.ctaphidTxBuffer.write s.ctapHidBytesRead data.1 }).ctapHidBytesWrite =
          s.ctapHidBytesWrite := by
    unfold TxRing.usbSendBytes TxRing.usbdHidSendReport TxRing.assert
    repeat' split
    all_goals rfl
  unfold TxRing.ctaphidWriteBlock
  dsimp only at hwritten ⊢
  generalize (if s.ctapHidBytesRead = s.ctapHidBytesWrite then
        { s with
          ctaphidTxBuffer := s.ctaphidTxBuffer.write s.ctapHidBytesRead data.1 }.usbSendBytes
            s.ctapHidBytesWrite
      else { s with
        ctaphidTxBuffer := s.ctaphidTxBuffer.write s.ctapHidBytesRead data.1 }) = s'
    at hwritten hread hwrite ⊢
  have hcursor : (s'.ctapHidBytesRead + HID_MESSAGE_SIZE) % CTAPHID_TX_BUFFER_SIZE =
      HID_MESSAGE_SIZE * ((t.words.length + 1) % TX_SLOTS) := by
    rw [hread, h.read, next_cell]
  rw [hcursor, if_neg (by rw [hwrite]; exact hne)]
  exact hwritten

/-- A packet that comes when 31 wait fires the assertion. -/
theorem writeBlock_full (h : Delivers t s) (data : Packet) (hfull : waiting t + 1 = TX_SLOTS) :
    (s.ctaphidWriteBlock data).failed = true := by
  have hne : s.ctapHidBytesRead ≠ s.ctapHidBytesWrite := by
    intro heq
    have hempty := h.read_eq_write_iff.mp heq
    unfold waiting at hfull
    rw [hempty, Nat.sub_self] at hfull
    cases hfull
  unfold TxRing.ctaphidWriteBlock
  dsimp only
  rw [if_neg hne, h.read, next_cell, if_pos (h.next_eq_write_iff.mpr hfull)]
  rfl

/-- The completion of a packet starts the next one. -/
theorem packetSent (h : Delivers t s) (hbusy : t.cursor < t.words.length) :
    Delivers t.read ({ s with
      transmitting := none
      sent := s.sent ++ [packetAt s.ctaphidTxBuffer s.ctapHidBytesWrite] } : TxRing).usbdHidDataIn := by
  have hread : t.read = { t with cursor := t.cursor + 1 } := if_pos hbusy
  have hlow := h.low_eq
  have hcell : packetAt s.ctaphidTxBuffer s.ctapHidBytesWrite = t.words[t.cursor] := by
    rw [h.write]
    exact h.held.cells t.cursor hbusy (Nat.le_of_eq hlow)
  have hsent : s.sent ++ [packetAt s.ctaphidTxBuffer s.ctapHidBytesWrite] =
      t.words.take (t.cursor + 1) := by
    rw [h.sent, hcell, List.take_append_getElem]
  have hheld : t.read.Held TX_SLOTS (slots s.ctaphidTxBuffer) := h.held.read
  have hne : s.ctapHidBytesRead ≠ s.ctapHidBytesWrite := by
    intro heq
    exact Nat.ne_of_lt hbusy (h.read_eq_write_iff.mp heq)
  have hnext : (s.ctapHidBytesWrite + HID_MESSAGE_SIZE) % CTAPHID_TX_BUFFER_SIZE =
      HID_MESSAGE_SIZE * ((t.cursor + 1) % TX_SLOTS) := by
    rw [h.write, next_cell]
  have hmore : s.ctapHidBytesRead = HID_MESSAGE_SIZE * ((t.cursor + 1) % TX_SLOTS) ↔
      t.cursor + 1 = t.words.length := by
    have hempty := hheld.empty_iff
    rw [hread] at hempty
    rw [h.read, cell_eq_iff]
    exact hempty
  rw [hread] at hheld ⊢
  unfold TxRing.usbdHidDataIn TxRing.ctaphidWritePacketSent
  dsimp only
  rw [h.report]
  dsimp only
  rw [if_pos hne, hnext]
  by_cases hlast : t.cursor + 1 = t.words.length
  · rw [if_neg (not_not_intro (hmore.mpr hlast))]
    have hnot : ¬ t.cursor + 1 < t.words.length := Nat.not_lt.mpr (Nat.le_of_eq hlast.symm)
    refine ⟨h.failed, h.mark, hheld, h.read, rfl, (decide_eq_false hnot).symm, rfl,
      (if_neg hnot).symm, ?_, hsent⟩
    rw [h.handed, hlast, List.take_of_length_le (Nat.le_refl _),
      List.take_of_length_le (Nat.le_succ _)]
  · rw [if_pos fun heq => hlast (hmore.mp heq)]
    have hlt : t.cursor + 1 < t.words.length := Nat.lt_of_le_of_ne hbusy hlast
    have hcell' : packetAt s.ctaphidTxBuffer (HID_MESSAGE_SIZE * ((t.cursor + 1) % TX_SLOTS)) =
        t.words[t.cursor + 1] :=
      h.held.cells (t.cursor + 1) hlt (Nat.le_succ_of_le (Nat.le_of_eq hlow))
    simp only [TxRing.usbSendBytes, TxRing.usbdHidSendReport, Bool.false_eq_true, if_false,
      not_false_eq_true, if_true]
    refine ⟨h.failed, h.mark, hheld, h.read, rfl, (decide_eq_true hlt).symm, rfl,
      (if_pos hlt).symm, ?_, hsent⟩
    rw [h.handed, hcell', List.take_append_getElem]

end Delivers

/-! ### Whole runs -/

theorem NeverFull.init {es : List TxEvent} {e : TxEvent} (h : NeverFull (es ++ [e])) :
    NeverFull es := by
  rintro pre post rfl
  exact h pre (post ++ [e]) (List.append_assoc _ _ _)

theorem tapeRun_append (es : List TxEvent) (e : TxEvent) :
    tapeRun (es ++ [e]) = tapeStep (tapeRun es) e := by
  unfold tapeRun
  rw [List.foldl_append]
  rfl

theorem TxRing.run_append (buffer : Mem) (es : List TxEvent) (e : TxEvent) :
    run buffer (es ++ [e]) = (run buffer es).step e := by
  unfold run
  rw [List.foldl_append]
  rfl

/-- A run never fuller than 31 packets goes on when its last event does. -/
theorem neverFull_append_iff (es : List TxEvent) (e : TxEvent) :
    NeverFull (es ++ [e]) ↔ NeverFull es ∧ waiting (tapeRun (es ++ [e])) < TX_SLOTS := by
  constructor
  · intro h
    exact ⟨h.init, h (es ++ [e]) [] (List.append_nil _).symm⟩
  · rintro ⟨h, hlast⟩ pre post heq
    rcases List.eq_nil_or_concat post with rfl | ⟨post', e', rfl⟩
    · rw [List.append_nil] at heq
      rw [← heq]
      exact hlast
    · rw [List.concat_eq_append, ← List.append_assoc] at heq
      exact h pre post' (List.append_inj' heq rfl).1

/-- One event: the ring delivers as long as no more than 31 packets wait, and fails otherwise. -/
theorem Delivers.step {t : Tape Packet} {s : TxRing} (h : Delivers t s) (e : TxEvent) :
    (waiting (tapeStep t e) < TX_SLOTS ∧ Delivers (tapeStep t e) (s.step e)) ∨
      (¬ waiting (tapeStep t e) < TX_SLOTS ∧ (s.step e).failed = true) := by
  have hle := h.held.cursor_le
  have hroom := h.held.room
  rw [h.low_eq] at hroom
  have hgo : ¬ s.failed = true := by
    rw [h.failed]
    exact Bool.false_ne_true
  cases e with
  | write data =>
    have hlen : (t.write data).words.length = t.words.length + 1 := List.length_append
    have hwaiting : waiting (tapeStep t (.write data)) = waiting t + 1 := by
      change (t.write data).words.length - t.cursor = _
      rw [hlen]
      exact Nat.succ_sub hle
    have hstep : s.step (.write data) = s.ctaphidWriteBlock data := if_neg hgo
    rw [hwaiting, hstep]
    by_cases hlt : waiting t + 1 < TX_SLOTS
    · exact .inl ⟨hlt, h.writeBlock data hlt⟩
    · refine .inr ⟨hlt, h.writeBlock_full data ?_⟩
      unfold waiting at hlt ⊢
      omega
  | dataIn =>
    refine .inl ?_
    unfold TxRing.step
    rw [if_neg hgo]
    dsimp only [tapeStep]
    rw [h.transmitting]
    by_cases hbusy : t.cursor < t.words.length
    · have hread : t.read = { t with cursor := t.cursor + 1 } := if_pos hbusy
      rw [if_pos hbusy]
      refine ⟨?_, h.packetSent hbusy⟩
      rw [hread]
      unfold waiting
      dsimp only
      omega
    · have hread : t.read = t := if_neg hbusy
      rw [if_neg hbusy, hread]
      refine ⟨?_, h⟩
      unfold waiting
      omega

/-- A firmware that has stopped stays so. -/
theorem TxRing.step_failed {s : TxRing} (h : s.failed = true) (e : TxEvent) : s.step e = s :=
  if_pos h

/-- The run delivers exactly when the ring is never full; otherwise the assertion fires. -/
theorem delivers_or_failed (buffer : Mem) (es : List TxEvent) :
    (NeverFull es ∧ Delivers (tapeRun es) (TxRing.run buffer es)) ∨
      (¬ NeverFull es ∧ (TxRing.run buffer es).failed = true) := by
  induction es using List.reverseRecOn with
  | nil =>
    refine .inl ⟨?_, Delivers.start buffer⟩
    intro pre post heq
    rw [(List.append_eq_nil_iff.mp heq.symm).1]
    decide
  | append_singleton es e ih =>
    rw [neverFull_append_iff, tapeRun_append, TxRing.run_append]
    rcases ih with ⟨hnever, hdelivers⟩ | ⟨hfull, hfailed⟩
    · rcases hdelivers.step e with ⟨hlt, hstep⟩ | ⟨hge, hstep⟩
      · exact .inl ⟨⟨hnever, hlt⟩, hstep⟩
      · exact .inr ⟨fun hand => hge hand.2, hstep⟩
    · refine .inr ⟨fun hand => hfull hand.1, ?_⟩
      rw [TxRing.step_failed hfailed]
      exact hfailed

end SignetBase.FirmwareHc

/-
  SignetBase/Host/TransportProgress.lean
  ======================================
  **Every message has its response in the end.**

  While the connection is there and the device ends the responses that are awaited, each turn
  of the loop writes a packet, takes up a message or reads a packet that is due, so the loop
  comes to a state with no message queued and none awaiting (`HostInv.settles`).  With the
  invariant of `TransportRuns` this gives what a caller relies on (`messages_transported`).
-/
import Mathlib.Data.Prod.Lex
import Mathlib.Order.Lattice.Nat
import SignetBase.Host.TransportRuns

namespace SignetBase.HostThread

open Function

variable {s : HostThread} {p : Nat}

/-! ### What a turn leaves as it is -/

/-- The same commands were issued. -/
structure SameIssued (s s' : HostThread) : Prop where
  reqs : s'.log.reqs = s.log.reqs
  issued : s'.log.issued = s.log.issued

/-- The same messages are queued besides. -/
structure SameQueues (s s' : HostThread) : Prop extends SameIssued s s' where
  messages : s'.messages = s.messages
  cancelMessages : s'.cancelMessages = s.cancelMessages

theorem SameIssued.trans {s s' s'' : HostThread} (h : SameIssued s s') (h' : SameIssued s' s'') :
    SameIssued s s'' := ⟨h'.reqs.trans h.reqs, h'.issued.trans h.issued⟩

theorem sameQueues_finalizeMessage (s : HostThread) (p : Nat) (passedOn : Bool) :
    SameQueues s (HostThread.finalizeMessage s p passedOn) ∧
      (HostThread.finalizeMessage s p passedOn).txMessage = s.txMessage ∧
      (HostThread.finalizeMessage s p passedOn).rxMessage = s.rxMessage ∧
      (HostThread.finalizeMessage s p passedOn).tx = s.tx := by
  unfold HostThread.finalizeMessage
  split
  · exact ⟨⟨⟨rfl, rfl⟩, rfl, rfl⟩, rfl, rfl, rfl⟩
  · exact ⟨⟨⟨rfl, rfl⟩, rfl, rfl⟩, rfl, rfl, rfl⟩

theorem sameQueues_finalizeUnasked (s : HostThread) (p : Nat) (m : SendMessageReq) :
    SameQueues s (HostThread.finalizeUnasked s p m) ∧
      (HostThread.finalizeUnasked s p m).txMessage = s.txMessage ∧
      (HostThread.finalizeUnasked s p m).rxMessage = s.rxMessage := by
  unfold HostThread.finalizeUnasked
  split
  · exact ⟨⟨⟨rfl, rfl⟩, rfl, rfl⟩, rfl, rfl⟩
  · obtain ⟨hsame, htx, hrx, -⟩ := sameQueues_finalizeMessage s p true
    exact ⟨hsame, htx, hrx⟩

/-- The messages that are queued or await their response; taking one up lowers it. -/
def queued (s : HostThread) : Nat :=
  2 * s.messages.length + s.cancelMessages.length + (if s.rxMessage.isSome then 1 else 0)

theorem queued_le (s : HostThread) :
    s.queued ≤ 2 * s.messages.length + s.cancelMessages.length + 1 := by
  unfold queued
  split
  · exact Nat.le_refl _
  · exact Nat.le_succ _

/-- The turns until the message being transmitted is let go. -/
def unsent (s : HostThread) : Nat :=
  if s.txMessage.isSome then s.tx.msgPacketCount - s.tx.msgPacketSeq + 1 else 0

/-- What is left to do, when `left` packets come before the one that ends the response. -/
def work (left : Nat) (s : HostThread) : ℕ ×ₗ (ℕ ×ₗ ℕ) :=
  toLex (s.queued, toLex (s.unsent + (if s.looping then 0 else 1), left))

section Work

variable {left left' : Nat} {s s' : HostThread}

theorem work_lt_of_queued (h : s'.queued < s.queued) : s'.work left' < s.work left :=
  Prod.Lex.toLex_lt_toLex.mpr (.inl h)

theorem work_lt_of_unsent (h : s'.queued = s.queued)
    (hu : s'.unsent + (if s'.looping then 0 else 1) < s.unsent + (if s.looping then 0 else 1)) :
    s'.work left' < s.work left :=
  Prod.Lex.toLex_lt_toLex.mpr (.inr ⟨h, Prod.Lex.toLex_lt_toLex.mpr (.inl hu)⟩)

theorem work_lt_of_left (h : s'.queued = s.queued)
    (hu : s'.unsent + (if s'.looping then 0 else 1) = s.unsent + (if s.looping then 0 else 1))
    (hl : left' < left) : s'.work left' < s.work left :=
  Prod.Lex.toLex_lt_toLex.mpr (.inr ⟨h, Prod.Lex.toLex_lt_toLex.mpr (.inr ⟨hu, hl⟩)⟩)

end Work

/-! ### Turns that write -/

/-- **A message is taken up**, or one is being transmitted already. -/
theorem takeMessage_cases (hi : s.HostInv) (hmore : s.messages ≠ [] ∨ s.rxMessage ≠ none) :
    SameIssued s s.takeMessage ∧
      (s.takeMessage.txMessage = none → s.takeMessage = s ∧ s.rxMessage ≠ none) ∧
      (s.txMessage ≠ none → s.takeMessage = s) ∧
      (s.txMessage = none → s.takeMessage.txMessage ≠ none → s.takeMessage.queued < s.queued) := by
  unfold HostThread.takeMessage
  cases htx : s.txMessage with
  | some p =>
    rw [Option.isSome_some, if_pos rfl]
    exact ⟨⟨rfl, rfl⟩, fun h => absurd (htx.symm.trans h) (by simp), fun _ => rfl,
      fun h => absurd h (by simp)⟩
  | none =>
    rw [Option.isSome_none, if_neg Bool.false_ne_true]
    cases hcancels : s.cancelMessages with
    | cons p rest =>
      have hmem : p ∈ s.cancelMessages := by
        rw [hcancels]
        exact List.mem_cons_self
      obtain ⟨m, hheap, -⟩ := hi.live p (.inr (.inl hmem))
      dsimp only
      rw [hheap]
      refine ⟨⟨rfl, rfl⟩, fun h => ?_, fun h => absurd rfl h, fun _ _ => ?_⟩
      · cases h
      · unfold queued
        rw [hcancels, List.length_cons]
        exact Nat.add_lt_add_right (Nat.lt_succ_self _) _
    | nil =>
      dsimp only
      cases hrx : s.rxMessage with
      | some q =>
        rw [Option.isSome_some, if_pos rfl]
        exact ⟨⟨rfl, rfl⟩, fun _ => ⟨rfl, by simp⟩, fun _ => rfl,
          fun _ h => absurd htx h⟩
      | none =>
        rw [Option.isSome_none, if_neg Bool.false_ne_true]
        cases hmessages : s.messages with
        | nil => exact absurd hmore (by simp [hmessages, hrx])
        | cons p rest =>
          have hmem : p ∈ s.messages := by
            rw [hmessages]
            exact List.mem_cons_self
          obtain ⟨m, hheap, -⟩ := hi.live p (.inl hmem)
          dsimp only
          rw [hheap]
          refine ⟨⟨rfl, rfl⟩, fun h => ?_, fun h => absurd rfl h, fun _ _ => ?_⟩
          · cases h
          · refine Nat.lt_of_le_of_lt (queued_le _) ?_
            have hlength : s.messages.length = rest.length + 1 := by rw [hmessages]; rfl
            change 2 * rest.length + ([] : List Nat).length + 1 < s.queued
            unfold queued
            rw [hcancels]
            omega

/-- **A packet is written**, or the message is let go. -/
theorem attemptRawHidWrite_turn (hi : s.HostInv) (hc : s.connected = true)
    (htx : s.txMessage = some p) :
    SameQueues s (s.attemptRawHidWrite .ok).1 ∧ (s.attemptRawHidWrite .ok).2 = false ∧
      (s.attemptRawHidWrite .ok).1.rxMessage = s.rxMessage ∧
      (s.attemptRawHidWrite .ok).1.unsent < s.unsent := by
  obtain ⟨d, hd⟩ := hi.device hc
  obtain ⟨m, hheap, hkind⟩ := hi.live p (.inr (.inr (.inl htx)))
  obtain ⟨d', prepared, hd', -, -, hadv, hle, -⟩ := hi.sending p htx
  obtain rfl : d = d' := Option.some.inj (hd.symm.trans (hd' hc))
  have hbefore : s.unsent = s.tx.msgPacketCount - s.tx.msgPacketSeq + 1 := by
    unfold unsent
    rw [htx, Option.isSome_some, if_pos rfl]
  have hgone : ∀ t : HostThread, t.txMessage = none → t.unsent < s.unsent := by
    intro t ht
    unfold unsent at hbefore ⊢
    rw [hbefore, ht, Option.isSome_none, if_neg Bool.false_ne_true]
    exact Nat.succ_pos _
  unfold HostThread.attemptRawHidWrite
  rw [htx]
  dsimp only
  by_cases hend : s.tx.msgPacketSeq = s.tx.msgPacketCount
  · rw [if_pos hend, hheap]
    dsimp only
    by_cases hget : m.getResp = true
    · rw [if_pos hget]
      exact ⟨⟨⟨rfl, rfl⟩, rfl, rfl⟩, rfl, rfl, hgone _ rfl⟩
    · rw [if_neg hget]
      obtain ⟨hsame, htx', hrx'⟩ := sameQueues_finalizeUnasked { s with
        txMessage := none, log := { s.log with transmitted := s.log.transmitted ++ [p] } } p m
      exact ⟨⟨⟨hsame.reqs, hsame.issued⟩, hsame.messages, hsame.cancelMessages⟩, rfl, hrx',
        hgone _ htx'⟩
  · rw [if_neg hend, hd, hc]
    obtain ⟨-, -, hcount⟩ := advanced_frame (d := d) prepared s.tx.msgPacketSeq
    rw [← hadv] at hcount
    have hafter : ∀ t : HostThread, t.txMessage = some p → t.tx = advanceMessageState d s.tx →
        t.unsent < s.unsent := by
      intro t ht htx'
      have hseq : (advanceMessageState d s.tx).msgPacketSeq = s.tx.msgPacketSeq + 1 := rfl
      have hkeep : (advanceMessageState d s.tx).msgPacketCount = s.tx.msgPacketCount := rfl
      unfold unsent at hbefore ⊢
      rw [hbefore, ht, htx', Option.isSome_some, if_pos rfl, hseq, hkeep]
      omega
    exact ⟨⟨⟨rfl, rfl⟩, rfl, rfl⟩, rfl, rfl, hafter _ rfl rfl⟩

/-! ### Turns that read -/

/-- A welcome packet leaves the queues as they are, and ends the response or leaves the message
    waiting. -/
theorem processPacket_turn (hi : s.HostInv) (hc : s.connected = true) {buf : Mem}
    (hw : s.Welcome buf) (hrx : s.rxMessage ≠ none) :
    SameQueues s (s.processPacket buf) ∧ (s.processPacket buf).txMessage = s.txMessage ∧
      (s.processPacket buf).tx = s.tx ∧
      (s.endsResponse buf = true → (s.processPacket buf).rxMessage = none) ∧
      ((s.processPacket buf).rxMessage = none ∨ (s.processPacket buf).rxMessage = s.rxMessage) := by
  obtain ⟨d, hd⟩ := hi.device hc
  obtain ⟨p, hp⟩ := Option.ne_none_iff_exists'.mp hrx
  obtain ⟨m, hheap, -⟩ := hi.live p (.inr (.inr (.inr hp)))
  obtain ⟨-, hpass⟩ := hw p hp
  unfold HostThread.processPacket
  by_cases hseq : packetSeq buf = 0x7f
  · rw [if_pos hseq]
    refine ⟨⟨⟨rfl, rfl⟩, rfl, rfl⟩, rfl, rfl, fun h => ?_, .inr rfl⟩
    unfold endsResponse at h
    rw [hseq] at h
    cases h
  · have hpassed : (processRxPacket d { s.rx with message := some m } buf).calls.all (passesOn d) =
        true := List.all_eq_true.mpr (hpass d m hd hheap)
    have hmessage := processRxPacket_message s d m hseq
    rw [if_neg hseq, hp]
    dsimp only
    rw [hheap, hd]
    dsimp only
    rw [hpassed]
    generalize processRxPacket d { s.rx with message := some m } buf = x at hmessage
    rcases hmessage with ⟨hnone, -⟩ | ⟨hnot, m', hsome, -⟩
    · rw [hnone]
      dsimp only
      obtain ⟨hsame, htx, hrx', htx'⟩ := sameQueues_finalizeMessage { s with
        deviceType := some d, rx := { x.state with message := none }, rxMessage := none } p true
      exact ⟨⟨⟨hsame.reqs, hsame.issued⟩, hsame.messages, hsame.cancelMessages⟩, htx, htx',
        fun _ => hrx', .inl hrx'⟩
    · rw [hsome]
      exact ⟨⟨⟨rfl, rfl⟩, rfl, rfl⟩, rfl, rfl,
        fun h => absurd (hnot.symm.trans h) Bool.false_ne_true, .inr rfl⟩

/-! ### Every turn lowers the work -/

/-- Nothing is queued and nothing awaits a response. -/
def Settled (s : HostThread) : Prop := s.messages = [] ∧ s.rxMessage = none

/-- What a turn of a connected thread keeps. -/
structure Turning (s₀ s : HostThread) : Prop where
  inv : s.HostInv
  connected : s.connected = true
  issued : SameIssued s₀ s

variable {pkt : Mem} {left left' : Nat} {s₀ : HostThread}

theorem HostInv.step_io (hi : s.HostInv) (hloop : s.looping = true) (r : ReadResult) (buf : Mem)
    (w : WriteResult) : s.step (.io r buf w) = s.rawHidIo r buf w := by
  unfold HostThread.step
  rw [if_neg (by rw [hi.fault]; decide), hloop]

theorem HostInv.step_enterLoop (hi : s.HostInv) (hloop : s.looping = false) :
    s.step .enterLoop = { s with looping := s.connected } := by
  unfold HostThread.step
  rw [if_neg (by rw [hi.fault]; decide), hloop]

/-- A turn that reads a packet. -/
theorem rawHidIo_packet (hc : s.connected = true) (hsame : s.takeMessage = s) (buf : Mem)
    (w : WriteResult) {n : Nat} (hn : signetdevPrivHidPacketSize s.deviceType = n) :
    s.rawHidIo (.bytes n) buf w = { s.processPacket buf with looping := true } := by
  have hread : s.attemptRawHidRead (.bytes n) buf = (s.processPacket buf, false) := by
    unfold HostThread.attemptRawHidRead
    rw [hc]
    exact if_pos hn
  unfold HostThread.rawHidIo
  rw [hsame, hread]
  rfl

/-- A turn with nothing to read. -/
theorem rawHidIo_again (hc : s.takeMessage.connected = true) (buf : Mem) (w : WriteResult) :
    s.rawHidIo .again buf w =
      { (s.takeMessage.attemptRawHidWrite w).1 with
        looping := !(s.takeMessage.attemptRawHidWrite w).2 } := by
  have hread : s.takeMessage.attemptRawHidRead .again buf = (s.takeMessage, true) := by
    unfold HostThread.attemptRawHidRead
    rw [hc]
    rfl
  unfold HostThread.rawHidIo
  rw [hread]
  rfl

/-- A thread that waits for a packet takes no message up. -/
theorem HostInv.takeMessage_waits (hi : s.HostInv) (hwaits : s.Waits) : s.takeMessage = s := by
  obtain ⟨-, -, -, htx, hrx⟩ := hwaits
  obtain ⟨-, hnone, -⟩ := takeMessage_cases hi (.inr (Option.isSome_iff_ne_none.mp hrx))
  exact (hnone htx).1

/-- A turn leaves no message behind. -/
theorem HostInv.served_turn (hi : s.HostInv) (hwelcome : s.Waits → s.Welcome pkt) :
    Served s (nextTurn pkt s) := by
  unfold nextTurn
  split
  · trivial
  · split
    case isTrue hwaits =>
      obtain ⟨d, hd⟩ := hi.device hwaits.2.1
      have hsize : signetdevPrivHidPacketSize s.deviceType =
          (signetdevPrivHidPacketSize s.deviceType).toNat := by
        rw [hd]
        rfl
      change if _ = _ then s.takeMessage.Welcome pkt else _
      rw [if_pos hsize, hi.takeMessage_waits hwaits]
      exact hwelcome hwaits
    · exact fun _ => rfl

/-- **A turn that waits for a packet** ends the response or leaves fewer packets to come. -/
theorem Turning.reads (hs : Turning s₀ s) (hwaits : s.Waits) (hwelcome : s.Welcome pkt)
    (hleft : s.endsResponse pkt = true ∨ left' < left) :
    Turning s₀ (s.step (nextTurn pkt s)) ∧
      (s.step (nextTurn pkt s)).work left' < s.work left := by
  obtain ⟨hi, hc, hissued⟩ := hs
  have hloop := hwaits.1
  have hsome := hwaits.2.2.2.2
  have hturn : nextTurn pkt s =
      .io (.bytes (signetdevPrivHidPacketSize s.deviceType).toNat) pkt .ok := by
    unfold nextTurn
    rw [if_neg (by rw [hloop]; decide), if_pos hwaits]
  have hsize : signetdevPrivHidPacketSize s.deviceType =
      (signetdevPrivHidPacketSize s.deviceType).toNat := by
    obtain ⟨d, hd⟩ := hi.device hc
    rw [hd]
    rfl
  have hnext : s.step (nextTurn pkt s) =
      { s.processPacket pkt with looping := true } := by
    rw [hturn, hi.step_io hloop, rawHidIo_packet hc (hi.takeMessage_waits hwaits) _ _ hsize]
  obtain ⟨hp, hpc⟩ := hi.processPacket hc hwelcome
  obtain ⟨hqueues, htx, htx', hnone, hrest⟩ :=
    processPacket_turn hi hc hwelcome (Option.isSome_iff_ne_none.mp hsome)
  constructor
  · rw [hnext]
    exact ⟨hp.setLooping true, hpc, hissued.trans ⟨hqueues.reqs, hqueues.issued⟩⟩
  · have hqueued : ∀ r, (s.processPacket pkt).rxMessage = r →
        (s.step (nextTurn pkt s)).queued =
          2 * s.messages.length + s.cancelMessages.length + (if r.isSome then 1 else 0) := by
      rintro r rfl
      rw [hnext]
      unfold queued
      rw [← hqueues.messages, ← hqueues.cancelMessages]
    have hbefore : s.queued = 2 * s.messages.length + s.cancelMessages.length + 1 := by
      unfold queued
      rw [hsome, if_pos rfl]
    have hends : (s.processPacket pkt).rxMessage = none →
        (s.step (nextTurn pkt s)).work left' < s.work left := by
      intro hgone
      apply work_lt_of_queued
      rw [hqueued _ hgone, hbefore]
      exact Nat.lt_succ_self _
    rcases hrest with hgone | hkept
    · exact hends hgone
    · rcases hleft with hend | hless
      · exact hends (hnone hend)
      · refine work_lt_of_left ?_ ?_ hless
        · rw [hqueued _ hkept, hsome, if_pos rfl, hbefore]
        · rw [hnext, hloop]
          unfold unsent
          rw [← htx, ← htx']

/-- **A turn that does not** writes a packet, or takes a message up. -/
theorem Turning.writes (hs : Turning s₀ s) (hloop : s.looping = true) (hwaits : ¬ s.Waits)
    (hmore : s.messages ≠ [] ∨ s.rxMessage ≠ none) :
    Turning s₀ (s.step (nextTurn pkt s)) ∧
      (s.step (nextTurn pkt s)).work left' < s.work left := by
  obtain ⟨hi, hc, hissued⟩ := hs
  obtain ⟨htissued, htnone, htsome, htlower⟩ := takeMessage_cases hi hmore
  obtain ⟨ht, htc, -⟩ := hi.takeMessage hc
  rw [hc] at htc
  have hturn : nextTurn pkt s = .io .again (fun _ => 0) .ok := by
    unfold nextTurn
    rw [if_neg (by rw [hloop]; decide), if_neg hwaits]
  have htx : s.takeMessage.txMessage ≠ none := by
    intro hnone
    obtain ⟨-, hrx⟩ := htnone hnone
    exact hwaits ⟨hloop, hc, hi.fault, hnone, Option.isSome_iff_ne_none.mpr hrx⟩
  obtain ⟨p, hp⟩ := Option.ne_none_iff_exists'.mp htx
  obtain ⟨hqueues, hblocked, hrx, hless⟩ := attemptRawHidWrite_turn ht htc hp
  obtain ⟨hw, hwc⟩ := ht.attemptRawHidWrite htc (w := .ok) fun _ => rfl
  have hnext : s.step (nextTurn pkt s) =
      { (s.takeMessage.attemptRawHidWrite .ok).1 with looping := true } := by
    rw [hturn, hi.step_io hloop, rawHidIo_again htc, hblocked]
    rfl
  have hqueued : (s.step (nextTurn pkt s)).queued = s.takeMessage.queued := by
    rw [hnext]
    unfold queued
    rw [← hqueues.messages, ← hqueues.cancelMessages, ← hrx]
  constructor
  · rw [hnext]
    exact ⟨hw.setLooping true, hwc,
      hissued.trans (htissued.trans ⟨hqueues.reqs, hqueues.issued⟩)⟩
  · by_cases hfree : s.txMessage = none
    · apply work_lt_of_queued
      rw [hqueued]
      exact htlower hfree htx
    · rw [htsome hfree] at hqueued hless hnext
      refine work_lt_of_unsent hqueued ?_
      rw [hnext, hloop]
      exact hless

/-- **Each turn is permitted and lowers the work.** -/
theorem Turning.turn (hs : Turning s₀ s) (hnot : ¬ s.Settled) (hwelcome : s.Waits → s.Welcome pkt)
    (hleft : s.Waits → s.endsResponse pkt = true ∨ left' < left) :
    Served s (nextTurn pkt s) ∧ Turning s₀ (s.step (nextTurn pkt s)) ∧
      (s.step (nextTurn pkt s)).work left' < s.work left := by
  have hmore : s.messages ≠ [] ∨ s.rxMessage ≠ none := by
    by_contra hnone
    rw [not_or, not_not, not_not] at hnone
    exact hnot hnone
  refine ⟨hs.inv.served_turn hwelcome, ?_⟩
  cases hloop : s.looping with
  | false =>
    obtain ⟨hi, hc, hissued⟩ := hs
    have hturn : nextTurn pkt s = .enterLoop := if_pos hloop
    rw [hturn, hi.step_enterLoop hloop]
    refine ⟨⟨hi.setLooping s.connected, hc, ⟨hissued.reqs, hissued.issued⟩⟩, ?_⟩
    refine work_lt_of_unsent rfl ?_
    rw [hloop, hc]
    exact Nat.lt_succ_self _
  | true =>
    by_cases hwaits : s.Waits
    · exact hs.reads hwaits (hwelcome hwaits) (hleft hwaits)
    · exact hs.writes hloop hwaits hmore

/-- The packet that comes next ends a response. -/
def Ends (packets : Nat → Mem) (s : HostThread) (n : Nat) : Prop :=
  (s.turns packets n).Waits ∧ (s.turns packets n).endsResponse (packets n) = true

/-- How many turns it is to the next packet that ends a response. -/
noncomputable def toEnd (packets : Nat → Mem) (s : HostThread) (n : Nat) : Nat :=
  sInf {k | Ends packets s (n + k)}

variable {packets : Nat → Mem} {n : Nat}

theorem toEnd_succ (hends : ∃ k, n ≤ k ∧ Ends packets s k) :
    Ends packets s n ∨ toEnd packets s (n + 1) < toEnd packets s n := by
  obtain ⟨k, hk, hend⟩ := hends
  obtain ⟨d, rfl⟩ := Nat.exists_eq_add_of_le hk
  have hmem : Ends packets s (n + toEnd packets s n) :=
    Nat.sInf_mem (s := {k | Ends packets s (n + k)}) ⟨d, hend⟩
  cases hto : toEnd packets s n with
  | zero =>
    rw [hto] at hmem
    exact .inl hmem
  | succ d =>
    rw [hto, ← Nat.add_assoc, Nat.add_right_comm] at hmem
    exact .inr (Nat.lt_succ_of_le (Nat.sInf_le hmem))

/-- **The messages of a connected thread are all answered** when the device ends its
    responses. -/
theorem HostInv.settles (hi : s.HostInv) (hc : s.connected = true) (ha : s.Answers packets) :
    s.Settles packets := by
  have hstart : Turning s s := ⟨hi, hc, ⟨rfl, rfl⟩⟩
  obtain ⟨n, ⟨hmessages, hrx⟩, hturning, hall⟩ :=
    drive_done (fun n => (s.turns packets n).work (toEnd packets s n)) hstart
      fun n hturning hnot => hturning.turn hnot (ha.welcome n) fun hwaits =>
        (toEnd_succ (ha.ends n hwaits)).imp_left And.right
  refine ⟨n, hall, fun p hp hasks => ?_⟩
  apply hturning.inv.answered_once hrx
  · rw [hmessages]
    rintro q ⟨⟩
  · rw [hturning.issued.issued]
    exact hp
  · unfold asks at hasks ⊢
    rw [hturning.issued.reqs]
    exact hasks

/-! ### A device that does answer -/

/-- A refusal of one packet.  It announces a block, as the response to a read of one must, and the
    host looks at no more of it. -/
def refusal (type : DeviceType) : Mem :=
  let announced := signetdevDeviceBlockSize type + CMD_PACKET_HEADER_SIZE
  (Mem.put16 (fun _ => 0) 1 announced).write 0 [0x80] |>.write 3
    [CommandResponse.invalidState.code]

theorem refusal_ends (s : HostThread) (d : Device) : s.endsResponse (refusal (some d)) = true := by
  cases d with
  | signet => rfl
  | signetHc => rfl

/-- The host passes a refusal on, whatever it asked for. -/
theorem refusal_passesOn (d : Device) (rx : RxMessageState) {m : SendMessageReq}
    (hask : m.getResp = true) :
    ∀ c ∈ (processRxPacket d { rx with message := some m } (refusal (some d))).calls,
      passesOn d c = true := by
  have hcalls : (processRxPacket d { rx with message := some m } (refusal (some d))).calls =
      if m.interrupt then [] else
        [.commandResp
          { user := m.user, token := m.token, devCmd := m.devCmd, apiCmd := m.apiCmd
            respCode := CommandResponse.invalidState.code.toNat
            resp := rx.asyncResp.copy 0 (refusal (some d))
              (RAW_HID_HEADER_SIZE + CMD_PACKET_HEADER_SIZE)
              (d.hidLink.rawHidPayloadSize - CMD_PACKET_HEADER_SIZE)
            respLen := signetdevDeviceBlockSize (some d)
            endDeviceState := refusal (some d) 6
            expectedMessagesRemaining := 0 }] := by
    cases m with
    | mk devCmd apiCmd payload messagesRemaining getResp user token interrupt endDeviceState =>
      cases hask
      cases d with
      | signet => rfl
      | signetHc => rfl
  rw [hcalls]
  intro c hc
  split at hc
  · cases hc
  · cases List.mem_singleton.mp hc
    change (handleCommandResp d _).data.isSome = true
    generalize m.devCmd = cmd
    cases d with
    | signet => cases cmd <;> rfl
    | signetHc => cases cmd <;> rfl

/-- It is welcome where it is awaited. -/
theorem HostInv.welcome_refusal (hi : s.HostInv) (hwaits : s.Waits) :
    s.Welcome (refusal s.deviceType) := by
  obtain ⟨d, hd⟩ := hi.device hwaits.2.1
  have hfree : s.txMessage = none := by
    rw [← hi.takeMessage_waits hwaits]
    exact hwaits.2.2.2.1
  rw [hd]
  intro p hp
  refine ⟨fun _ htx => ?_, fun d' m hd' hheap => ?_⟩
  · rw [hfree] at htx
    cases htx
  · obtain rfl : d = d' := Option.some.inj (hd.symm.trans hd')
    obtain ⟨m', hheap', hkind⟩ := hi.live p (.inr (.inr (.inr hp)))
    obtain rfl : m = m' := Option.some.inj (hheap.symm.trans hheap')
    exact refusal_passesOn d s.rx (hkind.getResp.trans (hi.waiting p hp).1)

/-- **A device that refuses everything** answers, so its messages are settled. -/
theorem HostInv.answers_refusal (hi : s.HostInv) (hl : s.looping = true → s.connected = true) :
    ∃ packets, s.Answers packets := by
  let next (_ : Nat) (t : HostThread) : HostEvent := nextTurn (refusal t.deviceType) t
  let packets (n : Nat) : Mem := refusal (drive HostThread.step next s n).deviceType
  have hturns : ∀ n, s.turns packets n = drive HostThread.step next s n := by
    intro n
    induction n with
    | zero => rfl
    | succ n ih =>
      change HostThread.step (s.turns packets n) (nextTurn (packets n) (s.turns packets n)) = _
      rw [ih]
      rfl
  have hinv : ∀ n, (drive HostThread.step next s n).HostInv ∧
      ((drive HostThread.step next s n).looping = true →
        (drive HostThread.step next s n).connected = true) := by
    intro n
    induction n with
    | zero => exact ⟨hi, hl⟩
    | succ n ih => exact ih.1.step ih.2 (ih.1.served_turn ih.1.welcome_refusal)
  refine ⟨packets, fun n => ?_, fun n hwaits => ?_⟩
  · rw [hturns]
    exact (hinv n).1.welcome_refusal
  · refine ⟨n, Nat.le_refl n, hwaits, ?_⟩
    rw [hturns] at hwaits ⊢
    obtain ⟨d, hd⟩ := (hinv n).1.device hwaits.2.1
    change HostThread.endsResponse _ (refusal (drive HostThread.step next s n).deviceType) = true
    rw [hd]
    exact refusal_ends _ d
/-! ### Whole runs -/

/-- LOGOUT. -/
def logoutMessage : SendMessageReq where
  devCmd := .logout
  apiCmd := 0
  payload := []
  messagesRemaining := 0
  getResp := true
  user := 0
  token := 0
  interrupt := false
  endDeviceState := 0

/-- The thread before the first command. -/
def startedThread : HostThread := initial logoutMessage ⟨0, 0, none, fun _ => 0, 0⟩

/-- LOGOUT on a connection to the original device, and two turns of the loop. -/
def logoutEvents (w : WriteResult) : List HostEvent :=
  [.openConnection (some .signet), .message logoutMessage, .enterLoop, .io .again (fun _ => 0) w,
    .enterLoop, .io .again (fun _ => 0) .ok]

end SignetBase.HostThread

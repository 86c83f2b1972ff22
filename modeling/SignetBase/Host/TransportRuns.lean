/-
  SignetBase/Host/TransportRuns.lean
  ==================================
  **What becomes of a message, over whole runs of the Linux transport.**

  `Transported` is what a caller relies on.  It holds in the runs whose steps are all
  `Served`: no write is refused, a connection is lost, closed or opened only when no
  message is left behind, and no response overtakes its own message.
-/
import Mathlib.Data.List.Nodup
import SignetBase.Run
import SignetBase.Host.Transport

namespace SignetBase.HostThread

open Function

variable (s : HostThread)

/-! ### The condition -/

/-- The message asks for a response. -/
def asks (p : Nat) : Bool := (s.log.reqs p).getResp

/-- No message is left behind when the connection is lost: those behind the one that awaits
    its response ask for none, and `signetdev_priv_handle_command_resp` passes the error
    on to that one. -/
def MayLose : Prop :=
  (∀ p ∈ s.messages, s.asks p = false) ∧
    ∀ p, s.rxMessage = some p → (s.log.reqs p).devCmd ≠ .getProgress

/-- A packet is due. -/
def Writes : Prop := s.txMessage.isSome = true ∧ s.tx.msgPacketSeq ≠ s.tx.msgPacketCount

/-- The packet ends the response of a message. -/
def endsResponse (buf : Mem) : Bool :=
  packetSeq buf ≠ 0x7f && packetLast buf &&
    (if packetSeq buf = 0 then buf.get16 4 else s.rx.expectedMessagesRemaining) == 0

/-- The packet does not end the response of a message that is still being transmitted, and a
    response it completes is one that `signetdev_priv_handle_command_resp` passes on. -/
def Welcome (buf : Mem) : Prop :=
  ∀ p, s.rxMessage = some p →
    (s.endsResponse buf = true → s.txMessage ≠ some p) ∧
      ∀ d m, s.deviceType = some d → s.heap p = some m →
        ∀ c ∈ (processRxPacket d { s.rx with message := some m } buf).calls, passesOn d c = true

/-- The connection is lost in a read. -/
def MayFail : Prop :=
  s.MayLose ∧ (s.rxMessage = none → ∀ p, s.txMessage = some p → (s.log.reqs p).interrupt = false)

/-- The step leaves no message behind. -/
def Served (s : HostThread) : HostEvent → Prop
  | .message m =>
    (m.getResp = true → s.connected = true) ∧ (m.getResp = false → looksAtResponse m.devCmd = false)
  | .cancelMessage _ => True
  | .openConnection _ => s.connected = false
  | .closeConnection => s.rxMessage = none ∧ ∀ p ∈ s.messages, s.asks p = false
  | .hangup => s.MayLose
  | .enterLoop => True
  | .io .again _ w => s.takeMessage.Writes → w = .ok
  | .io .failed _ _ => s.takeMessage.MayFail
  | .io (.bytes n) buf _ =>
    if signetdevPrivHidPacketSize s.deviceType = n then s.takeMessage.Welcome buf
    else s.takeMessage.MayFail

/-- The runs of the transport whose steps all satisfy `ok`. -/
abbrev HostRun (ok : HostThread → HostEvent → Prop) :=
  Run (fun s => ∃ m rx, s = initial m rx) step ok

/-! ### A device that answers -/

/-- The loop has nothing to write and waits for a response. -/
def Waits : Prop :=
  s.looping = true ∧ s.connected = true ∧ s.fault = none ∧ s.takeMessage.txMessage = none ∧
    s.rxMessage.isSome = true

instance : Decidable s.Waits := inferInstanceAs (Decidable (_ ∧ _ ∧ _ ∧ _ ∧ _))

/-- A turn of the loop whose write succeeds, and in which `pkt` comes if it waits for a packet. -/
def nextTurn (pkt : Mem) (s : HostThread) : HostEvent :=
  if s.looping = false then .enterLoop
  else if s.Waits then .io (.bytes (signetdevPrivHidPacketSize s.deviceType).toNat) pkt .ok
  else .io .again (fun _ => 0) .ok

/-- The thread after `n` such turns. -/
abbrev turns (packets : Nat → Mem) : Nat → HostThread :=
  drive step (fun n => nextTurn (packets n)) s

/-- The device ends every response that is awaited: its packets are welcome, and one that ends
    the response comes in the end. -/
structure Answers (packets : Nat → Mem) : Prop where
  welcome : ∀ n, (s.turns packets n).Waits → (s.turns packets n).Welcome (packets n)
  ends : ∀ n, (s.turns packets n).Waits → ∃ k, n ≤ k ∧ (s.turns packets k).Waits ∧
    (s.turns packets k).endsResponse (packets k) = true

/-- After finitely many turns, all of which leave no message behind, every message has had its
    final response. -/
def Settles (packets : Nat → Mem) : Prop :=
  ∃ n, (∀ k < n, Served (s.turns packets k) (nextTurn (packets k) (s.turns packets k))) ∧
    ∀ p ∈ s.log.issued, s.asks p = true → (s.turns packets n).log.answers.count p = 1

/-! ### What a caller relies on -/

/-- The packets of a message that were written. -/
def writtenOf (p : Nat) : List Mem := (s.log.written.filter (fun x => x.1 = p)).map (·.2)

/-- A message that was begun and waits for its final response. -/
def Awaits (p : Nat) : Prop := p ∈ s.log.started ∧ s.asks p = true ∧ p ∉ s.log.answers

structure Transported : Prop where
  /-- Nothing is used after it was freed. -/
  noFault : s.fault = none
  /-- A message that was transmitted was written packet by packet. -/
  packets : ∀ p ∈ s.log.transmitted, s.writtenOf p = s.log.packets p
  /-- Messages, and cancel messages, are begun in the order of their commands, each once. -/
  inOrder : s.log.started.Sublist s.log.issued ∧ s.log.issued.Nodup
  cancelsInOrder : s.log.startedCancels.Sublist s.log.issuedCancels ∧ s.log.issuedCancels.Nodup
  oneAwaits : ∀ p q, s.Awaits p → s.Awaits q → p = q
  /-- A message has had its final response, once, unless it is queued or awaits it. -/
  answered : ∀ p ∈ s.log.issued, s.asks p = true →
    s.log.answers.count p ≤ 1 ∧ (s.log.answers.count p = 0 → p ∈ s.messages ∨ s.Awaits p)
  /-- When the connection is gone every message has had it. -/
  lost : s.connected = false → ∀ p ∈ s.log.issued, s.asks p = true → s.log.answers.count p = 1
  /-- While it is there, every message has it as soon as the device has ended its responses. -/
  settles : s.connected = true → ∀ packets, s.Answers packets → s.Settles packets
  /-- A message that asks for none is called back once at most, and has been when it was
      transmitted. -/
  unasked : ∀ p ∈ s.log.issued, s.asks p = false →
    s.log.answers.count p ≤ 1 ∧ (p ∈ s.log.transmitted → s.log.answers.count p = 1)

/-! ### The invariant -/

/-- The same message, as far as the transport looks at it. -/
structure SameKind (m m' : SendMessageReq) : Prop where
  devCmd : m.devCmd = m'.devCmd
  getResp : m.getResp = m'.getResp
  interrupt : m.interrupt = m'.interrupt

/-- The order of the messages. -/
structure Ordered : Prop where
  queue : (s.log.started ++ s.messages).Sublist s.log.issued
  cancelQueue : (s.log.startedCancels ++ s.cancelMessages).Sublist s.log.issuedCancels
  nodup : (s.log.issued ++ s.log.issuedCancels).Nodup
  fresh : ∀ p ∈ s.log.issued ++ s.log.issuedCancels, p < s.allocated
  ordinary : ∀ p ∈ s.log.issued, (s.log.reqs p).interrupt = false
  cancel : ∀ p ∈ s.log.issuedCancels,
    (s.log.reqs p).interrupt = true ∧ (s.log.reqs p).getResp = false

/-- The message was taken up. -/
def Begun (p : Nat) : Prop := p ∈ s.log.started ∨ p ∈ s.log.startedCancels

/-- The messages the thread still refers to. -/
def Refers (p : Nat) : Prop :=
  p ∈ s.messages ∨ p ∈ s.cancelMessages ∨ s.txMessage = some p ∨ s.rxMessage = some p

/-- The packets of the message being transmitted that were written. -/
def Sending (p : Nat) : Prop :=
  ∃ d prepared, (s.connected = true → s.deviceType = some d) ∧
    s.log.packets p = messagePackets d prepared ∧ prepared.msgPacketSeq = 0 ∧
    s.tx = advanced d prepared s.tx.msgPacketSeq ∧
    s.tx.msgPacketSeq ≤ prepared.msgPacketCount ∧
    s.writtenOf p = (s.log.packets p).take s.tx.msgPacketSeq

structure HostInv : Prop where
  fault : s.fault = none
  device : s.connected = true → ∃ d, s.deviceType = some d
  ordered : s.Ordered
  live : ∀ p, s.Refers p → ∃ m, s.heap p = some m ∧ SameKind m (s.log.reqs p)
  begun : ∀ p, s.txMessage = some p → s.Begun p
  sending : ∀ p, s.txMessage = some p → s.Sending p
  waiting : ∀ p, s.rxMessage = some p → s.asks p = true ∧ p ∈ s.log.started
  txWaits : ∀ p, s.txMessage = some p → s.asks p = true → s.rxMessage = some p
  wrote : ∀ x ∈ s.log.written, s.Begun x.1
  transmitted : ∀ p ∈ s.log.transmitted,
    s.writtenOf p = s.log.packets p ∧ s.Begun p ∧ s.txMessage ≠ some p
  known : ∀ p ∈ s.log.answers, p ∈ s.log.issued
  answered : ∀ p ∈ s.log.issued, s.asks p = true →
    s.log.answers.count p + (if p ∈ s.messages ∨ s.rxMessage = some p then 1 else 0) = 1
  closed : s.connected = false → s.rxMessage = none ∧ ∀ p ∈ s.messages, s.asks p = false
  unasked : ∀ p ∈ s.log.issued, s.asks p = false → looksAtResponse (s.log.reqs p).devCmd = false ∧
    s.log.answers.count p ≤ 1 ∧
    (p ∈ s.messages ∨ s.txMessage = some p → s.log.answers.count p = 0) ∧
    (p ∈ s.log.transmitted → s.log.answers.count p = 1)

variable {s} {p : Nat}

theorem Ordered.started_issued (ho : s.Ordered) : ∀ p ∈ s.log.started, p ∈ s.log.issued :=
  fun _ hp => ho.queue.subset (List.mem_append_left _ hp)

theorem Ordered.messages_issued (ho : s.Ordered) : ∀ p ∈ s.messages, p ∈ s.log.issued :=
  fun _ hp => ho.queue.subset (List.mem_append_right _ hp)

theorem Ordered.cancels_issued (ho : s.Ordered) :
    ∀ p, p ∈ s.log.startedCancels ∨ p ∈ s.cancelMessages → p ∈ s.log.issuedCancels := by
  intro p hp
  exact ho.cancelQueue.subset (List.mem_append.mpr hp)

/-- A message that was begun and is no cancel message was issued. -/
theorem Ordered.issued_of_begun (ho : s.Ordered) (hb : s.Begun p)
    (hint : (s.log.reqs p).interrupt = false) : p ∈ s.log.issued := by
  rcases hb with h | h
  · exact ho.started_issued p h
  · rw [(ho.cancel p (ho.cancels_issued p (.inl h))).1] at hint
    cases hint

/-- A message is not a cancel message. -/
theorem Ordered.disjoint (ho : s.Ordered) (hp : p ∈ s.log.issued) : p ∉ s.log.issuedCancels :=
  fun hc => (List.disjoint_of_nodup_append ho.nodup) hp hc

/-- A message that was taken up is no longer queued. -/
theorem Ordered.not_queued (ho : s.Ordered) (hp : s.Begun p) :
    p ∉ s.messages ∧ p ∉ s.cancelMessages := by
  have hnodup := List.nodup_append.mp ho.nodup
  rcases hp with hp | hp
  · have hqueue := ho.queue.nodup hnodup.1
    refine ⟨fun hm => List.disjoint_of_nodup_append hqueue hp hm, fun hc => ?_⟩
    exact ho.disjoint (ho.started_issued p hp) (ho.cancels_issued p (.inr hc))
  · have hqueue := ho.cancelQueue.nodup hnodup.2.1
    refine ⟨fun hm => ?_, fun hc => List.disjoint_of_nodup_append hqueue hp hc⟩
    exact ho.disjoint (ho.messages_issued p hm) (ho.cancels_issued p (.inl hp))

/-- What the invariant says of the final responses. -/
theorem HostInv.answered_once (hi : s.HostInv) (hrx : s.rxMessage = none)
    (hmsgs : ∀ p ∈ s.messages, s.asks p = false) (hp : p ∈ s.log.issued) (hasks : s.asks p = true) :
    s.log.answers.count p = 1 := by
  have hans := hi.answered p hp hasks
  rw [if_neg] at hans
  · exact hans
  · rintro (h | h)
    · exact absurd (hmsgs p h) (by rw [hasks]; decide)
    · rw [hrx] at h
      cases h

/-- What the invariant says to a caller. -/
theorem HostInv.transported (hi : s.HostInv)
    (hsettles : s.connected = true → ∀ packets, s.Answers packets → s.Settles packets) :
    s.Transported := by
  have ho := hi.ordered
  have hnodup := List.nodup_append.mp ho.nodup
  have hawaits : ∀ p, s.Awaits p → s.rxMessage = some p := by
    rintro p ⟨hstarted, hasks, hnot⟩
    have hans := hi.answered p (ho.started_issued p hstarted) hasks
    rw [List.count_eq_zero.mpr hnot] at hans
    by_contra hrx
    rw [if_neg] at hans
    · omega
    · rintro (hm | hm)
      · exact (ho.not_queued (.inl hstarted)).1 hm
      · exact hrx hm
  refine ⟨hi.fault, fun p hp => (hi.transmitted p hp).1, ⟨?_, hnodup.1⟩, ⟨?_, hnodup.2.1⟩, ?_, ?_,
    ?_,
    hsettles, ?_⟩
  · exact (List.sublist_append_left _ _).trans ho.queue
  · exact (List.sublist_append_left _ _).trans ho.cancelQueue
  · intro p q hp hq
    exact Option.some.inj ((hawaits p hp).symm.trans (hawaits q hq))
  · intro p hp hasks
    have hans := hi.answered p hp hasks
    refine ⟨by omega, fun hzero => ?_⟩
    rw [hzero] at hans
    by_cases h : p ∈ s.messages ∨ s.rxMessage = some p
    · rcases h with h | h
      · exact .inl h
      · exact .inr ⟨(hi.waiting p h).2, hasks, List.count_eq_zero.mp hzero⟩
    · rw [if_neg h] at hans
      omega
  · intro hc p hp hasks
    obtain ⟨hrx, hmsgs⟩ := hi.closed hc
    exact hi.answered_once hrx hmsgs hp hasks
  · intro p hp hnot
    obtain ⟨-, hle, -, hdone⟩ := hi.unasked p hp hnot
    exact ⟨hle, hdone⟩

/-! ### Commands -/

/-- A pointer the thread refers to is not the next allocation. -/
theorem HostInv.lt_allocated (hi : s.HostInv) (hp : s.Refers p) : p < s.allocated := by
  have ho := hi.ordered
  rcases hp with hp | hp | hp | hp
  · exact ho.fresh p (List.mem_append_left _ (ho.messages_issued p hp))
  · exact ho.fresh p (List.mem_append_right _ (ho.cancels_issued p (.inr hp)))
  · rcases hi.begun p hp with h | h
    · exact ho.fresh p (List.mem_append_left _ (ho.started_issued p h))
    · exact ho.fresh p (List.mem_append_right _ (ho.cancels_issued p (.inl h)))
  · exact ho.fresh p (List.mem_append_left _ (ho.started_issued p (hi.waiting p hp).2))

theorem SameKind.refl (m : SendMessageReq) : SameKind m m := ⟨rfl, rfl, rfl⟩

/-- **An allocation** that is in no queue yet. -/
theorem HostInv.allocate (hi : s.HostInv) (m : SendMessageReq) : (s.allocate m).HostInv := by
  have hlt := fun p (hp : s.Refers p) => hi.lt_allocated hp
  obtain ⟨hfault, hdevice, ho, hlive, hbegun, hsending, hwaiting, htx, hwrote, htrans, hknown, hans,
    hclosed, hunasked⟩ := hi
  have hreqs : ∀ p < s.allocated, (s.allocate m).log.reqs p = s.log.reqs p :=
    fun p hp => update_of_ne (Nat.ne_of_lt hp) _ _
  have hasks : ∀ p < s.allocated, (s.allocate m).asks p = s.asks p := by
    intro p hp
    unfold asks
    rw [hreqs p hp]
  have hissued : ∀ p ∈ s.log.issued, p < s.allocated :=
    fun p hp => ho.fresh p (List.mem_append_left _ hp)
  refine ⟨hfault, hdevice, ?_, ?_, hbegun, hsending, ?_, ?_, hwrote, htrans, hknown, ?_, ?_, ?_⟩
  · obtain ⟨h₁, h₂, h₃, h₄, h₅, h₆⟩ := ho
    refine ⟨h₁, h₂, h₃, fun p hp => Nat.lt_succ_of_lt (h₄ p hp), ?_, ?_⟩
    · intro p hp
      rw [hreqs p (hissued p hp)]
      exact h₅ p hp
    · intro p hp
      rw [hreqs p (h₄ p (List.mem_append_right _ hp))]
      exact h₆ p hp
  · intro p hp
    have hpl := hlt p hp
    rw [hreqs p hpl]
    change ∃ m', update s.heap s.allocated (some m) p = some m' ∧ _
    rw [update_of_ne (Nat.ne_of_lt hpl)]
    exact hlive p hp
  · intro p hp
    rw [hasks p (hlt p (.inr (.inr (.inr hp))))]
    exact hwaiting p hp
  · intro p hp hask
    rw [hasks p (hlt p (.inr (.inr (.inl hp))))] at hask
    exact htx p hp hask
  · intro p hp hask
    rw [hasks p (hissued p hp)] at hask
    exact hans p hp hask
  · intro hc
    refine ⟨(hclosed hc).1, fun p hp => ?_⟩
    rw [hasks p (hlt p (.inl hp))]
    exact (hclosed hc).2 p hp
  · intro p hp hask
    rw [hasks p (hissued p hp)] at hask
    rw [hreqs p (hissued p hp)]
    exact hunasked p hp hask

/-- **A message joins the queue.** -/
theorem HostInv.queueMessage (hi : s.HostInv) {m : SendMessageReq} (hp : p < s.allocated)
    (hnew : p ∉ s.log.issued ++ s.log.issuedCancels) (hheap : s.heap p = some m)
    (hkind : SameKind m (s.log.reqs p)) (hordinary : (s.log.reqs p).interrupt = false)
    (hc : s.asks p = true → s.connected = true)
    (hplain : s.asks p = false → looksAtResponse (s.log.reqs p).devCmd = false) :
    HostInv { s with
      messages := s.messages ++ [p], log := { s.log with issued := s.log.issued ++ [p] } } := by
  obtain ⟨hfault, hdevice, ho, hlive, hbegun, hsending, hwaiting, htx, hwrote, htrans, hknown, hans,
    hclosed, hunasked⟩ := hi
  have hnotissued : p ∉ s.log.issued := fun h => hnew (List.mem_append_left _ h)
  have hzero : s.log.answers.count p = 0 := List.count_eq_zero.mpr fun h => hnotissued (hknown p h)
  have hstarted : ∀ q, s.Begun q → q ≠ p := by
    rintro q (hq | hq) rfl
    · exact hnotissued (ho.started_issued q hq)
    · exact hnew (List.mem_append_right _ (ho.cancels_issued q (.inl hq)))
  refine ⟨hfault, hdevice, ?_, ?_, hbegun, hsending, hwaiting, htx, hwrote, htrans, ?_, ?_, ?_, ?_⟩
  · obtain ⟨h₁, h₂, h₃, h₄, h₅, h₆⟩ := ho
    refine ⟨?_, h₂, ?_, ?_, ?_, h₆⟩
    · change (s.log.started ++ (s.messages ++ [p])).Sublist (s.log.issued ++ [p])
      rw [← List.append_assoc]
      exact h₁.append (List.Sublist.refl _)
    · change (s.log.issued ++ [p] ++ s.log.issuedCancels).Nodup
      rw [List.append_assoc, List.singleton_append, List.nodup_middle, List.nodup_cons]
      exact ⟨hnew, h₃⟩
    · intro q hq
      change q ∈ s.log.issued ++ [p] ++ s.log.issuedCancels at hq
      simp only [List.mem_append, List.mem_singleton] at hq
      rcases hq with (hq | rfl) | hq
      · exact h₄ q (List.mem_append_left _ hq)
      · exact hp
      · exact h₄ q (List.mem_append_right _ hq)
    · intro q hq
      rcases List.mem_append.mp hq with hq | hq
      · exact h₅ q hq
      · rw [List.mem_singleton.mp hq]
        exact hordinary
  · intro q hq
    rcases hq with hq | hq
    · rcases List.mem_append.mp hq with hq | hq
      · exact hlive q (.inl hq)
      · rw [List.mem_singleton.mp hq]
        exact ⟨m, hheap, hkind⟩
    · exact hlive q (.inr hq)
  · intro q hq
    exact List.mem_append_left _ (hknown q hq)
  · intro q hq hask
    rcases List.mem_append.mp hq with hq | hq
    · have hne : q ≠ p := fun h => hnotissued (h ▸ hq)
      have := hans q hq hask
      simpa [hne] using this
    · rw [List.mem_singleton.mp hq]
      change s.log.answers.count p + _ = 1
      rw [hzero, if_pos (.inl (List.mem_append_right _ (List.mem_singleton_self p)))]
  · intro hcon
    refine ⟨(hclosed hcon).1, fun q hq => ?_⟩
    rcases List.mem_append.mp hq with hq | hq
    · exact (hclosed hcon).2 q hq
    · rw [List.mem_singleton.mp hq]
      change s.asks p = false
      cases hask : s.asks p with
      | false => rfl
      | true => exact absurd (hc hask) (by rw [show s.connected = false from hcon]; decide)
  · intro q hq hask
    rcases List.mem_append.mp hq with hq | hq
    · obtain ⟨hlooks, hle, hnone, hdone⟩ := hunasked q hq hask
      refine ⟨hlooks, hle, fun h => hnone ?_, hdone⟩
      refine h.imp_left fun h => (List.mem_append.mp h).resolve_right fun h => ?_
      exact hnotissued (List.mem_singleton.mp h ▸ hq)
    · obtain rfl := List.mem_singleton.mp hq
      refine ⟨hplain hask, hzero.trans_le (Nat.zero_le 1), fun _ => hzero, fun ht => ?_⟩
      exact absurd rfl (hstarted q (htrans q ht).2.1)

/-- **A cancel message joins its queue.** -/
theorem HostInv.queueCancel (hi : s.HostInv) {m : SendMessageReq} (hp : p < s.allocated)
    (hnew : p ∉ s.log.issued ++ s.log.issuedCancels) (hheap : s.heap p = some m)
    (hkind : SameKind m (s.log.reqs p))
    (hcancel : (s.log.reqs p).interrupt = true ∧ (s.log.reqs p).getResp = false) :
    HostInv { s with
      cancelMessages := s.cancelMessages ++ [p]
      log := { s.log with issuedCancels := s.log.issuedCancels ++ [p] } } := by
  obtain ⟨hfault, hdevice, ho, hlive, hbegun, hsending, hwaiting, htx, hwrote, htrans, hknown, hans,
    hclosed, hunasked⟩ := hi
  refine ⟨hfault, hdevice, ?_, ?_, hbegun, hsending, hwaiting, htx, hwrote, htrans, hknown, hans,
    hclosed, hunasked⟩
  · obtain ⟨h₁, h₂, h₃, h₄, h₅, h₆⟩ := ho
    refine ⟨h₁, ?_, ?_, ?_, h₅, ?_⟩
    · change (s.log.startedCancels ++ (s.cancelMessages ++ [p])).Sublist
        (s.log.issuedCancels ++ [p])
      rw [← List.append_assoc]
      exact h₂.append (List.Sublist.refl _)
    · change (s.log.issued ++ (s.log.issuedCancels ++ [p])).Nodup
      rw [← List.append_assoc]
      exact List.nodup_append'.mpr ⟨h₃, List.nodup_singleton p, by simpa using hnew⟩
    · intro q hq
      change q ∈ s.log.issued ++ (s.log.issuedCancels ++ [p]) at hq
      simp only [List.mem_append, List.mem_singleton] at hq
      rcases hq with hq | hq | rfl
      · exact h₄ q (List.mem_append_left _ hq)
      · exact h₄ q (List.mem_append_right _ hq)
      · exact hp
    · intro q hq
      rcases List.mem_append.mp hq with hq | hq
      · exact h₆ q hq
      · rw [List.mem_singleton.mp hq]
        exact hcancel
  · intro q hq
    rcases hq with hq | hq | hq
    · exact hlive q (.inl hq)
    · rcases List.mem_append.mp hq with hq | hq
      · exact hlive q (.inr (.inl hq))
      · rw [List.mem_singleton.mp hq]
        exact ⟨m, hheap, hkind⟩
    · exact hlive q (.inr (.inr hq))

/-- The next allocation was not issued before. -/
theorem HostInv.not_issued (hi : s.HostInv) :
    s.allocated ∉ s.log.issued ++ s.log.issuedCancels :=
  fun h => Nat.lt_irrefl _ (hi.ordered.fresh _ h)

theorem HostInv.sendMessage (hi : s.HostInv) (m : SendMessageReq)
    (hc : m.getResp = true → s.connected = true)
    (hplain : m.getResp = false → looksAtResponse m.devCmd = false) :
    (s.sendMessage m).HostInv := by
  have hreq : (s.allocate { m with interrupt := false }).log.reqs s.allocated =
      { m with interrupt := false } := update_self _ _ _
  refine (hi.allocate { m with interrupt := false }).queueMessage (Nat.lt_succ_self _) hi.not_issued
    (update_self _ _ _) ?_ ?_ ?_ ?_
  · rw [hreq]
    exact SameKind.refl _
  · rw [hreq]
  · unfold asks
    rw [hreq]
    exact hc
  · unfold asks
    rw [hreq]
    exact hplain

theorem HostInv.cancelMessage (hi : s.HostInv) (m : SendMessageReq) :
    (s.cancelMessage m).HostInv := by
  have hreq : (s.allocate { m with interrupt := true, getResp := false }).log.reqs s.allocated =
      { m with interrupt := true, getResp := false } := update_self _ _ _
  refine (hi.allocate _).queueCancel (Nat.lt_succ_self _) hi.not_issued (update_self _ _ _) ?_ ?_
  · rw [hreq]
    exact SameKind.refl _
  · rw [hreq]
    exact ⟨rfl, rfl⟩

/-- **A connection is opened**: what was queued without a connection asks for nothing. -/
theorem HostInv.attemptOpenConnection (hi : s.HostInv) (hc : s.connected = false)
    (found : Option Device) : (s.attemptOpenConnection found).HostInv := by
  obtain ⟨hfault, hdevice, ho, hlive, hbegun, hsending, hwaiting, htx, hwrote, htrans, hknown, hans,
    hclosed, hunasked⟩ := hi
  obtain ⟨hrx, hmsgs⟩ := hclosed hc
  unfold HostThread.attemptOpenConnection
  rw [if_neg (by rw [hc]; decide)]
  cases found with
  | none =>
    have hcon : ∀ {P : Prop}, s.connected = true → P :=
      fun h => absurd (hc.symm.trans h) (by decide)
    obtain ⟨h₁, h₂, h₃, h₄, h₅, h₆⟩ := ho
    refine ⟨hfault, fun h => hcon h, ⟨h₁, h₂, h₃, h₄, h₅, h₆⟩, hlive, hbegun, ?_, hwaiting, htx,
      hwrote, htrans, hknown, hans, hclosed, hunasked⟩
    intro p hp
    obtain ⟨d, prepared, -, hrest⟩ := hsending p hp
    exact ⟨d, prepared, fun h => hcon h, hrest⟩
  | some d =>
    refine ⟨hfault, fun _ => ⟨d, rfl⟩, ?_, ?_, ?_, ?_, ?_, ?_, hwrote, ?_, hknown, ?_, ?_, ?_⟩
    · obtain ⟨h₁, h₂, h₃, h₄, h₅, h₆⟩ := ho
      refine ⟨?_, ?_, h₃, h₄, h₅, h₆⟩
      · change (s.log.started ++ []).Sublist s.log.issued
        rw [List.append_nil]
        exact (List.sublist_append_left _ _).trans h₁
      · change (s.log.startedCancels ++ []).Sublist s.log.issuedCancels
        rw [List.append_nil]
        exact (List.sublist_append_left _ _).trans h₂
    · rintro p (hp | hp | hp | hp)
      · cases hp
      · cases hp
      · cases hp
      · cases hp
    · intro p hp
      cases hp
    · intro p hp
      cases hp
    · intro p hp
      cases hp
    · intro p hp
      cases hp
    · intro p hp
      obtain ⟨h₁, h₂, -⟩ := htrans p hp
      exact ⟨h₁, h₂, fun h => by cases h⟩
    · intro p hp hask
      have hone := hans p hp hask
      rw [if_neg] at hone
      · change s.log.answers.count p + _ = 1
        rw [if_neg]
        · exact hone
        · rintro (h | h)
          · cases h
          · cases h
      · rintro (h | h)
        · exact absurd (hmsgs p h) (by rw [show s.asks p = true from hask]; decide)
        · rw [hrx] at h
          cases h
    · intro h
      cases h
    · intro p hp hask
      obtain ⟨hlooks, hle, -, hdone⟩ := hunasked p hp hask
      refine ⟨hlooks, hle, ?_, hdone⟩
      rintro (h | h)
      · cases h
      · cases h

/-- **The connection is gone** when no message waits. -/
theorem HostInv.disconnect (hi : s.HostInv) (hrx : s.rxMessage = none)
    (hmsgs : ∀ p ∈ s.messages, s.asks p = false) :
    HostInv { s with connected := false, deviceType := none } := by
  obtain ⟨hfault, hdevice, ho, hlive, hbegun, hsending, hwaiting, htx, hwrote, htrans, hknown, hans,
    hclosed, hunasked⟩ := hi
  obtain ⟨h₁, h₂, h₃, h₄, h₅, h₆⟩ := ho
  refine ⟨hfault, (fun h => by cases h), ⟨h₁, h₂, h₃, h₄, h₅, h₆⟩, hlive, hbegun, ?_, hwaiting,
    htx, hwrote, htrans, hknown, hans, fun _ => ⟨hrx, hmsgs⟩, hunasked⟩
  intro p hp
  obtain ⟨d, prepared, -, hrest⟩ := hsending p hp
  exact ⟨d, prepared, (fun h => by cases h), hrest⟩

/-- **The connection is closed** when no message waits. -/
theorem HostInv.closeConnection (hi : s.HostInv) (hrx : s.rxMessage = none)
    (hmsgs : ∀ p ∈ s.messages, s.asks p = false) : s.closeConnection.HostInv := by
  unfold HostThread.closeConnection
  split
  · exact hi.disconnect hrx hmsgs
  · exact hi

/-! ### The loop -/

/-- **A message is taken up and prepared.** -/
theorem HostInv.startMessage (hi : s.HostInv) (hc : s.connected = true) {m : SendMessageReq}
    (hbegun : s.Begun p) (hheap : s.heap p = some m)
    (hkind : SameKind m (s.log.reqs p)) (hfresh : ∀ x ∈ s.log.written, x.1 ≠ p)
    (hnew : p ∉ s.log.transmitted) (hwaits : s.asks p = true → s.rxMessage = some p)
    (hnone : p ∈ s.log.issued → s.asks p = false → s.log.answers.count p = 0) :
    (s.startMessage p m).HostInv := by
  obtain ⟨hfault, hdevice, ho, hlive, -, -, hwaiting, -, hwrote, htrans, hknown, hans, hclosed,
    hunasked⟩ := hi
  obtain ⟨d, hd⟩ := hdevice hc
  have hpackets : ∀ q, q ≠ p → (s.startMessage p m).log.packets q = s.log.packets q :=
    fun q hq => update_of_ne hq _ _
  have hwritten : s.writtenOf p = [] := by
    unfold writtenOf
    rw [List.map_eq_nil_iff, List.filter_eq_nil_iff]
    intro x hx
    simpa using hfresh x hx
  obtain ⟨h₁, h₂, h₃, h₄, h₅, h₆⟩ := ho
  refine ⟨hfault, hdevice, ⟨h₁, h₂, h₃, h₄, h₅, h₆⟩, ?_, ?_, ?_, hwaiting, ?_, hwrote, ?_, hknown,
    hans,
    hclosed, ?_⟩
  · rintro q (hq | hq | hq | hq)
    · exact hlive q (.inl hq)
    · exact hlive q (.inr (.inl hq))
    · rw [← Option.some.inj hq]
      exact ⟨m, hheap, hkind⟩
    · exact hlive q (.inr (.inr (.inr hq)))
  · intro q hq
    rw [← Option.some.inj hq]
    exact hbegun
  · intro q hq
    rw [← Option.some.inj hq]
    refine ⟨d, prepareMessageState d m.devCmd m.messagesRemaining m.payload s.tx, fun _ => hd, ?_,
      rfl, ?_, ?_, ?_⟩
    · change update s.log.packets p _ p = _
      rw [update_self, hd]
      rfl
    · change prepareMessage s.deviceType m s.tx =
        advanced d _ (prepareMessage s.deviceType m s.tx).msgPacketSeq
      rw [hd]
      rfl
    · change (prepareMessage s.deviceType m s.tx).msgPacketSeq ≤ _
      rw [hd]
      exact Nat.zero_le _
    · change s.writtenOf p = List.take (prepareMessage s.deviceType m s.tx).msgPacketSeq _
      rw [hwritten, hd]
      rfl
  · intro q hq hask
    rw [← Option.some.inj hq] at hask ⊢
    exact hwaits hask
  · intro q hq
    obtain ⟨h, hb, -⟩ := htrans q hq
    have hne : q ≠ p := fun heq => hnew (heq ▸ hq)
    refine ⟨?_, hb, fun h => hne (Option.some.inj h).symm⟩
    rw [hpackets q hne]
    exact h
  · intro q hq hask
    obtain ⟨hlooks, hle, hqueued, hdone⟩ := hunasked q hq hask
    refine ⟨hlooks, hle, ?_, hdone⟩
    rintro (h | h)
    · exact hqueued (.inl h)
    · obtain rfl := Option.some.inj h
      exact hnone hq hask

/-- A message that is still queued was neither written nor transmitted. -/
theorem HostInv.untouched (hi : s.HostInv) (hp : p ∈ s.messages ∨ p ∈ s.cancelMessages) :
    (∀ x ∈ s.log.written, x.1 ≠ p) ∧ p ∉ s.log.transmitted := by
  have hnot : ¬s.Begun p := by
    intro hb
    obtain ⟨h₁, h₂⟩ := hi.ordered.not_queued hb
    rcases hp with hp | hp
    · exact h₁ hp
    · exact h₂ hp
  refine ⟨fun x hx heq => hnot ?_, fun ht => hnot (hi.transmitted p ht).2.1⟩
  rw [← heq]
  exact hi.wrote x hx

/-- A cancel message leaves its queue while no message is under way. -/
theorem HostInv.dequeueCancel {rest : List Nat} (hi : s.HostInv)
    (hcancels : s.cancelMessages = p :: rest) :
    { s with
      cancelMessages := rest
      txMessage := none
      log := { s.log with
        startedCancels := s.log.startedCancels ++ [p] } : HostThread }.HostInv := by
  obtain ⟨hfault, hdevice, ho, hlive, hbegun, hsending, hwaiting, htx, hwrote, htrans, hknown,
    hans, hclosed, hunasked⟩ := hi
  have hmore : ∀ {q}, s.Begun q → q ∈ s.log.started ∨ q ∈ s.log.startedCancels ++ [p] := by
    rintro q (hq | hq)
    · exact .inl hq
    · exact .inr (List.mem_append_left _ hq)
  refine ⟨hfault, hdevice, ?_, ?_, (fun q hq => by cases hq), (fun q hq => by cases hq), hwaiting,
    (fun q hq => by cases hq), fun x hx => hmore (hwrote x hx), ?_, hknown, hans, hclosed, ?_⟩
  · obtain ⟨h₁, h₂, h₃, h₄, h₅, h₆⟩ := ho
    refine ⟨h₁, ?_, h₃, h₄, h₅, h₆⟩
    change ((s.log.startedCancels ++ [p]) ++ rest).Sublist s.log.issuedCancels
    rw [List.append_assoc, List.singleton_append, ← hcancels]
    exact h₂
  · rintro q (hq | hq | hq | hq)
    · exact hlive q (.inl hq)
    · refine hlive q (.inr (.inl ?_))
      rw [hcancels]
      exact List.mem_cons_of_mem _ hq
    · cases hq
    · exact hlive q (.inr (.inr (.inr hq)))
  · intro q hq
    obtain ⟨h₁, h₂, -⟩ := htrans q hq
    exact ⟨h₁, hmore h₂, fun h => by cases h⟩
  · intro q hq hask
    obtain ⟨hlooks, hle, hnone, hdone⟩ := hunasked q hq hask
    refine ⟨hlooks, hle, ?_, hdone⟩
    rintro (h | h)
    · exact hnone (.inl h)
    · cases h

/-- The next message leaves its queue while no message is under way. From here on it is the one
    that waits for its response, if it asks for one. -/
theorem HostInv.dequeue {m : SendMessageReq} {rest : List Nat} (hi : s.HostInv)
    (hc : s.connected = true) (hcancels : s.cancelMessages = []) (hrxm : s.rxMessage = none)
    (hmessages : s.messages = p :: rest) (hheap : s.heap p = some m)
    (hkind : SameKind m (s.log.reqs p)) :
    { s with
      messages := rest
      cancelMessages := []
      txMessage := none
      rxMessage := if m.getResp then some p else none
      log := { s.log with started := s.log.started ++ [p] } : HostThread }.HostInv := by
  obtain ⟨hfault, hdevice, ho, hlive, hbegun, hsending, hwaiting, htx, hwrote, htrans, hknown,
    hans, hclosed, hunasked⟩ := hi
  have hmore : ∀ {q}, s.Begun q → q ∈ s.log.started ++ [p] ∨ q ∈ s.log.startedCancels := by
    rintro q (hq | hq)
    · exact .inl (List.mem_append_left _ hq)
    · exact .inr hq
  have hrxp : ∀ q, (if m.getResp then some p else none) = some q → q = p ∧ s.asks p = true := by
    intro q hq
    split at hq
    · rename_i hget
      exact ⟨(Option.some.inj hq).symm, (hkind.getResp.symm.trans hget)⟩
    · cases hq
  refine ⟨hfault, hdevice, ?_, ?_, (fun q hq => by cases hq), (fun q hq => by cases hq), ?_,
    (fun q hq => by cases hq), fun x hx => hmore (hwrote x hx), ?_, hknown, ?_, ?_, ?_⟩
  · obtain ⟨h₁, h₂, h₃, h₄, h₅, h₆⟩ := ho
    refine ⟨?_, hcancels ▸ h₂, h₃, h₄, h₅, h₆⟩
    change ((s.log.started ++ [p]) ++ rest).Sublist s.log.issued
    rw [List.append_assoc, List.singleton_append, ← hmessages]
    exact h₁
  · rintro q (hq | hq | hq | hq)
    · refine hlive q (.inl ?_)
      rw [hmessages]
      exact List.mem_cons_of_mem _ hq
    · cases hq
    · cases hq
    · rw [(hrxp q hq).1]
      exact ⟨m, hheap, hkind⟩
  · intro q hq
    obtain ⟨rfl, hask⟩ := hrxp q hq
    exact ⟨hask, List.mem_append_right _ (List.mem_singleton_self q)⟩
  · intro q hq
    obtain ⟨h₁, h₂, -⟩ := htrans q hq
    exact ⟨h₁, hmore h₂, fun h => by cases h⟩
  · intro q hq hask
    have hone := hans q hq hask
    have hiff : (q ∈ rest ∨ (if m.getResp then some p else none) = some q) ↔
        (q ∈ s.messages ∨ s.rxMessage = some q) := by
      rw [hmessages, hrxm]
      constructor
      · rintro (h | h)
        · exact .inl (List.mem_cons_of_mem _ h)
        · exact .inl ((hrxp q h).1 ▸ List.mem_cons_self)
      · rintro (h | h)
        · rcases List.mem_cons.mp h with rfl | h
          · refine .inr (if_pos ?_)
            exact hkind.getResp.trans hask
          · exact .inl h
        · cases h
    change s.log.answers.count q +
      (if q ∈ rest ∨ (if m.getResp then some p else none) = some q then 1 else 0) = 1
    rw [if_congr hiff rfl rfl]
    exact hone
  · intro hcon
    exact absurd (hc.symm.trans hcon) (by decide)
  · intro q hq hask
    obtain ⟨hlooks, hle, hnone, hdone⟩ := hunasked q hq hask
    refine ⟨hlooks, hle, ?_, hdone⟩
    rintro (h | h)
    · refine hnone (.inl ?_)
      rw [hmessages]
      exact List.mem_cons_of_mem _ h
    · cases h

/-- **The next message is taken up.** -/
theorem HostInv.takeMessage (hi : s.HostInv) (hc : s.connected = true) :
    s.takeMessage.HostInv ∧ s.takeMessage.connected = s.connected ∧
      s.takeMessage.deviceType = s.deviceType := by
  unfold HostThread.takeMessage
  cases htxm : s.txMessage with
  | some p =>
    rw [Option.isSome_some, if_pos rfl]
    exact ⟨hi, rfl, rfl⟩
  | none =>
    rw [Option.isSome_none, if_neg Bool.false_ne_true]
    cases hcancels : s.cancelMessages with
    | cons p rest =>
      have hmem : p ∈ s.cancelMessages := by
        rw [hcancels]
        exact List.mem_cons_self
      obtain ⟨hfresh, hnew⟩ := hi.untouched (.inr hmem)
      obtain ⟨m, hheap, hkind⟩ := hi.live p (.inr (.inl hmem))
      have hkindp := hi.ordered.cancel p (hi.ordered.cancels_issued p (.inr hmem))
      dsimp only
      rw [hheap]
      refine ⟨?_, rfl, rfl⟩
      apply (hi.dequeueCancel hcancels).startMessage
      · exact hc
      · exact .inr (List.mem_append_right _ (List.mem_singleton_self p))
      · exact hheap
      · exact hkind
      · exact hfresh
      · exact hnew
      · intro hask
        exact absurd (hkindp.2.symm.trans hask) (by decide)
      · intro hissued
        exact absurd (hi.ordered.cancels_issued p (.inr hmem)) (hi.ordered.disjoint hissued)
    | nil =>
      dsimp only
      cases hrxm : s.rxMessage with
      | some q =>
        rw [Option.isSome_some, if_pos rfl]
        exact ⟨hi, rfl, rfl⟩
      | none =>
        rw [Option.isSome_none, if_neg Bool.false_ne_true]
        cases hmessages : s.messages with
        | nil => exact ⟨hi, rfl, rfl⟩
        | cons p rest =>
          have hmem : p ∈ s.messages := by
            rw [hmessages]
            exact List.mem_cons_self
          obtain ⟨hfresh, hnew⟩ := hi.untouched (.inl hmem)
          obtain ⟨m, hheap, hkind⟩ := hi.live p (.inl hmem)
          dsimp only
          rw [hheap]
          refine ⟨?_, rfl, rfl⟩
          apply (hi.dequeue hc hcancels hrxm hmessages hheap hkind).startMessage
          · exact hc
          · exact .inl (List.mem_append_right _ (List.mem_singleton_self p))
          · exact hheap
          · exact hkind
          · exact hfresh
          · exact hnew
          · intro hask
            exact if_pos (hkind.getResp.trans hask)
          · intro hissued hask
            exact (hi.unasked p hissued hask).2.2.1 (.inl hmem)

/-- **A message ends**: nothing refers to it any more, and if it asked for a response it was
    awaiting it and has it now. -/
theorem HostInv.finish (hi : s.HostInv) (hbegun : s.Begun p) (hrefers : s.Refers p)
    {t r : Option Nat} (ht : t = s.txMessage ∨ t = none) (hr : r = s.rxMessage ∨ r = none)
    (htp : t ≠ some p) (hrp : r ≠ some p)
    (hkept : ∀ q, s.rxMessage = some q → q ≠ p → r = some q)
    (passedOn : Bool) (hasked : s.asks p = true → s.rxMessage = some p ∧ passedOn = true)
    (hsent : s.asks p = false → s.txMessage = some p) :
    (HostThread.finalizeMessage { s with txMessage := t, rxMessage := r } p passedOn).HostInv := by
  obtain ⟨m, hheap, hkind⟩ := hi.live p hrefers
  have hnotq := hi.ordered.not_queued hbegun
  obtain ⟨hfault, hdevice, ho, hlive, hbeg, hsending, hwaiting, htx, hwrote, htrans, hknown, hans,
    hclosed, hunasked⟩ := hi
  have htsome : ∀ q, t = some q → s.txMessage = some q := by
    intro q hq
    rcases ht with h | h
    · rw [← h]
      exact hq
    · rw [h] at hq
      cases hq
  have hrsome : ∀ q, r = some q → s.rxMessage = some q := by
    intro q hq
    rcases hr with h | h
    · rw [← h]
      exact hq
    · rw [h] at hq
      cases hq
  have hissued : m.interrupt = false → p ∈ s.log.issued :=
    fun hint => ho.issued_of_begun hbegun (hkind.interrupt.symm.trans hint)
  have hcount : ∀ q, q ≠ p → List.count q (if m.interrupt = false ∧ passedOn = true then
      s.log.answers ++ [p] else s.log.answers) = List.count q s.log.answers := by
    intro q hqp
    split
    · rw [List.count_append, List.count_singleton]
      simp [Ne.symm hqp]
    · rfl
  unfold HostThread.finalizeMessage
  dsimp only
  rw [hheap]
  obtain ⟨h₁, h₂, h₃, h₄, h₅, h₆⟩ := ho
  refine ⟨hfault, hdevice, ⟨h₁, h₂, h₃, h₄, h₅, h₆⟩, ?_, fun q hq => hbeg q (htsome q hq),
    fun q hq => hsending q (htsome q hq), fun q hq => hwaiting q (hrsome q hq), ?_, hwrote, ?_, ?_,
    ?_, ?_, ?_⟩
  · intro q hq
    have hne : q ≠ p ∧ s.Refers q := by
      rcases hq with hq | hq | hq | hq
      · exact ⟨fun h => hnotq.1 (h ▸ hq), .inl hq⟩
      · exact ⟨fun h => hnotq.2 (h ▸ hq), .inr (.inl hq)⟩
      · exact ⟨fun h => htp (h ▸ hq), .inr (.inr (.inl (htsome q hq)))⟩
      · exact ⟨fun h => hrp (h ▸ hq), .inr (.inr (.inr (hrsome q hq)))⟩
    change ∃ m', update s.heap p none q = some m' ∧ SameKind m' (s.log.reqs q)
    rw [update_of_ne hne.1]
    exact hlive q hne.2
  · intro q hq hask
    have hne : q ≠ p := fun h => htp (h ▸ hq)
    exact hkept q (htx q (htsome q hq) hask) hne
  · intro q hq
    obtain ⟨h, hb, hnot⟩ := htrans q hq
    exact ⟨h, hb, fun h => hnot (htsome q h)⟩
  · intro q hq
    change q ∈ (if m.interrupt = false ∧ passedOn = true then s.log.answers ++ [p]
      else s.log.answers) at hq
    split at hq
    · rename_i hcond
      rcases List.mem_append.mp hq with hq | hq
      · exact hknown q hq
      · rw [List.mem_singleton.mp hq]
        exact hissued hcond.1
    · exact hknown q hq
  · intro q hq hask
    have hone := hans q hq hask
    change List.count q (if m.interrupt = false ∧ passedOn = true then s.log.answers ++ [p]
      else s.log.answers) + (if q ∈ s.messages ∨ r = some q then 1 else 0) = 1
    by_cases hqp : q = p
    · subst hqp
      obtain ⟨hrx, hpassed⟩ := hasked hask
      have hint : m.interrupt = false := hkind.interrupt.trans (h₅ q hq)
      rw [if_pos (.inr hrx)] at hone
      rw [if_pos ⟨hint, hpassed⟩, if_neg, List.count_append, List.count_singleton_self]
      · omega
      · rintro (h | h)
        · exact hnotq.1 h
        · exact hrp h
    · have hiff : (q ∈ s.messages ∨ r = some q) ↔ (q ∈ s.messages ∨ s.rxMessage = some q) := by
        constructor
        · exact Or.imp_right (hrsome q)
        · exact Or.imp_right fun h => hkept q h hqp
      rw [hcount q hqp, if_congr hiff rfl rfl]
      exact hone
  · intro hc
    obtain ⟨hrx, hmsgs⟩ := hclosed hc
    refine ⟨?_, hmsgs⟩
    rcases hr with h | h
    · exact h.trans hrx
    · exact h
  · intro q hq hask
    obtain ⟨hlooks, hle, hnone, hdone⟩ := hunasked q hq hask
    change _ ∧ List.count q (if m.interrupt = false ∧ passedOn = true then s.log.answers ++ [p]
      else s.log.answers) ≤ 1 ∧ (_ → List.count q (if m.interrupt = false ∧ passedOn = true then
      s.log.answers ++ [p] else s.log.answers) = 0) ∧ (_ → List.count q (if m.interrupt = false ∧
      passedOn = true then s.log.answers ++ [p] else s.log.answers) = 1)
    by_cases hqp : q = p
    · subst hqp
      have htxq := hsent hask
      have hzero := hnone (.inr htxq)
      refine ⟨hlooks, ?_, ?_, fun h => absurd htxq (htrans q h).2.2⟩
      · split
        · rw [List.count_append, hzero, List.count_singleton_self]
        · exact hle
      · rintro (h | h)
        · exact absurd h hnotq.1
        · exact absurd h htp
    · rw [hcount q hqp]
      exact ⟨hlooks, hle, fun h => hnone (h.imp_right (htsome q)), hdone⟩

/-- The error is passed on to every message but GET_PROGRESS once the device is gone. -/
theorem disconnectPassedOn_none {m : SendMessageReq} (h : m.devCmd ≠ .getProgress) :
    disconnectPassedOn none m = true := by
  unfold disconnectPassedOn
  split
  · rfl
  · rfl
  · rename_i hd
    exact absurd hd h
  · rfl

theorem disconnect_finalizeMessage (s : HostThread) (p : Nat) (b : Bool) :
    HostThread.finalizeMessage
        { s with
          connected := false, deviceType := none, txMessage := none, rxMessage := none } p b =
      { HostThread.finalizeMessage { s with txMessage := none, rxMessage := none } p b with
        connected := false, deviceType := none } := by
  unfold HostThread.finalizeMessage
  dsimp only
  split
  · rfl
  · rfl

/-- **The connection is lost.** -/
theorem HostInv.handleError (hi : s.HostInv) (hc : s.connected = true) (hlose : s.MayLose) :
    s.handleError.HostInv ∧ s.handleError.connected = false ∧
      (s.rxMessage ≠ none ∨ (∀ p, s.txMessage = some p → (s.log.reqs p).interrupt = false) →
        s.handleError.txMessage = none) := by
  have hfinish : ∀ p m, s.Begun p → s.Refers p → s.heap p = some m →
      (∀ q, s.rxMessage = some q → q = p) →
      (s.asks p = true → s.rxMessage = some p ∧ disconnectPassedOn none m = true) →
      (s.asks p = false → s.txMessage = some p) →
      HostInv (HostThread.finalizeMessage
        { s with connected := false, deviceType := none, txMessage := none, rxMessage := none } p
        (disconnectPassedOn none m)) ∧
      (HostThread.finalizeMessage
        { s with connected := false, deviceType := none, txMessage := none, rxMessage := none } p
        (disconnectPassedOn none m)).connected = false ∧
      (HostThread.finalizeMessage
        { s with connected := false, deviceType := none, txMessage := none, rxMessage := none } p
        (disconnectPassedOn none m)).txMessage = none := by
    intro p m hbegun hrefers hheap honly hasked hsent
    rw [disconnect_finalizeMessage]
    have hfin := hi.finish hbegun hrefers (t := none) (r := none) (.inr rfl) (.inr rfl) (by simp)
      (by simp) (fun q hq hne => absurd (honly q hq) hne) _ hasked hsent
    have hsame : (HostThread.finalizeMessage { s with txMessage := none, rxMessage := none } p
          (disconnectPassedOn none m)).rxMessage = none ∧
        (HostThread.finalizeMessage { s with txMessage := none, rxMessage := none } p
          (disconnectPassedOn none m)).messages = s.messages ∧
        (HostThread.finalizeMessage { s with txMessage := none, rxMessage := none } p
          (disconnectPassedOn none m)).log.reqs = s.log.reqs ∧
        (HostThread.finalizeMessage { s with txMessage := none, rxMessage := none } p
          (disconnectPassedOn none m)).txMessage = none := by
      unfold HostThread.finalizeMessage
      dsimp only
      rw [hheap]
      exact ⟨rfl, rfl, rfl, rfl⟩
    obtain ⟨k₁, k₂, k₃, k₄⟩ := hsame
    refine ⟨hfin.disconnect k₁ ?_, rfl, k₄⟩
    rw [k₂]
    intro q hq
    unfold asks
    rw [k₃]
    exact hlose.1 q hq
  unfold HostThread.handleError
  rw [if_pos hc]
  cases hrx : s.rxMessage with
  | some p =>
    have hrefers : s.Refers p := .inr (.inr (.inr hrx))
    obtain ⟨m, hheap, hkind⟩ := hi.live p hrefers
    have hpass : disconnectPassedOn none m = true :=
      disconnectPassedOn_none (hkind.devCmd ▸ hlose.2 p hrx)
    obtain ⟨g₁, g₂, g₃⟩ := hfinish p m (.inl (hi.waiting p hrx).2) hrefers hheap
      (fun q hq => Option.some.inj (hq.symm.trans hrx)) (fun _ => ⟨hrx, hpass⟩)
      (fun h => absurd (h.symm.trans (hi.waiting p hrx).1) Bool.false_ne_true)
    dsimp only
    rw [hheap]
    exact ⟨g₁, g₂, fun _ => g₃⟩
  | none =>
    cases htx : s.txMessage with
    | none =>
      have hgone := hi.disconnect hrx hlose.1
      rw [hrx, htx] at hgone
      exact ⟨hgone, rfl, fun _ => rfl⟩
    | some p =>
      have hrefers : s.Refers p := .inr (.inr (.inl htx))
      obtain ⟨m, hheap, hkind⟩ := hi.live p hrefers
      dsimp only
      rw [hheap]
      dsimp only
      by_cases hint : m.interrupt = true
      · rw [if_pos hint]
        have hgone := hi.disconnect hrx hlose.1
        rw [hrx, htx] at hgone
        refine ⟨hgone, rfl, fun h => ?_⟩
        have hnot := h.resolve_left (by simp) p rfl
        rw [← hkind.interrupt, hint] at hnot
        cases hnot
      · rw [if_neg hint]
        have hnotask : s.asks p ≠ true := by
          intro hask
          have := hi.txWaits p htx hask
          rw [hrx] at this
          cases this
        obtain ⟨g₁, g₂, g₃⟩ := hfinish p m (hi.begun p htx) hrefers hheap
          (fun q hq => by rw [hrx] at hq; cases hq) (fun h => absurd h hnotask) (fun _ => htx)
        exact ⟨g₁, g₂, fun _ => g₃⟩

/-- `tx_state` lets go of its message. -/
theorem HostInv.letGo (hi : s.HostInv) : HostInv { s with txMessage := none } := by
  obtain ⟨hfault, hdevice, ho, hlive, hbegun, hsending, hwaiting, htx, hwrote, htrans, hknown, hans,
    hclosed, hunasked⟩ := hi
  obtain ⟨h₁, h₂, h₃, h₄, h₅, h₆⟩ := ho
  refine ⟨hfault, hdevice, ⟨h₁, h₂, h₃, h₄, h₅, h₆⟩, ?_, (fun q hq => by cases hq),
    (fun q hq => by cases hq), hwaiting, (fun q hq => by cases hq), hwrote, ?_, hknown, hans,
    hclosed, ?_⟩
  · rintro q (hq | hq | hq | hq)
    · exact hlive q (.inl hq)
    · exact hlive q (.inr (.inl hq))
    · cases hq
    · exact hlive q (.inr (.inr (.inr hq)))
  · intro q hq
    obtain ⟨h, hb, -⟩ := htrans q hq
    exact ⟨h, hb, fun h => by cases h⟩
  · intro q hq hask
    obtain ⟨hlooks, hle, hnone, hdone⟩ := hunasked q hq hask
    refine ⟨hlooks, hle, ?_, hdone⟩
    rintro (h | h)
    · exact hnone (.inl h)
    · cases h

/-- **A transmission has come to its end.** -/
theorem HostInv.transmit (hi : s.HostInv) (hbegun : s.Begun p) (hfree : s.txMessage = none)
    (hall : s.writtenOf p = s.log.packets p)
    (hone : p ∈ s.log.issued → s.asks p = false → s.log.answers.count p = 1) :
    HostInv { s with log := { s.log with transmitted := s.log.transmitted ++ [p] } } := by
  obtain ⟨hfault, hdevice, ho, hlive, hbeg, hsending, hwaiting, htx, hwrote, htrans, hknown, hans,
    hclosed, hunasked⟩ := hi
  obtain ⟨h₁, h₂, h₃, h₄, h₅, h₆⟩ := ho
  refine ⟨hfault, hdevice, ⟨h₁, h₂, h₃, h₄, h₅, h₆⟩, hlive, hbeg, hsending, hwaiting, htx, hwrote,
    ?_,
    hknown, hans, hclosed, ?_⟩
  · intro q hq
    rcases List.mem_append.mp hq with hq | hq
    · exact htrans q hq
    · rw [List.mem_singleton.mp hq]
      refine ⟨hall, hbegun, ?_⟩
      change s.txMessage ≠ some p
      rw [hfree]
      simp
  · intro q hq hask
    obtain ⟨hlooks, hle, hnone, hdone⟩ := hunasked q hq hask
    refine ⟨hlooks, hle, hnone, fun h => ?_⟩
    rcases List.mem_append.mp h with h | h
    · exact hdone h
    · obtain rfl := List.mem_singleton.mp h
      exact hone hq hask

/-- **The next packet of the message is written.** -/
theorem HostInv.write (hi : s.HostInv) (hc : s.connected = true) {d : Device}
    (hd : s.deviceType = some d) (htx : s.txMessage = some p)
    (hmore : s.tx.msgPacketSeq ≠ s.tx.msgPacketCount) :
    HostInv { s with
      tx := advanceMessageState d s.tx
      log := { s.log with
        written := s.log.written ++ [(p, (advanceMessageState d s.tx).packetBuf.window 1)] } } := by
  have hbegun := hi.begun p htx
  obtain ⟨hfault, hdevice, ho, hlive, hbeg, hsending, hwaiting, htxw, hwrote, htrans, hknown, hans,
    hclosed, hunasked⟩ := hi
  obtain ⟨h₁, h₂, h₃, h₄, h₅, h₆⟩ := ho
  have hother : ∀ q, q ≠ p → ∀ x : Mem,
      ((s.log.written ++ [(p, x)]).filter (fun y => y.1 = q)).map (·.2) = s.writtenOf q := by
    intro q hq x
    unfold writtenOf
    simp [List.filter_append, Ne.symm hq]
  refine ⟨hfault, hdevice, ⟨h₁, h₂, h₃, h₄, h₅, h₆⟩, hlive, hbeg, ?_, hwaiting, htxw, ?_, ?_,
    hknown,
    hans, hclosed, hunasked⟩
  · intro q hq
    obtain rfl : q = p := Option.some.inj (hq.symm.trans htx)
    obtain ⟨d', prepared, hd', hpackets, hzero, hadv, hle, hwritten⟩ := hsending q hq
    obtain rfl : d = d' := Option.some.inj (hd.symm.trans (hd' hc))
    obtain ⟨-, -, hcount⟩ := advanced_frame (d := d) prepared s.tx.msgPacketSeq
    rw [← hadv] at hcount
    have hlt : s.tx.msgPacketSeq < prepared.msgPacketCount :=
      lt_of_le_of_ne hle (hcount ▸ hmore)
    have hnext : advanceMessageState d s.tx = advanced d prepared (s.tx.msgPacketSeq + 1) := by
      unfold advanced
      rw [iterate_succ_apply']
      exact congrArg _ hadv
    refine ⟨d, prepared, hd', hpackets, hzero, hnext, hlt, ?_⟩
    change ((s.log.written ++ [(q, (advanceMessageState d s.tx).packetBuf.window 1)]).filter
      (fun y => y.1 = q)).map (·.2) = (s.log.packets q).take (s.tx.msgPacketSeq + 1)
    rw [List.filter_append, List.map_append, hpackets, take_messagePackets _ hlt, ← hpackets]
    unfold writtenOf at hwritten
    rw [hwritten, hnext]
    simp
  · intro x hx
    rcases List.mem_append.mp hx with hx | hx
    · exact hwrote x hx
    · rw [List.mem_singleton.mp hx]
      exact hbegun
  · intro q hq
    obtain ⟨h, hb, hnot⟩ := htrans q hq
    refine ⟨?_, hb, hnot⟩
    have hne : q ≠ p := fun heq => hnot (heq ▸ htx)
    exact (hother q hne _).trans h

/-- **A packet is written**, or the transmission has come to its end. -/
theorem HostInv.attemptRawHidWrite (hi : s.HostInv) (hc : s.connected = true) {w : WriteResult}
    (hw : s.Writes → w = .ok) :
    (s.attemptRawHidWrite w).1.HostInv ∧ (s.attemptRawHidWrite w).1.connected = true := by
  obtain ⟨d, hd⟩ := hi.device hc
  unfold HostThread.attemptRawHidWrite
  cases htx : s.txMessage with
  | none =>
    have hi' := hi
    exact ⟨hi', hc⟩
  | some p =>
    dsimp only
    have hbegun := hi.begun p htx
    have hrefers : s.Refers p := .inr (.inr (.inl htx))
    obtain ⟨m, hheap, hkind⟩ := hi.live p hrefers
    obtain ⟨d', prepared, hd', hpackets, hzero, hadv, hle, hwritten⟩ := hi.sending p htx
    obtain rfl : d = d' := Option.some.inj (hd.symm.trans (hd' hc))
    obtain ⟨-, -, hcount⟩ := advanced_frame (d := d) prepared s.tx.msgPacketSeq
    rw [← hadv] at hcount
    by_cases hend : s.tx.msgPacketSeq = s.tx.msgPacketCount
    · rw [if_pos hend, hheap]
      dsimp only
      -- all its packets are written
      have hall : s.writtenOf p = s.log.packets p := by
        rw [hwritten, hend, hcount, hpackets, ← length_messagePackets prepared, List.take_length]
      by_cases hget : m.getResp = true
      · rw [if_pos hget]
        have hask : s.asks p = true := hkind.getResp.symm.trans hget
        exact ⟨hi.letGo.transmit hbegun rfl hall
          (fun _ h => absurd (h.symm.trans hask) Bool.false_ne_true), hc⟩
      · rw [if_neg hget]
        have hnotask : s.asks p ≠ true := fun h => hget (hkind.getResp.trans h)
        have hrxp : s.rxMessage ≠ some p := fun h => hnotask (hi.waiting p h).1
        have hfin := hi.finish hbegun hrefers (t := none) (r := s.rxMessage) (.inr rfl) (.inl rfl)
          (by simp) hrxp (fun _ h _ => h) true (fun h => absurd h hnotask) (fun _ => htx)
        -- an ordinary message is one whose response is not looked at
        have hordinary : m.interrupt = false → p ∈ s.log.issued := fun hint =>
          hi.ordered.issued_of_begun hbegun (hkind.interrupt.symm.trans hint)
        have hplain : ¬ (m.interrupt = false ∧ looksAtResponse m.devCmd = true) := by
          rintro ⟨hint, hlooks⟩
          have hnot := (hi.unasked p (hordinary hint) (Bool.eq_false_iff.mpr hnotask)).1
          rw [hkind.devCmd, hnot] at hlooks
          cases hlooks
        have hcalled : p ∈ s.log.issued → s.asks p = false →
            (HostThread.finalizeMessage { s with txMessage := none } p true).log.answers.count p =
              1 := by
          intro hissued hask
          have hzero := (hi.unasked p hissued hask).2.2.1 (.inr htx)
          have hint : m.interrupt = false := hkind.interrupt.trans (hi.ordered.ordinary p hissued)
          unfold HostThread.finalizeMessage
          dsimp only
          rw [hheap]
          dsimp only
          rw [if_pos ⟨hint, rfl⟩, List.count_append, hzero, List.count_singleton_self]
        unfold HostThread.finalizeUnasked
        rw [if_neg hplain]
        unfold HostThread.finalizeMessage at hfin hcalled ⊢
        dsimp only at hfin hcalled ⊢
        rw [hheap] at hfin hcalled ⊢
        exact ⟨hfin.transmit hbegun rfl hall hcalled, hc⟩
    · rw [if_neg hend, hd, hc]
      rw [hw ⟨by rw [htx]; rfl, hend⟩]
      have hwrite := hi.write hc hd htx hend
      rw [hd, hc, htx] at hwrite
      exact ⟨hwrite, rfl⟩

/-- The reception state has no part in the invariant. -/
theorem HostInv.setRx (hi : s.HostInv) (rx : RxMessageState) : HostInv { s with rx } := by
  obtain ⟨hfault, hdevice, ⟨h₁, h₂, h₃, h₄, h₅, h₆⟩, hlive, hbegun, hsending, hwaiting, htx, hwrote,
    htrans, hknown, hans, hclosed, hunasked⟩ := hi
  exact ⟨hfault, hdevice, ⟨h₁, h₂, h₃, h₄, h₅, h₆⟩, hlive, hbegun, hsending, hwaiting, htx, hwrote,
    htrans, hknown, hans, hclosed, hunasked⟩

/-- A message is changed, but not its kind. -/
theorem HostInv.setMessage (hi : s.HostInv) {m : SendMessageReq}
    (hkind : SameKind m (s.log.reqs p)) : HostInv { s with heap := update s.heap p (some m) } := by
  obtain ⟨hfault, hdevice, ⟨h₁, h₂, h₃, h₄, h₅, h₆⟩, hlive, hbegun, hsending, hwaiting, htx, hwrote,
    htrans, hknown, hans, hclosed, hunasked⟩ := hi
  refine ⟨hfault, hdevice, ⟨h₁, h₂, h₃, h₄, h₅, h₆⟩, ?_, hbegun, hsending, hwaiting, htx, hwrote,
    htrans, hknown, hans, hclosed, hunasked⟩
  intro q hq
  change ∃ m', update s.heap p (some m) q = some m' ∧ SameKind m' (s.log.reqs q)
  by_cases hqp : q = p
  · subst hqp
    rw [update_self]
    exact ⟨m, rfl, hkind⟩
  · rw [update_of_ne hqp]
    exact hlive q hq

/-- A packet ends its message with the last packet of the last response, and else leaves the
    message as it was. -/
theorem processRxPacket_message (s : HostThread) (d : Device) (m : SendMessageReq) {buf : Mem}
    (hseq : packetSeq buf ≠ 0x7f) :
    ((processRxPacket d { s.rx with message := some m } buf).state.message = none ∧
        s.endsResponse buf = true) ∨
      s.endsResponse buf = false ∧
        ∃ m', (processRxPacket d { s.rx with message := some m } buf).state.message = some m' ∧
          SameKind m' m := by
  have hrx : ∃ m' rx', (if packetSeq buf = 0 then rxFirst d { s.rx with message := some m } m buf
      else rxNext d { s.rx with message := some m } buf).1 = rx' ∧ rx'.message = some m' ∧
      SameKind m' m ∧ rx'.expectedMessagesRemaining =
        if packetSeq buf = 0 then buf.get16 4 else s.rx.expectedMessagesRemaining := by
    by_cases hzero : packetSeq buf = 0
    · rw [if_pos hzero, if_pos hzero]
      exact ⟨{ m with endDeviceState := buf 6 }, _, rfl, rfl, ⟨rfl, rfl, rfl⟩, rfl⟩
    · rw [if_neg hzero, if_neg hzero]
      refine ⟨m, _, rfl, ?_, SameKind.refl m, ?_⟩
      · unfold rxNext
        dsimp only
        split
        · split
          · rfl
          · rfl
        · split
          · rfl
          · rfl
      · unfold rxNext
        dsimp only
        split
        · split
          · rfl
          · rfl
        · split
          · rfl
          · rfl
  obtain ⟨m', rx', heq, hmsg, hkind, hremaining⟩ := hrx
  unfold processRxPacket
  rw [if_neg hseq]
  dsimp only
  rw [heq]
  unfold rxLast
  rw [hmsg]
  dsimp only
  cases hlast : packetLast buf with
  | false =>
    rw [if_neg Bool.false_ne_true]
    refine .inr ⟨?_, m', hmsg, hkind⟩
    unfold endsResponse
    rw [hlast, Bool.and_false, Bool.false_and]
  | true =>
    rw [if_pos rfl]
    by_cases hnone : rx'.expectedMessagesRemaining = 0
    · rw [if_pos hnone]
      refine .inl ⟨rfl, ?_⟩
      unfold endsResponse
      rw [hremaining] at hnone
      rw [hlast, hnone]
      simp [hseq]
    · rw [if_neg hnone]
      refine .inr ⟨?_, m', hmsg, hkind⟩
      unfold endsResponse
      rw [hremaining] at hnone
      rw [beq_eq_false_iff_ne.mpr hnone, Bool.and_false]

/-- **A packet is taken in.** -/
theorem HostInv.processPacket (hi : s.HostInv) (hc : s.connected = true) {buf : Mem}
    (hw : s.Welcome buf) :
    (s.processPacket buf).HostInv ∧ (s.processPacket buf).connected = true := by
  obtain ⟨d, hd⟩ := hi.device hc
  unfold HostThread.processPacket
  by_cases hseq : packetSeq buf = 0x7f
  · rw [if_pos hseq]
    exact ⟨hi, hc⟩
  · rw [if_neg hseq]
    cases hrx : s.rxMessage with
    | none =>
      dsimp only
      exact ⟨hi, hc⟩
    | some p =>
      have hrefers : s.Refers p := .inr (.inr (.inr hrx))
      obtain ⟨m, hheap, hkind⟩ := hi.live p hrefers
      obtain ⟨hlate, hpass⟩ := hw p hrx
      have hpassed : (processRxPacket d { s.rx with message := some m } buf).calls.all (passesOn d)
        =
          true := by
        rw [List.all_eq_true]
        exact hpass d m hd hheap
      dsimp only
      rw [hheap, hd]
      dsimp only
      rw [hpassed]
      have hmessage := processRxPacket_message s d m hseq
      generalize processRxPacket d { s.rx with message := some m } buf = x at hmessage
      rcases hmessage with ⟨hnone, hend⟩ | ⟨-, m', hsome, hkind'⟩
      · rw [hnone]
        have htx := hlate hend
        have hfin := (hi.setRx { x.state with message := none }).finish (t := s.txMessage) (r :=
          none)
          (.inl (hi.waiting p hrx).2) hrefers (.inl rfl) (.inr rfl) htx (by simp)
          (fun q hq hne => absurd (Option.some.inj (hq.symm.trans hrx)) hne) true
          (fun _ => ⟨hrx, rfl⟩)
          (fun h => absurd (h.symm.trans (hi.waiting p hrx).1) Bool.false_ne_true)
        rw [hd] at hfin
        refine ⟨hfin, ?_⟩
        unfold HostThread.finalizeMessage
        dsimp only
        rw [hheap]
        exact hc
      · rw [hsome]
        have hkept := (hi.setRx { x.state with message := none }).setMessage
          (m := m') (p := p) ⟨hkind'.devCmd.trans hkind.devCmd, hkind'.getResp.trans hkind.getResp,
            hkind'.interrupt.trans hkind.interrupt⟩
        rw [hd, hrx] at hkept
        exact ⟨hkept, hc⟩

theorem attemptRawHidWrite_free (h : s.txMessage = none) (w : WriteResult) :
    s.attemptRawHidWrite w = (s, true) := by
  unfold HostThread.attemptRawHidWrite
  rw [h]

/-- Nor has it whether the loop runs. -/
theorem HostInv.setLooping (hi : s.HostInv) (looping : Bool) : HostInv { s with looping } := by
  obtain ⟨hfault, hdevice, ⟨h₁, h₂, h₃, h₄, h₅, h₆⟩, hlive, hbegun, hsending, hwaiting, htx, hwrote,
    htrans, hknown, hans, hclosed, hunasked⟩ := hi
  exact ⟨hfault, hdevice, ⟨h₁, h₂, h₃, h₄, h₅, h₆⟩, hlive, hbegun, hsending, hwaiting, htx, hwrote,
    htrans, hknown, hans, hclosed, hunasked⟩

/-- **One turn of the loop.** -/
theorem HostInv.rawHidIo (hi : s.HostInv) (hc : s.connected = true) {r : ReadResult} {buf : Mem}
    {w : WriteResult} (hok : s.Served (.io r buf w)) :
    (s.rawHidIo r buf w).HostInv ∧
      ((s.rawHidIo r buf w).looping = true → (s.rawHidIo r buf w).connected = true) := by
  obtain ⟨ht, htc, htd⟩ := hi.takeMessage hc
  rw [hc] at htc
  -- a read that fails
  have hfail : s.takeMessage.MayFail → s.takeMessage.attemptRawHidRead r buf =
      (s.takeMessage.handleError, true) → (s.rawHidIo r buf w).HostInv ∧
      ((s.rawHidIo r buf w).looping = true → (s.rawHidIo r buf w).connected = true) := by
    intro hmay heq
    obtain ⟨he, hec, hfree⟩ := ht.handleError htc hmay.1
    have hfree' : s.takeMessage.handleError.txMessage = none := by
      apply hfree
      by_cases hrx : s.takeMessage.rxMessage = none
      · exact .inr (hmay.2 hrx)
      · exact .inl hrx
    unfold HostThread.rawHidIo
    rw [heq]
    dsimp only
    rw [if_pos rfl, attemptRawHidWrite_free hfree']
    exact ⟨he.setLooping false, fun h => by cases h⟩
  have hpacket : s.takeMessage.Welcome buf → s.takeMessage.attemptRawHidRead r buf =
      (s.takeMessage.processPacket buf, false) → (s.rawHidIo r buf w).HostInv ∧
      ((s.rawHidIo r buf w).looping = true → (s.rawHidIo r buf w).connected = true) := by
    intro hwel heq
    obtain ⟨hp, hpc⟩ := ht.processPacket htc hwel
    unfold HostThread.rawHidIo
    rw [heq]
    dsimp only
    rw [if_neg Bool.false_ne_true]
    exact ⟨hp.setLooping true, fun _ => hpc⟩
  obtain ⟨d, hd⟩ := hi.device hc
  have hsize : signetdevPrivHidPacketSize s.takeMessage.deviceType = d.hidLink.rawHidPacketSize :=
    by
    rw [htd, hd]
    rfl
  cases r with
  | again =>
    have hread : s.takeMessage.attemptRawHidRead .again buf = (s.takeMessage, true) := by
      unfold attemptRawHidRead
      rw [htc]
      rfl
    obtain ⟨hwr, hwc⟩ := ht.attemptRawHidWrite htc hok
    unfold HostThread.rawHidIo
    rw [hread]
    dsimp only
    rw [if_pos rfl]
    exact ⟨hwr.setLooping _, fun _ => hwc⟩
  | failed =>
    refine hfail hok ?_
    unfold attemptRawHidRead
    rw [htc]
    simp only [if_true]
    rw [if_neg]
    rw [hsize]
    omega
  | bytes n =>
    have hread : s.takeMessage.attemptRawHidRead (.bytes n) buf =
        if signetdevPrivHidPacketSize s.deviceType = n then (s.takeMessage.processPacket buf, false)
        else (s.takeMessage.handleError, true) := by
      unfold attemptRawHidRead
      rw [htc, htd]
      rfl
    have hok' : if signetdevPrivHidPacketSize s.deviceType = n then s.takeMessage.Welcome buf
        else s.takeMessage.MayFail := hok
    by_cases hn : signetdevPrivHidPacketSize s.deviceType = n
    · rw [if_pos hn] at hread hok'
      exact hpacket hok' hread
    · rw [if_neg hn] at hread hok'
      exact hfail hok' hread

/-! ### Whole runs -/

theorem hostInv_initial (m : SendMessageReq) (rx : RxMessageState) : (initial m rx).HostInv := by
  have hnone : ∀ {P : Nat → Prop}, ∀ p ∈ ([] : List Nat), P p := fun p h => by cases h
  refine ⟨rfl, (fun h => by cases h), ⟨List.Sublist.refl _, List.Sublist.refl _, List.nodup_nil,
    hnone,
    hnone, hnone⟩, ?_, (fun p h => by cases h), (fun p h => by cases h), (fun p h => by cases h),
    (fun p h => by cases h), (fun x h => by cases h), hnone, hnone, hnone, ?_, hnone⟩
  · rintro p (h | h | h | h)
    · cases h
    · cases h
    · cases h
    · cases h
  · intro _
    exact ⟨rfl, fun p h => by cases h⟩

theorem handleError_looping (s : HostThread) : s.handleError.looping = s.looping := by
  have hfinish : ∀ (t : HostThread) (p : Nat) (b : Bool),
      (HostThread.finalizeMessage t p b).looping = t.looping := by
    intro t p b
    unfold HostThread.finalizeMessage
    split
    · rfl
    · rfl
  have hgone : ∀ t : HostThread,
      (if t.connected then { t with connected := false, deviceType := none } else t).looping =
        t.looping := by
    intro t
    split
    · rfl
    · rfl
  unfold HostThread.handleError
  dsimp only
  generalize ht : (if s.connected then { s with connected := false, deviceType := none } else s) = t
  have hloop : t.looping = s.looping := ht ▸ hgone s
  split
  · split
    · exact hloop
    · exact (hfinish _ _ _).trans hloop
  · split
    · exact hloop
    · split
      · exact hloop
      · exact (hfinish _ _ _).trans hloop
  · exact hloop

/-- **Every step that leaves no message behind keeps the invariant.** -/
theorem HostInv.step (hi : s.HostInv) (hl : s.looping = true → s.connected = true) {e : HostEvent}
    (hok : s.Served e) :
    (s.step e).HostInv ∧ ((s.step e).looping = true → (s.step e).connected = true) := by
  unfold HostThread.step
  rw [if_neg (by rw [hi.fault]; decide)]
  cases hloop : s.looping with
  | true =>
    cases e with
    | io r buf w => exact hi.rawHidIo (hl hloop) hok
    | message _ => exact ⟨hi, hl⟩
    | cancelMessage _ => exact ⟨hi, hl⟩
    | openConnection _ => exact ⟨hi, hl⟩
    | closeConnection => exact ⟨hi, hl⟩
    | hangup => exact ⟨hi, hl⟩
    | enterLoop => exact ⟨hi, hl⟩
  | false =>
    have hquiet : ∀ {t : HostThread}, t.looping = s.looping → t.looping = true →
        t.connected = true := by
      intro t ht h
      rw [ht, hloop] at h
      cases h
    cases e with
    | io _ _ _ => exact ⟨hi, hl⟩
    | message m => exact ⟨hi.sendMessage m hok.1 hok.2, hquiet rfl⟩
    | cancelMessage m => exact ⟨hi.cancelMessage m, hquiet rfl⟩
    | openConnection found =>
      refine ⟨hi.attemptOpenConnection hok found, hquiet ?_⟩
      change (s.attemptOpenConnection found).looping = s.looping
      unfold HostThread.attemptOpenConnection
      split
      · rfl
      · split
        · rfl
        · rfl
    | closeConnection =>
      refine ⟨hi.closeConnection hok.1 hok.2, hquiet ?_⟩
      change s.closeConnection.looping = s.looping
      unfold HostThread.closeConnection
      split
      · rfl
      · rfl
    | hangup =>
      dsimp only
      by_cases hc : s.connected = true
      · rw [if_pos hc]
        exact ⟨(hi.handleError hc hok).1, hquiet (handleError_looping s)⟩
      · rw [if_neg hc]
        exact ⟨hi, hl⟩
    | enterLoop => exact ⟨hi.setLooping s.connected, id⟩

end SignetBase.HostThread

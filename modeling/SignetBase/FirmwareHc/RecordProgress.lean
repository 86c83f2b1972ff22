/-
  SignetBase/FirmwareHc/RecordProgress.lean
  =========================================
  **The record database of Signet HC carries out what it is asked for.**

  In the runs of this module the host sends a command when the last one is over (`StoreOk`).  Every
  step of the device is one of the map of records (`step_standsFor`), and a job that is under way
  is over, or waits for the button, after a number of completions that depends on the size of the
  database alone (`settle_run`).  So the device starts up, and a change is made and a record is
  shown when the user presses the button (`Rests.makes`, `Rests.shows`).
-/
import SignetBase.FirmwareHc.RecordEvents

namespace SignetBase.FirmwareHc

/-! ### Runs -/

/-- The device after power-on, with blocks that hold `records`. -/
structure StoreInit (P : RootPlatform) (K : RecordKey) (records : Nat → Option Record)
    (s : RecordStore) : Prop where
  card : ∃ c, OnCard P K s.blocks c ∧ Represents (· ∈ dataBlocks) c records
  on : ∃ (s₀ : RecordStore) (stored : Nat → Bool), s = s₀.powerOn stored

/-- The host sends a command, and cancels one, when it is time for it, and the eMMC has stored a
    block as a whole or not at all when power is lost. -/
def StoreOk (s : RecordStore) : StoreEvent → Prop
  | .packet p _ =>
    if p.cmd = .cancelButtonPress then s.waitingForLongButtonPress = false else PacketOk s p
  | .login => ¬ s.Busy
  | .powerOn stored => ∀ idx, s.request = some (.write idx) →
    RecordStore.AllSectors stored ∨ RecordStore.NoSector stored
  | _ => True

/-- At most `n` completions that are to come, one after the other. -/
def RecordStore.settle (P : RootPlatform) (K : RecordKey) : Nat → RecordStore → RecordStore
  | 0, s => s
  | n + 1, s =>
    match s.completion with
    | none => s
    | some e => settle P K n (s.step P K e)

/-- The press, the completions and the responses that a job goes on with. -/
def StoreEvent.GoesOn (e : StoreEvent) : Prop :=
  e = .buttonPress ∨ e = .longButtonPress ∨ e = .readComplete ∨ e = .writeComplete ∨ e = .packetSent

section Runs

variable {P : RootPlatform} {K : RecordKey} {s : RecordStore} {a : RecordMap} {n : Nat}

theorem StoreEvent.GoesOn.storeOk {e : StoreEvent} (h : e.GoesOn) (s : RecordStore) :
    StoreOk s e := by
  rcases h with rfl | rfl | rfl | rfl | rfl <;> trivial

theorem RecordStore.press_goesOn (s : RecordStore) : s.press.GoesOn := by
  unfold RecordStore.press
  split
  · exact .inr (.inl rfl)
  · exact .inl rfl

/-- What a job goes on with leads from one phase to another. -/
theorem goesOn_goes (hK : BlockInverse K.enc K.dec) {e : StoreEvent} (he : e.GoesOn)
    (hs : StandsFor P K s a n) : ∃ m, Goes P K s (s.step P K e) a m := by
  rcases he with rfl | rfl | rfl | rfl | rfl
  · exact buttonPress_goes hK hs
  · exact longButtonPress_goes hK hs
  · exact (readComplete_goes hK hs).imp fun _ hm => hm.1
  · exact (writeComplete_stored hs).imp fun _ hm => hm.1
  · exact (cmdPacketSent_goes hK hs).imp fun _ hm => hm.1

theorem answers_eq {e : StoreEvent} {o : List StoreAnswer}
    (h : (s.step P K e).sent = s.sent ++ o) : RecordStore.answers P K s e = o := by
  unfold RecordStore.answers
  rw [h, List.drop_left]

/-- A routine that goes on with the job. -/
theorem Goes.works {e : StoreEvent} {m : Nat} (h : Goes P K s (s.step P K e) a m)
    (hpacket : ∀ p t, e ≠ .packet p t) (hpower : ∀ stored, e ≠ .powerOn stored) :
    ∃ a' n', RecordMap.Step K.startupResp a e (RecordStore.answers P K s e) a' ∧
      StandsFor P K (s.step P K e) a' n' ∧ n' ≤ m := by
  obtain ⟨out, a', n', hsent, hworks, hstands, hle⟩ := h
  rw [answers_eq hsent]
  exact ⟨a', n', .works hpacket hpower hworks, hstands, hle⟩

/-- CANCEL_BUTTON_PRESS ends a wait for a short press and is ignored otherwise. -/
theorem cancel_step {p : StorePacket} {t : Scratch} (h : StandsFor P K s a n)
    (hcmd : p.cmd = .cancelButtonPress) (hlong : s.waitingForLongButtonPress = false) :
    ∃ a' n', RecordMap.Step K.startupResp a (.packet p t)
        (RecordStore.answers P K s (.packet p t)) a' ∧
      StandsFor P K (s.step P K (.packet p t)) a' n' := by
  have hignored : ∀ (s' : RecordStore) {n' : Nat}, s.step P K (.packet p t) = s' →
      s'.sent = s.sent → StandsFor P K s' a n' → ∃ a' n',
        RecordMap.Step K.startupResp a (.packet p t) (RecordStore.answers P K s (.packet p t)) a' ∧
          StandsFor P K (s.step P K (.packet p t)) a' n' := by
    intro s' n' hstep hsent hstands
    rw [answers_eq (o := []) (by rw [hstep, hsent, List.append_nil]), hstep]
    exact ⟨a, n', .ignores hcmd, hstands⟩
  cases hactive : s.activeCmd with
  | some cmd =>
    by_cases hshort : s.waitingForButtonPress = true
    · obtain ⟨hjob, hgiveUp⟩ := h.giveUp (.inl hshort)
      have hstep : s.step P K (.packet p t) =
          s.endButtonPressWait.endLongButtonPressWait.finishCommandResp .buttonPressCanceled := by
        have hself : s.endButtonPressWait.endLongButtonPressWait = s.endButtonPressWait := by
          unfold RecordStore.endLongButtonPressWait RecordStore.endButtonPressWait
          rw [← hlong]
        rw [hself]
        simp only [RecordStore.step, RecordStore.cmdPacketRecv, hcmd, ↓reduceIte, hactive,
          Option.isSome_some, hshort, true_or]
      rw [answers_eq (o := [⟨.buttonPressCanceled, 0, []⟩]) (by rw [hstep]; rfl), hstep]
      exact ⟨_, 1, .cancels hcmd hjob, hgiveUp _⟩
    · refine hignored s ?_ rfl h
      simp only [RecordStore.step, RecordStore.cmdPacketRecv, hcmd, ↓reduceIte, hactive,
        Option.isSome_some, hshort, hlong, Bool.false_eq_true, or_self]
  | none =>
    obtain ⟨c, ha, hphase⟩ := h
    have hidle : ∀ {job n}, Phase P K s c a.records job n → Phase P K
        { s with cmdIterCount := 0, cmdMessagesRemaining := p.messagesRemaining, activeCmd := none }
        c a.records job n := by
      intro job n hphase
      have hnone : ∀ {cmd}, s.activeCmd = some cmd → False := by
        intro cmd hcmd
        rw [hactive] at hcmd
        cases hcmd
      cases hphase with
      | idle hq _ hT =>
        exact .idle ⟨hq.request, hq.updating, hq.shortEq, hq.longEq, hq.cache⟩
          (fun h => by cases h) hT
      | updateLoads hu _ _ _ _ => exact (hu.cmd.elim (hnone ·.1) (hnone ·.1)).elim
      | updateWaits hu _ _ _ _ => exact (hu.cmd.elim (hnone ·.1) (hnone ·.1)).elim
      | updateWrites hu _ _ _ _ => exact (hu.cmd.elim (hnone ·.1) (hnone ·.1)).elim
      | getLoads hg _ _ => exact (hnone hg.cmd).elim
      | getWaits hg _ _ _ _ _ _ => exact (hnone hg.cmd).elim
      | getAllWaits hg _ _ _ => exact (hnone hg.cmd).elim
      | getAllLoads hg _ _ _ _ => exact (hnone hg.cmd).elim
      | getAllSends hg _ _ _ _ => exact (hnone hg.cmd).elim
      | scans hs => exact (hnone hs.cmd).elim
    refine hignored { s with
        cmdIterCount := 0, cmdMessagesRemaining := p.messagesRemaining, activeCmd := none }
      ?_ rfl ⟨c, ⟨ha.card, ha.records, ha.state, ha.invalid⟩, hidle hphase⟩
    simp only [RecordStore.step, RecordStore.cmdPacketRecv, hcmd, ↓reduceIte, hactive,
      Option.isSome_none, Bool.false_eq_true]

/-- A session begins when nothing is under way. -/
theorem StandsFor.login (h : StandsFor P K s a n) (hfree : ¬ s.Busy)
    (hstate : s.deviceState = .loggedOut) :
    StandsFor P K (s.enterState .loggedIn) { a with state := .loggedIn } n := by
  obtain ⟨c, ha, hphase⟩ := h
  have hjob := (hphase.idle_of_free hfree).1
  refine ⟨c, ⟨ha.card, ha.records, rfl, ha.invalid⟩, ?_⟩
  dsimp only
  rw [hjob] at hphase ⊢
  cases hphase with
  | idle hq hcmd hT =>
    refine .idle ⟨hq.request, hq.updating, hq.shortEq, hq.longEq, hq.cache⟩ hcmd fun _ => hT ?_
    rw [hstate]
    exact fun h => by cases h

/-- **Every step of the device is one of the map.** -/
theorem step_standsFor (hK : BlockInverse K.enc K.dec) {e : StoreEvent} (h : StandsFor P K s a n)
    (hok : StoreOk s e) :
    ∃ a' n', RecordMap.Step K.startupResp a e (RecordStore.answers P K s e) a' ∧
      StandsFor P K (s.step P K e) a' n' := by
  have hgoes : ∀ {m}, Goes P K s (s.step P K e) a m → (∀ p t, e ≠ .packet p t) →
      (∀ stored, e ≠ .powerOn stored) → ∃ a' n',
        RecordMap.Step K.startupResp a e (RecordStore.answers P K s e) a' ∧
          StandsFor P K (s.step P K e) a' n' := by
    intro m hm hpacket hpower
    obtain ⟨a', n', hstep, hstands, -⟩ := hm.works hpacket hpower
    exact ⟨a', n', hstep, hstands⟩
  cases e with
  | packet p t =>
    unfold StoreOk at hok
    dsimp only at hok
    by_cases hcancel : p.cmd = .cancelButtonPress
    · rw [if_pos hcancel] at hok
      exact cancel_step h hcancel hok
    · rw [if_neg hcancel] at hok
      obtain ⟨out, a', n', hsent, hstep, hstands⟩ := cmdPacketRecv_received hK h hcancel hok t
      rw [answers_eq (e := .packet p t) hsent]
      exact ⟨a', n', hstep t, hstands⟩
  | login =>
    by_cases hstate : s.deviceState = .loggedOut
    · have hlogin : s.step P K .login = s.enterState .loggedIn := if_pos hstate
      rw [answers_eq (e := .login) (o := []) (by rw [hlogin]; exact (List.append_nil _).symm),
        hlogin]
      refine ⟨_, n, .login ?_, h.login hok hstate⟩
      obtain ⟨c, ha, -⟩ := h
      exact ha.state.trans hstate
    · have hself : s.step P K .login = s := if_neg hstate
      exact hgoes (m := n) (by rw [hself]; exact h.goes_self) (fun _ _ h => by cases h)
        fun _ h => by cases h
  | buttonPress =>
    obtain ⟨m, hm⟩ := buttonPress_goes hK h
    exact hgoes hm (fun _ _ h => by cases h) fun _ h => by cases h
  | longButtonPress =>
    obtain ⟨m, hm⟩ := longButtonPress_goes hK h
    exact hgoes hm (fun _ _ h => by cases h) fun _ h => by cases h
  | blinkTimeout =>
    by_cases hwaits : s.waitingForButtonPress = true ∨ s.waitingForLongButtonPress = true
    · obtain ⟨hjob, hgiveUp⟩ := h.giveUp hwaits
      have htimeout : s.step P K .blinkTimeout =
          s.endButtonPressWait.endLongButtonPressWait.finishCommandResp .buttonPressTimeout :=
        if_pos hwaits
      rw [answers_eq (o := [⟨.buttonPressTimeout, 0, []⟩]) (by rw [htimeout]; rfl), htimeout]
      exact ⟨_, 1, .timesOut hjob, hgiveUp _⟩
    · have hself : s.step P K .blinkTimeout = s := if_neg hwaits
      exact hgoes (m := n) (by rw [hself]; exact h.goes_self) (fun _ _ h => by cases h)
        fun _ h => by cases h
  | readComplete =>
    obtain ⟨m, hm, -⟩ := readComplete_goes hK h
    exact hgoes hm (fun _ _ h => by cases h) fun _ h => by cases h
  | writeComplete =>
    obtain ⟨m, hm, -⟩ := writeComplete_stored h
    exact hgoes hm (fun _ _ h => by cases h) fun _ h => by cases h
  | packetSent =>
    obtain ⟨m, hm, -⟩ := cmdPacketSent_goes hK h
    exact hgoes hm (fun _ _ h => by cases h) fun _ h => by cases h
  | powerOn stored =>
    obtain ⟨a', hstep, hstands⟩ := h.powerOn hok
    rw [answers_eq (e := .powerOn stored) (List.append_nil _).symm]
    exact ⟨a', 0, hstep, hstands⟩

/-- The device stands for the map, with some number of completions to come. -/
theorem simulates (hK : BlockInverse K.enc K.dec) (records : Nat → Option Record) :
    Simulates (StoreInit P K records) (RecordStore.step P K) StoreOk (RecordStore.answers P K)
      (fun a => a = ⟨records, .disconnected, none⟩) (RecordMap.Step K.startupResp)
      (fun s a => ∃ n, StandsFor P K s a n) where
  start := by
    rintro s ⟨⟨c, hcard, hR⟩, s₀, stored, rfl⟩
    exact ⟨_, rfl, 0, powerOn_holds hcard hR⟩
  next := by
    rintro s e a hok ⟨n, h⟩
    obtain ⟨a', n', hstep, hstands⟩ := step_standsFor hK h hok
    exact ⟨a', hstep, n', hstands⟩

/-! ### Progress -/

variable {records : Nat → Option Record} {h : History RecordStore StoreEvent}

/-- There are no more records than uids, and no more blocks than there are. -/
theorem Phase.le {c : Nat → Option (Nat × Record)} {job : Option Job}
    (h : Phase P K s c records job n) : n ≤ 2 * MAX_UID + 3 := by
  have hlength : ∀ start, (storedFrom records start).length ≤ MAX_UID + 1 := by
    intro start
    have hle := List.length_filter_le (fun u => (records u).isSome)
      (List.range' start (MAX_UID + 1 - start))
    rw [List.length_range'] at hle
    exact Nat.le_trans hle (Nat.sub_le _ _)
  have hblocks : MAX_DATA_BLOCK + 2 ≤ 2 * MAX_UID + 3 := by decide
  cases h with
  | idle _ _ _ => split <;> omega
  | updateLoads _ _ _ _ _ => omega
  | updateWaits _ _ _ _ _ => omega
  | updateWrites _ _ _ _ _ => omega
  | getLoads _ _ _ => omega
  | getWaits _ _ _ _ _ _ _ => omega
  | getAllWaits _ _ _ _ => omega
  | getAllLoads hg _ _ _ _ =>
    have hle := hlength s.readAllUidsData.uid
    rw [← hg.left] at hle
    omega
  | getAllSends hg _ _ _ _ =>
    have hle := hlength (s.readAllUidsData.uid + 1)
    rw [← hg.left] at hle
    omega
  | scans _ => omega

/-- A completion that was to come brings the job nearer to its end. -/
theorem completion_step (hK : BlockInverse K.enc K.dec) {e : StoreEvent} (h : StandsFor P K s a n)
    (he : s.completion = some e) :
    StoreOk s e ∧ ∃ out a' n', (s.step P K e).sent = s.sent ++ out ∧
      RecordMap.Works K.startupResp a out a' ∧ StandsFor P K (s.step P K e) a' n' ∧ n' < n := by
  have hnearer : ∀ {m s'}, Goes P K s s' a m → m < n → ∃ out a' n', s'.sent = s.sent ++ out ∧
      RecordMap.Works K.startupResp a out a' ∧ StandsFor P K s' a' n' ∧ n' < n := by
    rintro m s' ⟨out, a', n', hsent, hworks, hstands, hle⟩ hlt
    exact ⟨out, a', n', hsent, hworks, hstands, Nat.lt_of_le_of_lt hle hlt⟩
  have hcases : e = .writeComplete ∨ e = .readComplete ∨ e = .packetSent := by
    unfold RecordStore.completion at he
    split at he
    · exact .inl (Option.some.inj he).symm
    · exact .inr (.inl (Option.some.inj he).symm)
    · split at he
      · exact .inr (.inr (Option.some.inj he).symm)
      · cases he
  rcases hcases with rfl | rfl | rfl
  · obtain ⟨m, hm, -, hlt⟩ := writeComplete_stored h
    exact ⟨trivial, hnearer hm (hlt he)⟩
  · obtain ⟨m, hm, -, hlt⟩ := readComplete_goes hK h
    exact ⟨trivial, hnearer hm (hlt he)⟩
  · obtain ⟨m, hm, -, hlt⟩ := cmdPacketSent_goes hK h
    exact ⟨trivial, hnearer hm (hlt he)⟩

/-- The completions continue the run, and what the map keeps in its work, with what is sent for
    it, holds at the end. -/
theorem settle_run (hK : BlockInverse K.enc K.dec) {Q : List StoreAnswer → RecordMap → Prop}
    (hQ : ∀ sent a out a', Q sent a → RecordMap.Works K.startupResp a out a' → Q (sent ++ out) a')
    (k : Nat) (hq : Q s.sent a)
    (hs : StandsFor P K s a n) (hle : n ≤ k)
    (hr : Run (StoreInit P K records) (RecordStore.step P K) StoreOk h s) :
    (s.settle P K k).completion = none ∧
      (∃ a' n', Q (s.settle P K k).sent a' ∧ StandsFor P K (s.settle P K k) a' n') ∧
      ∃ h', Run (StoreInit P K records) (RecordStore.step P K) StoreOk (h' ++ h) (s.settle P K k) ∧
        ∀ x ∈ h', x.1.completion = some x.2 := by
  induction k generalizing s a n h with
  | zero =>
    refine ⟨?_, ⟨a, n, hq, hs⟩, [], hr, fun x hx => by cases hx⟩
    cases he : s.completion with
    | none => exact he
    | some e =>
      obtain ⟨-, out, a', n', -, -, -, hlt⟩ := completion_step hK hs he
      omega
  | succ k ih =>
    unfold RecordStore.settle
    cases he : s.completion with
    | none => exact ⟨he, ⟨a, n, hq, hs⟩, [], hr, fun x hx => by cases hx⟩
    | some e =>
      obtain ⟨hok, out, a', n', hsent, hworks, hs', hlt⟩ := completion_step hK hs he
      have hq' := hQ s.sent a out a' hq hworks
      rw [← hsent] at hq'
      obtain ⟨hnone, hend, h', hr', hall⟩ := ih hq' hs' (by omega) (hr.next hok)
      refine ⟨hnone, hend, h' ++ [(s, e)], ?_, ?_⟩
      · rw [List.append_assoc]
        exact hr'
      · intro x hx
        rcases List.mem_append.mp hx with hx | hx
        · exact hall x hx
        · cases List.mem_singleton.mp hx
          exact he

theorem completion_eq_none (hnone : s.completion = none) :
    s.request = none ∧ s.sending = false := by
  unfold RecordStore.completion at hnone
  split at hnone
  · cases hnone
  · cases hnone
  · rename_i hrequest
    refine ⟨hrequest, ?_⟩
    split at hnone
    · cases hnone
    · rename_i hsending
      exact Bool.eq_false_iff.mpr hsending

/-! ### Sessions -/

/-- A run from power-on has come to a state that stands for the map. -/
structure Reaches (P : RootPlatform) (K : RecordKey) (records : Nat → Option Record)
    (s : RecordStore) (a : RecordMap) : Prop where
  stands : ∃ n, StandsFor P K s a n
  run : ∃ h, Run (StoreInit P K records) (RecordStore.step P K) StoreOk h s

/-- It has come to a state in which nothing is under way. -/
structure Rests (P : RootPlatform) (K : RecordKey) (records : Nat → Option Record)
    (s : RecordStore) (a : RecordMap) : Prop extends Reaches P K records s a where
  free : ¬ s.Busy

/-- The completions that are to come, until there is none. -/
def RecordStore.settled (P : RootPlatform) (K : RecordKey) (s : RecordStore) : RecordStore :=
  s.settle P K (2 * MAX_UID + 3)

/-- What the map keeps in its work, and what is sent for it, holds when nothing is to come. -/
theorem Reaches.settles (hK : BlockInverse K.enc K.dec) {Q : List StoreAnswer → RecordMap → Prop}
    (hQ : ∀ sent a out a', Q sent a → RecordMap.Works K.startupResp a out a' → Q (sent ++ out) a')
    (h : Reaches P K records s a) (hq : Q s.sent a) :
    (s.settled P K).completion = none ∧
      ∃ a', Q (s.settled P K).sent a' ∧ Reaches P K records (s.settled P K) a' := by
  obtain ⟨n, hs⟩ := h.stands
  obtain ⟨h', hr⟩ := h.run
  obtain ⟨c, -, hphase⟩ := id hs
  obtain ⟨hnone, ⟨a', n', hq', hs'⟩, h'', hr', -⟩ :=
    settle_run hK hQ (2 * MAX_UID + 3) hq hs hphase.le hr
  exact ⟨hnone, a', hq', ⟨n', hs'⟩, _, hr'⟩

/-- Nothing is under way for a job that is over. -/
theorem Reaches.rests (h : Reaches P K records s a) (hjob : a.job = none)
    (hnone : s.completion = none) : Rests P K records s a := by
  obtain ⟨n, c, -, hphase⟩ := h.stands
  obtain ⟨hrequest, hsending⟩ := completion_eq_none hnone
  refine ⟨h, ?_⟩
  rw [hjob] at hphase
  cases hphase with
  | idle hq _ _ =>
    unfold RecordStore.Busy
    rw [hrequest, hq.shortEq, hq.longEq, hsending]
    decide

theorem Rests.deviceState (h : Rests P K records s a) : a.state = s.deviceState := by
  obtain ⟨n, c, ha, -⟩ := h.stands
  exact ha.state

/-- A device that was just powered on rests. -/
theorem StoreInit.rests (h : StoreInit P K records s) :
    Rests P K records s ⟨records, .disconnected, none⟩ := by
  obtain ⟨⟨c, hcard, hR⟩, s₀, stored, rfl⟩ := id h
  refine ⟨⟨⟨0, powerOn_holds hcard hR⟩, [], .start h⟩, ?_⟩
  rintro (hbusy | hbusy | hbusy | hbusy) <;> cases hbusy

/-- A packet that asks for a job becomes it. -/
theorem Rests.accepts (hK : BlockInverse K.enc K.dec) (h : Rests P K records s a) {p : StorePacket}
    {job : Job} (hcancel : p.cmd ≠ .cancelButtonPress) (hok : PacketOk s p)
    (hasked : a.asked p = .ok job) (t : Scratch) :
    ∃ out a', (s.step P K (.packet p t)).sent = s.sent ++ out ∧
      RecordMap.Works K.startupResp { a with job := some job } out a' ∧
      Reaches P K records (s.step P K (.packet p t)) a' := by
  obtain ⟨n, hs⟩ := h.stands
  obtain ⟨h', hr⟩ := h.run
  obtain ⟨out, a', n', hsent, hstep, hstands⟩ := cmdPacketRecv_received hK hs hcancel hok t
  have hstore : StoreOk s (.packet p t) := by
    unfold StoreOk
    dsimp only
    rw [if_neg hcancel]
    exact hok
  refine ⟨out, a', hsent, ?_, ⟨n', hstands⟩, _, hr.next hstore⟩
  cases hstep t with
  | refuses _ _ _ herror =>
    rw [hasked] at herror
    cases herror
  | accepts _ hjob hworks =>
    cases hasked.symm.trans hjob
    exact hworks
  | logsOut _ hlogout =>
    have herror : a.asked p = .error .invalidState := by
      have hstartup : p.cmd ≠ .startup := by
        rw [hlogout.cmd]
        exact fun h => by cases h
      rw [asked_session hlogout.state hstartup (Int.not_lt.mpr hlogout.len)]
      unfold RecordMap.askedInSession
      rw [hlogout.cmd]
    rw [hasked] at herror
    cases herror
  | cancels hcancel' _ => exact absurd hcancel' hcancel
  | ignores hcancel' => exact absurd hcancel' hcancel
  | works hpacket _ _ => exact absurd rfl (hpacket p t)

/-- STARTUP is under way, or it is over. -/
def StartsUp (records : Nat → Option Record) (a : RecordMap) : Prop :=
  a.records = records ∧ a.job = some .scan ∨ a = ⟨records, .loggedOut, none⟩

theorem StartsUp.works {resp : Bytes} {out : List StoreAnswer} {a' : RecordMap}
    (h : StartsUp records a) (hworks : RecordMap.Works resp a out a') : StartsUp records a' := by
  have hother : ∀ {job}, a.job = some job → job ≠ .scan → False := by
    intro job heq hne
    rcases h with ⟨-, hscan⟩ | rfl
    · exact hne (Option.some.inj (heq.symm.trans hscan))
    · cases heq
  cases hworks with
  | waits => exact h
  | updated heq => exact (hother heq fun h => by cases h).elim
  | got heq _ => exact (hother heq fun h => by cases h).elim
  | missing heq _ => exact (hother heq fun h => by cases h).elim
  | next heq _ => exact (hother heq fun h => by cases h).elim
  | empty heq => exact (hother heq fun h => by cases h).elim
  | scanned heq =>
    rcases h with ⟨rfl, -⟩ | rfl
    · exact .inr rfl
    · cases heq

/-- **STARTUP ends with the user logged out**, whatever the blocks hold. -/
theorem StoreInit.startsUp (hK : BlockInverse K.enc K.dec) (h : StoreInit P K records s)
    {p : StorePacket} (hcmd : p.cmd = .startup) (t : Scratch) :
    Rests P K records ((s.step P K (.packet p t)).settled P K) ⟨records, .loggedOut, none⟩ := by
  have hrests := h.rests
  have hok : PacketOk s p := by
    obtain ⟨-, s₀, stored, rfl⟩ := h
    refine ⟨hrests.free, ?_, fun hstate => by cases hstate⟩
    rw [hcmd]
    exact fun h => by cases h
  have hcancel : p.cmd ≠ .cancelButtonPress := by
    rw [hcmd]
    exact fun h => by cases h
  obtain ⟨out, a', -, hworks, hreaches⟩ := hrests.accepts hK hcancel hok (if_pos hcmd) t
  have hstarts : StartsUp records a' := StartsUp.works (.inl ⟨rfl, rfl⟩) hworks
  obtain ⟨hnone, a'', hq, hreaches'⟩ := hreaches.settles (Q := fun _ => StartsUp records) hK
    (fun _ _ _ _ hq hworks => hq.works hworks) hstarts
  rcases hq with ⟨-, hscan⟩ | rfl
  · obtain ⟨n, c, -, hphase⟩ := hreaches'.stands
    rw [hscan] at hphase
    cases hphase with
    | scans hs =>
      have hrequest := (completion_eq_none hnone).1
      rw [hs.request] at hrequest
      cases hrequest
  · exact hreaches'.rests rfl hnone

/-- A session begins. -/
theorem Rests.login (h : Rests P K records s a) (hstate : a.state = .loggedOut) :
    Rests P K records (s.step P K .login) { a with state := .loggedIn } := by
  have hout := h.deviceState.symm.trans hstate
  have hlogin : s.step P K .login = s.enterState .loggedIn := if_pos hout
  obtain ⟨n, hs⟩ := h.stands
  obtain ⟨h', hr⟩ := h.run
  have hok : StoreOk s .login := h.free
  refine ⟨⟨⟨n, ?_⟩, _, hr.next hok⟩, ?_⟩
  · rw [hlogin]
    exact hs.login h.free hout
  · rw [hlogin]
    exact h.free

/-- There is room for a second record. -/
theorem Rests.hasRoom (h : Rests P K records s a) (hstate : a.state = .loggedIn)
    (hone : ∀ u v, a.records u ≠ none → a.records v ≠ none → u = v) : HasRoom s.tables := by
  obtain ⟨n, c, ha, hphase⟩ := h.stands
  obtain ⟨-, -, hT, -⟩ := hphase.idle_of_free h.free
  have hT' := hT (by
    rw [← ha.state, hstate]
    exact fun h => by cases h)
  have h1 : 1 ∈ dataBlocks := mem_dataBlocks.mpr (by decide)
  have h2 : 2 ∈ dataBlocks := mem_dataBlocks.mpr (by decide)
  cases hc1 : c 1 with
  | none => exact hT'.hasRoom h1 hc1
  | some entry1 =>
    cases hc2 : c 2 with
    | none => exact hT'.hasRoom h2 hc2
    | some entry2 =>
      obtain ⟨u, r⟩ := entry1
      obtain ⟨v, w⟩ := entry2
      have huv : u = v := by
        refine hone u v ?_ ?_
        · rw [ha.records.sound h1 hc1]
          exact Option.some_ne_none r
        · rw [ha.records.sound h2 hc2]
          exact Option.some_ne_none w
      rw [← huv] at hc2
      exact absurd (ha.records.unique h1 h2 hc1 hc2) (by decide)

/-- The work of a job that is over. -/
theorem Works.eq_of_done {resp : Bytes} {out : List StoreAnswer} {a' : RecordMap}
    (h : RecordMap.Works resp a out a') (hjob : a.job = none) : out = [] ∧ a' = a := by
  have hnone : ∀ {job}, a.job = some job → False := by
    intro job heq
    rw [hjob] at heq
    cases heq
  cases h with
  | waits => exact ⟨rfl, rfl⟩
  | updated heq => exact (hnone heq).elim
  | got heq _ => exact (hnone heq).elim
  | missing heq _ => exact (hnone heq).elim
  | next heq _ => exact (hnone heq).elim
  | empty heq => exact (hnone heq).elim
  | scanned heq => exact (hnone heq).elim

/-- A press, a completion or a response goes on with the job. -/
theorem Reaches.goesOn (hK : BlockInverse K.enc K.dec) (h : Reaches P K records s a)
    {e : StoreEvent} (he : e.GoesOn) :
    ∃ out a', (s.step P K e).sent = s.sent ++ out ∧ RecordMap.Works K.startupResp a out a' ∧
      Reaches P K records (s.step P K e) a' := by
  obtain ⟨n, hs⟩ := h.stands
  obtain ⟨h', hr⟩ := h.run
  obtain ⟨m, out, a', n', hsent, hworks, hstands, -⟩ := goesOn_goes hK he hs
  exact ⟨out, a', hsent, hworks, ⟨n', hstands⟩, _, hr.next (he.storeOk s)⟩

/-- When a job is over the press and the completions change nothing. -/
theorem Reaches.done_goesOn (hK : BlockInverse K.enc K.dec) (h : Reaches P K records s a)
    (hjob : a.job = none) {e : StoreEvent} (he : e.GoesOn) :
    Reaches P K records (s.step P K e) a ∧ (s.step P K e).sent = s.sent := by
  obtain ⟨out, a', hsent, hworks, hreaches⟩ := h.goesOn hK he
  obtain ⟨rfl, rfl⟩ := Works.eq_of_done hworks hjob
  exact ⟨hreaches, hsent.trans (List.append_nil _)⟩

/-- When a job is over the device comes to rest. -/
theorem Reaches.done_settles (hK : BlockInverse K.enc K.dec) (h : Reaches P K records s a)
    (hjob : a.job = none) :
    Rests P K records (s.settled P K) a ∧ (s.settled P K).sent = s.sent := by
  obtain ⟨hnone, a', ⟨rfl, hsent⟩, hreaches⟩ := h.settles hK
    (Q := fun sent b => b = a ∧ sent = s.sent) (by
      rintro sent b out b' ⟨rfl, rfl⟩ hworks
      obtain ⟨rfl, rfl⟩ := Works.eq_of_done hworks hjob
      exact ⟨rfl, List.append_nil _⟩) ⟨rfl, rfl⟩
  exact ⟨hreaches.rests hjob hnone, hsent⟩

/-- UPDATE_UID or UPDATE_UIDS, the press it waits for, and the write of the block. -/
def RecordStore.made (P : RootPlatform) (K : RecordKey) (s : RecordStore) (p : StorePacket)
    (t : Scratch) : RecordStore :=
  let s := (s.step P K (.packet p t)).settled P K
  let s := s.step P K s.press
  (s.step P K .writeComplete).settled P K

/-- **A change is made when the user presses the button**, whatever has to be read for it. -/
theorem Rests.makes (hK : BlockInverse K.enc K.dec) (h : Rests P K records s a) {p : StorePacket}
    {uid : Nat} {x : Option Record} (hcancel : p.cmd ≠ .cancelButtonPress) (hok : PacketOk s p)
    (hasked : a.asked p = .ok (.update uid x)) (t : Scratch) :
    Rests P K records (s.made P K p t) (a.update uid x) ∧
      (s.made P K p t).sent = s.sent ++ [⟨.okay, 0, []⟩] := by
  have hworks : ∀ sent b out b',
      (b = { a with job := some (.update uid x) } ∧ sent = s.sent ∨
        b = a.update uid x ∧ sent = s.sent ++ [⟨.okay, 0, []⟩]) →
      RecordMap.Works K.startupResp b out b' →
      (b' = { a with job := some (.update uid x) } ∧ sent ++ out = s.sent ∨
        b' = a.update uid x ∧ sent ++ out = s.sent ++ [⟨.okay, 0, []⟩]) := by
    rintro sent b out b' (⟨rfl, rfl⟩ | ⟨rfl, rfl⟩) hworks
    · cases hworks with
      | waits => exact .inl ⟨rfl, List.append_nil _⟩
      | updated heq =>
        cases heq
        exact .inr ⟨rfl, rfl⟩
      | got heq _ => cases heq
      | missing heq _ => cases heq
      | next heq _ => cases heq
      | empty heq => cases heq
      | scanned heq => cases heq
    · obtain ⟨rfl, rfl⟩ := Works.eq_of_done hworks rfl
      exact .inr ⟨rfl, List.append_nil _⟩
  obtain ⟨out, a₁, hsent, hbegun, hreaches⟩ := h.accepts hK hcancel hok hasked t
  have hq₁ := hworks _ _ _ _ (.inl ⟨rfl, rfl⟩) hbegun
  rw [← hsent] at hq₁
  obtain ⟨hnone, a₂, hq₂, hreaches₂⟩ := hreaches.settles hK hworks hq₁
  unfold RecordStore.made
  dsimp only
  generalize (s.step P K (.packet p t)).settled P K = s₂ at hnone hq₂ hreaches₂ ⊢
  have hrequest := (completion_eq_none hnone).1
  have hwritten : Reaches P K records ((s₂.step P K s₂.press).step P K .writeComplete)
      (a.update uid x) ∧ ((s₂.step P K s₂.press).step P K .writeComplete).sent =
        s.sent ++ [⟨.okay, 0, []⟩] := by
    rcases hq₂ with ⟨rfl, hsent₂⟩ | ⟨rfl, hsent₂⟩
    · obtain ⟨n, c, ha, hphase⟩ := hreaches₂.stands
      obtain ⟨h₂, hr₂⟩ := hreaches₂.run
      cases hphase with
      | updateLoads _ _ _ hl _ =>
        rw [hl.request] at hrequest
        cases hrequest
      | updateWrites _ hw _ _ _ =>
        rw [hw.request] at hrequest
        cases hrequest
      | updateWaits hu hlong hq hp hT =>
        obtain ⟨⟨c₃, ha₃, hphase₃⟩, hsent₃⟩ := update_pressed ha rfl hu hlong hq hp hT
        have hr₃ := (hr₂.next (s₂.press_goesOn.storeOk s₂)).next
          (StoreEvent.GoesOn.storeOk (.inr (.inr (.inr (.inl rfl)))) _)
        cases hphase₃ with
        | updateWrites hu₃ hw₃ hp₃ hslot₃ hT₃ =>
          obtain ⟨hsent₄, hstands₄⟩ := writeComplete_makes ha₃ hu₃ hw₃ hp₃ hslot₃ hT₃
          refine ⟨⟨⟨1, hstands₄⟩, _, hr₃⟩, ?_⟩
          rw [← hsent₂, ← hsent₃]
          exact hsent₄
    · obtain ⟨hreaches₃, hsent₃⟩ := hreaches₂.done_goesOn hK rfl s₂.press_goesOn
      obtain ⟨hreaches₄, hsent₄⟩ :=
        hreaches₃.done_goesOn hK rfl (.inr (.inr (.inr (.inl rfl))))
      exact ⟨hreaches₄, hsent₄.trans (hsent₃.trans hsent₂)⟩
  obtain ⟨hrests, hsent₅⟩ := hwritten.1.done_settles hK rfl
  exact ⟨hrests, hsent₅.trans hwritten.2⟩

/-- READ_UID and the press it waits for. -/
def RecordStore.shown (P : RootPlatform) (K : RecordKey) (s : RecordStore) (p : StorePacket)
    (t : Scratch) : RecordStore :=
  let s := (s.step P K (.packet p t)).settled P K
  (s.step P K s.press).settled P K

/-- **A record is shown when the user presses the button**, or at once when it is masked. -/
theorem Rests.shows (hK : BlockInverse K.enc K.dec) (h : Rests P K records s a) {p : StorePacket}
    {uid : Nat} {masked : Bool} {r : Record} (hcancel : p.cmd ≠ .cancelButtonPress)
    (hok : PacketOk s p) (hasked : a.asked p = .ok (.get uid masked))
    (hrec : a.records uid = some r) (t : Scratch) :
    Rests P K records (s.shown P K p t) a.done ∧ (s.shown P K p t).sent =
      s.sent ++ [⟨.okay, 0, Mem.bytes16 r.sz ++ r.shown masked⟩] := by
  have hworks : ∀ sent b out b',
      (b = { a with job := some (.get uid masked) } ∧ sent = s.sent ∨
        b = a.done ∧ sent = s.sent ++ [⟨.okay, 0, Mem.bytes16 r.sz ++ r.shown masked⟩]) →
      RecordMap.Works K.startupResp b out b' →
      (b' = { a with job := some (.get uid masked) } ∧ sent ++ out = s.sent ∨
        b' = a.done ∧ sent ++ out =
          s.sent ++ [⟨.okay, 0, Mem.bytes16 r.sz ++ r.shown masked⟩]) := by
    rintro sent b out b' (⟨rfl, rfl⟩ | ⟨rfl, rfl⟩) hworks
    · cases hworks with
      | waits => exact .inl ⟨rfl, List.append_nil _⟩
      | updated heq => cases heq
      | got heq hrec' =>
        cases heq
        cases hrec.symm.trans hrec'
        exact .inr ⟨rfl, rfl⟩
      | missing heq hrec' =>
        cases heq
        cases hrec.symm.trans hrec'
      | next heq _ => cases heq
      | empty heq => cases heq
      | scanned heq => cases heq
    · obtain ⟨rfl, rfl⟩ := Works.eq_of_done hworks rfl
      exact .inr ⟨rfl, List.append_nil _⟩
  obtain ⟨out, a₁, hsent, hbegun, hreaches⟩ := h.accepts hK hcancel hok hasked t
  have hq₁ := hworks _ _ _ _ (.inl ⟨rfl, rfl⟩) hbegun
  rw [← hsent] at hq₁
  obtain ⟨hnone, a₂, hq₂, hreaches₂⟩ := hreaches.settles hK hworks hq₁
  unfold RecordStore.shown
  dsimp only
  generalize (s.step P K (.packet p t)).settled P K = s₂ at hnone hq₂ hreaches₂ ⊢
  have hrequest := (completion_eq_none hnone).1
  have hpressed : Reaches P K records (s₂.step P K s₂.press) a.done ∧
      (s₂.step P K s₂.press).sent =
        s.sent ++ [⟨.okay, 0, Mem.bytes16 r.sz ++ r.shown masked⟩] := by
    rcases hq₂ with ⟨rfl, hsent₂⟩ | ⟨rfl, hsent₂⟩
    · obtain ⟨n, c, ha, hphase⟩ := hreaches₂.stands
      obtain ⟨h₂, hr₂⟩ := hreaches₂.run
      cases hphase with
      | getLoads _ hl _ =>
        rw [hl.request] at hrequest
        cases hrequest
      | @getWaits _ r' hg hq hmem hindex hcache hc hT =>
        cases hrec.symm.trans (ha.records.sound hmem hc)
        obtain ⟨hsent₃, hstands₃⟩ := get_pressed hK ha hg hq hmem hindex hcache hc hT
        refine ⟨⟨⟨1, hstands₃⟩, _, hr₂.next (s₂.press_goesOn.storeOk s₂)⟩, ?_⟩
        rw [← hsent₂]
        exact hsent₃
    · obtain ⟨hreaches₃, hsent₃⟩ := hreaches₂.done_goesOn hK rfl s₂.press_goesOn
      exact ⟨hreaches₃, hsent₃.trans hsent₂⟩
  obtain ⟨hrests, hsent₄⟩ := hpressed.1.done_settles hK rfl
  exact ⟨hrests, hsent₄.trans hpressed.2⟩

end Runs

end SignetBase.FirmwareHc

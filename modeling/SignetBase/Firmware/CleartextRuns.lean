/-
  SignetBase/Firmware/CleartextRuns.lean
  ======================================
  **Runs that keep the passwords in the root page.**

  The busy driver works on the root page or on another block (`PageRequests`), and unless it is
  the root page, that is in flash what it is in RAM (`RootSynced`).  A command that waits for
  its press has been accepted, and what it was accepted with is still in `cmd_data`
  (`AskedInv`).  With both, the slots hold what was answered, and while a confirmed write is
  under way what will be answered (`SlotsInv`).
-/
import SignetBase.Firmware.CleartextPending

namespace SignetBase.Firmware

open Control

variable (P : Platform)

variable {s s' s₀ s₁ : Dev} {e : Event} {flash : Mem} {h : History Dev (Option Event)}
  {h' : History Dev Event} {r : FlashRequest} {i : Nat} {cmd : Command}

/-! ### The driver and the root page -/

theorem savesRoot_of_view (hv : flashView s' = flashView s) : SavesRoot s' ↔ SavesRoot s := by
  have hdata : s'.flashWriteData = s.flashWriteData :=
    congrArg FlashDriver.flashWriteData (flashDriver_of_view hv)
  unfold SavesRoot
  rw [flashState_of_view hv, hdata]

theorem not_savesRoot_of_idle (hidle : s.flashState = .idle) : ¬ SavesRoot s := fun h => h.1 hidle

theorem Working.savesRoot (hw : Working s r i) (hr : RootRequest r) : SavesRoot s := by
  have hdata := hw.data
  rw [hr.src] at hdata
  exact ⟨hw.busy, _, hdata, rfl⟩

theorem Working.not_savesRoot (hw : Working s r i) (hr : RecordRequest r) : ¬ SavesRoot s := by
  rintro ⟨-, p, hp, hobj⟩
  have hdata := hw.data
  rw [Option.mem_def.mp hp] at hdata
  cases hsrc : r.src with
  | none =>
    rw [hsrc] at hdata
    cases hdata
  | some q =>
    rw [hsrc] at hdata
    refine hr.src q hsrc ?_
    rw [← hobj, Option.some.inj hdata]

/-- A request for another block spares the root page. -/
theorem RecordRequest.spares (hr : RecordRequest r) {a : Nat} (ha : a < RootPage.size) :
    r.spares (idBlk 0 + a) := by
  obtain ⟨b, hb, hdest⟩ := hr.dest
  have hlt : idBlk 0 + a < idBlk b := by
    have hsize : a < 1208 := ha
    simp only [idBlk, BLK_SIZE]
    omega
  unfold FlashRequest.spares
  rw [hdest, pageAddr_idBlk]
  exact ⟨.inl hlt, .inl hlt⟩

/-- Every request since power-on is for the root page out of RAM, or for another block. -/
def PageRequests (h' : History Dev Event) : Prop :=
  ∀ op r, Pending P h' op r → RootRequest r ∨ RecordRequest r

/-- A function that makes no request, or one of these. -/
inductive PageMove (s s' : Dev) : Prop
  | still : flashView s' = flashView s → s'.rootPage = s.rootPage → PageMove s s'
  | record (r : FlashRequest) : RecordRequest r → Asked s s' r → s'.flash = s.flash →
      s'.rootPage = s.rootPage → PageMove s s'
  | root (r : FlashRequest) : RootRequest r → Asked s s' r → PageMove s s'

theorem RootKept.pageMove (hk : RootKept s s') : PageMove s s' := by
  rcases hk.driver with hv | ⟨hflash, r, hr, hreq⟩
  · exact .still hv hk.rootPage
  · exact .record r hr hreq hflash hk.rootPage

theorem RootSaved.pageMove (hs : RootSaved s s') : PageMove s s' := by
  rcases hs with hk | ⟨-, ha⟩
  · exact hk.pageMove
  · obtain ⟨r, hr, hreq⟩ := ha.request
    exact .root r hr hreq

theorem FlashStep.asked (hf : FlashStep P h' s e s')
    (hreq : s'.flashRequests = r :: s.flashRequests) :
    r.started = true ∧ Working s' r 0 := by
  cases hf with
  | passes hsame _ =>
    rw [hsame] at hreq
    exact absurd hreq.symm (List.cons_ne_self _ _)
  | asks r' op hreq' hstarted hwork _ _ _ _ =>
    rw [hreq'] at hreq
    obtain ⟨rfl, -⟩ := List.cons.inj hreq
    exact ⟨hstarted, hwork⟩

/-- Where `s₁` is what the driver left, the page is synced behind the step as it was there. -/
theorem PageMove.synced (hm : PageMove s₁ s') (hf : FlashStep P h' s e s')
    (hreq : s₁.flashRequests = s.flashRequests) (hs : ¬ SavesRoot s₁ → RootSynced s₁)
    (hno : ¬ SavesRoot s') : RootSynced s' := by
  cases hm with
  | still hv hroot =>
    have hsynced := hs fun h => hno ((savesRoot_of_view hv).mpr h)
    intro a ha
    rw [hroot, flash_of_view hv]
    exact hsynced a ha
  | record r _ hasked hflash hroot =>
    obtain ⟨hstarted, -⟩ := hf.asked P (hasked.requests.trans (congrArg (r :: ·) hreq))
    have hsynced := hs (not_savesRoot_of_idle (hasked.started hstarted))
    intro a ha
    rw [hroot, hflash]
    exact hsynced a ha
  | root r hr hasked =>
    obtain ⟨-, hwork⟩ := hf.asked P (hasked.requests.trans (congrArg (r :: ·) hreq))
    exact absurd (hwork.savesRoot hr) hno

theorem PageMove.requests (hm : PageMove s₁ s') (hreq : s₁.flashRequests = s.flashRequests)
    (hr : s'.flashRequests = r :: s.flashRequests) : RootRequest r ∨ RecordRequest r := by
  rw [← hreq] at hr
  cases hm with
  | still hv _ =>
    rw [flashRequests_of_view hv] at hr
    exact absurd hr.symm (List.cons_ne_self _ _)
  | record r' hr' hasked _ _ =>
    rw [hasked.requests] at hr
    obtain ⟨rfl, -⟩ := List.cons.inj hr
    exact .inr hr'
  | root r' hr' hasked =>
    rw [hasked.requests] at hr
    obtain ⟨rfl, -⟩ := List.cons.inj hr
    exact .inl hr'

theorem pageRequests_nil : PageRequests P [] := by
  intro op r hpend
  cases hpend

theorem pageRequests_step (hpages : PageRequests P h') (hf : FlashStep P h' s e (step P s e))
    (hreq : ∀ r, (step P s e).flashRequests = r :: s.flashRequests →
      RootRequest r ∨ RecordRequest r) : PageRequests P ((s, e) :: h') := by
  intro op r hpend
  cases hpend with
  | waits _ _ hbefore => exact hpages op r hbefore
  | issued _ hnew =>
    cases hf with
    | passes hsame _ =>
      rw [newRequests_of_same hsame] at hnew
      cases hnew
    | asks r' op' hreq' _ _ _ _ _ _ =>
      rw [newRequests_of_asked hreq'] at hnew
      obtain ⟨rfl, -⟩ := List.cons.inj hnew
      exact hreq r' hreq'

/-! ### Reading the page back -/

/-- What `cmd_init` reads. -/
theorem rootPage_cmdInit (s : Dev) {a : Nat} (ha : a < RootPage.size) :
    (cmdInit P s).rootPage a = s.flash (idBlk 0 + a) := by
  have hsize : a < 1208 := ha
  have hblk : a < BLK_SIZE := Nat.lt_trans hsize (by decide)
  unfold cmdInit
  dsimp only
  rw [Mem.copy_apply_of_mem _ _ (Nat.zero_le a) (by rwa [Nat.zero_add]), Nat.sub_zero, Nat.zero_add]
  exact block_apply (by decide) hblk

theorem rootPage_cmdInit_of_synced (hs : RootSynced s) : (cmdInit P s).rootPage = s.rootPage := by
  funext a
  by_cases ha : a < RootPage.size
  · rw [rootPage_cmdInit P s ha, hs a ha]
  · exact Mem.copy_apply_of_notMem _ _ (.inr (by omega))

/-- A STARTUP that reads back what is in RAM leaves the root page alone. -/
theorem RootKept.of_cmdInit (hk : RootKept (cmdInit P s) s') (hs : RootSynced s) :
    RootKept s s' := by
  refine hk.after ?_
  unfold rootView
  rw [rootPage_cmdInit_of_synced P hs]
  rfl

theorem rootPage_powerOn (flash : Mem) {a : Nat} (ha : a < RootPage.size) :
    (powerOn P flash).rootPage a = flash (idBlk 0 + a) := by
  unfold powerOn
  exact rootPage_cmdInit P _ ha

theorem rootSynced_powerCycle (s : Dev) : RootSynced (powerCycle P s) :=
  fun _ ha => (rootPage_powerOn P s.flash ha).symm

/-! ### Neither a wipe nor a firmware update -/

/-- Neither state touches the root page. -/
def calmState (st : DeviceState) : Prop := st ≠ .wiping ∧ st ≠ .erasingPages ∧ st ≠ .firmwareUpdate

/-- The device is in no wipe and no firmware update, nor is it at the end of a backup. -/
structure Calm (c : Control) : Prop where
  state : calmState c.deviceState
  backup : calmState c.backupPrevState

section CalmSteps

variable {c c' : Control} {st : DeviceState}

theorem Calm.clears (hc : Calm c) (h : c.Clears c') : Calm c' where
  state := by
    rw [h.deviceState]
    exact hc.state
  backup := by
    rw [h.backupPrevState]
    exact hc.backup

theorem Calm.reaches (hc : Calm c) (h : c.Reaches st c') (hst : calmState st) : Calm c' where
  state := by
    rw [h.deviceState]
    exact hst
  backup := by
    rw [h.backupPrevState]
    exact hc.backup

theorem Calm.endWait (hc : Calm c) (k : PressKind) : Calm (c.endWait k) := by
  cases k with
  | short => exact ⟨hc.state, hc.backup⟩
  | long => exact ⟨hc.state, hc.backup⟩

theorem Calm.tick (hc : Calm s.toControl) (ht : Tick P s e c')
    (hlong : Pressed s .long e → s.activeCmd ≠ some .wipe ∧ s.activeCmd ≠ some .updateFirmware) :
    Calm c' := by
  have hin : calmState .loggedIn := ⟨nofun, nofun, nofun⟩
  cases ht with
  | quiet h => exact hc.clears h
  | stuck _ => exact ⟨hc.state, hc.backup⟩
  | pressed _ _ h => exact (hc.endWait .short).clears h
  | loggedIn _ _ _ h => exact (hc.endWait .short).reaches h hin
  | held _ h => exact (hc.endWait .long).clears h
  | heldStuck _ _ => exact ⟨hc.state, hc.backup⟩
  | heldEntered hp hcmd hst h =>
    refine (hc.endWait .long).reaches h ?_
    obtain ⟨hwipe, hupdate⟩ := hlong hp
    cases hst with
    | updateFirmware => exact absurd hcmd hupdate
    | wipe => exact absurd hcmd hwipe
    | restoreDevice => exact ⟨nofun, nofun, nofun⟩
    | initializeDevice => exact ⟨nofun, nofun, nofun⟩
  | heldBackup _ _ _ h =>
    constructor
    · rw [h.deviceState]
      exact ⟨nofun, nofun, nofun⟩
    · rw [h.backupPrevState]
      exact hc.state
  | timeout _ h => exact ((hc.endWait .short).endWait .long).clears h
  | token _ _ h => exact hc.reaches h hin
  | flashed hf h =>
    refine hc.reaches h ?_
    have hbefore := hc.state
    generalize s.toControl.deviceState = st at hf hbefore
    cases hf with
    | initialized => exact ⟨nofun, nofun, nofun⟩
    | inconsistent => exact ⟨nofun, nofun, nofun⟩
    | wiped => exact absurd rfl hbefore.1
    | erased => exact absurd rfl hbefore.2.1

theorem Calm.handled (hc : Calm c) (hh : Handled cmd c c') : Calm c' := by
  cases hh with
  | answered h => exact hc.clears h
  | @waiting k _ =>
    cases k with
    | short => exact ⟨hc.state, hc.backup⟩
    | long => exact ⟨hc.state, hc.backup⟩
  | stuck => exact ⟨hc.state, hc.backup⟩
  | entered he h =>
    refine hc.reaches h ?_
    cases he with
    | logout _ => exact ⟨nofun, nofun, nofun⟩
    | backupDone _ => exact hc.backup
    | restoreDone _ => exact ⟨nofun, nofun, nofun⟩
    | erase hst => exact absurd hst hc.state.2.2
  | disconnected _ => exact ⟨⟨nofun, nofun, nofun⟩, hc.backup⟩

theorem Calm.countIteration (hc : Calm s.toControl) (n : Nat) :
    Calm (countIteration n s).toControl := by
  unfold Firmware.countIteration
  split
  · exact ⟨hc.state, hc.backup⟩
  · exact hc

theorem Calm.received (hc : Calm s.toControl) (hr : Received P s s') : Calm s'.toControl := by
  have hact : Calm (activate s).toControl := ⟨hc.state, hc.backup⟩
  cases hr with
  | disconnect _ => exact ⟨⟨nofun, nofun, nofun⟩, hc.backup⟩
  | ignored _ _ _ => exact hc
  | canceled _ _ _ => exact (hc.endWait .short).clears (clears_finish _ 0)
  | misfire _ _ => exact ⟨hc.state, hc.backup⟩
  | startup _ =>
    obtain ⟨st, hor, hreach⟩ := reaches_startupCmd P (activate s)
    have hstart : Calm (startupControl (activate s).toControl) := by
      unfold startupControl
      split
      · exact ⟨hc.state, hc.backup⟩
      · exact hact
    refine hstart.reaches hreach ?_
    rcases hor with rfl | rfl
    · exact ⟨nofun, nofun, nofun⟩
    · exact ⟨nofun, nofun, nofun⟩
  | getDeviceState _ => exact hact.clears (clears_finish _ 0)
  | tooLong _ _ => exact hact.clears (clears_finish _ 0)
  | rejected _ _ _ => exact (hact.clears (clears_finish _ 0)).countIteration _
  | handled _ _ hdisp => exact (hact.handled (handled_dispatch P hdisp)).countIteration _

end CalmSteps

/-! ### Answers -/

theorem stateFunction_ne_reset {data : Mem} {dataLen : Int}
    (hst : s.deviceState ≠ .firmwareUpdate) :
    stateFunction P cmd data dataLen s ≠ .reset := by
  have hprogress : progressOnlyState cmd data dataLen s ≠ .reset := by
    unfold progressOnlyState
    split
    · exact nofun
    · exact nofun
  unfold stateFunction
  split
  · unfold uninitializedState
    split
    case h_6 =>
      split
      · exact nofun
      · exact nofun
    all_goals exact nofun
  · exact hprogress
  · exact hprogress
  · unfold backingUpDeviceState
    split
    all_goals exact nofun
  · unfold restoringDeviceState
    split
    all_goals exact nofun
  · exact hprogress
  · exact absurd ‹_› hst
  · unfold loggedOutState
    split
    all_goals exact nofun
  · unfold loggedInState
    split
    all_goals exact nofun
  · exact nofun
  · exact nofun
  · exact nofun

/-- Only DS_FIRMWARE_UPDATE resets the device. -/
theorem Calm.received_some (hc : Calm s.toControl) : ∃ s', cmdPacketRecv P s = some s' := by
  have hdisp : dispatch P (activate s) ≠ .reset :=
    stateFunction_ne_reset P (s := activate s) hc.state.2.2
  refine Option.ne_none_iff_exists'.mp ?_
  unfold cmdPacketRecv runPacket
  dsimp only
  split
  · exact nofun
  · split
    · split
      · exact nofun
      · exact nofun
    · split
      · exact nofun
      · split
        · exact nofun
        · split
          · exact nofun
          · split
            · exact nofun
            · split
              · exact nofun
              · exact nofun
              · exact absurd ‹_› hdisp

/-- The outputs only grow. -/
abbrev Grows (s s' : Dev) : Prop := Emits (fun _ => True) s s'

theorem Emits.grows {φ : Output → Prop} (h : Emits φ s s') : Grows s s' :=
  h.mono fun _ _ => trivial

theorem grows_tick (he : ∀ packet, e ≠ .hidRx packet) (hh : s.hung = false) :
    Grows s (step P s e) := by
  cases sends_step P s he hh with
  | safe h => exact h.grows
  | moved h _ => exact h.grows
  | pressed _ _ _ h => exact h.grows
  | sent _ _ h => exact h.grows

theorem grows_received (hr : Received P s s') : Grows s s' := by
  rcases quiet_received P hr with h | ⟨s₂, hc, hlen, hd, rfl⟩
  · exact h.grows
  · have hs₂ : Grows s s₂ := by
      cases atOnce_dispatch P hc hlen hd with
      | quiet h => exact h.grows
      | readUid _ _ h _ => exact h.grows
      | readAllUids _ _ h _ => exact h.grows
      | batch _ _ h => exact h.grows
    exact hs₂.trans (.of_eq (outputs_countIteration _ _))

theorem newOutputs_cons {o : Output} (h : s'.outputs = o :: s.outputs) :
    newOutputs s s' = [o] := by
  unfold newOutputs
  rw [h, List.length_cons, Nat.add_sub_cancel_left]
  rfl

/-- A step that keeps the answers to cleartext password commands gives none. -/
theorem no_new_okay (hg : Grows s s')
    (hf : s'.outputs.filter Output.isCleartextOkay = s.outputs.filter Output.isCleartextOkay) :
    ∀ o ∈ newOutputs s s', o.isCleartextOkay = false := by
  obtain ⟨l, hl, -⟩ := hg
  have hnone : l.filter Output.isCleartextOkay = [] := by
    rw [hl, List.filter_append] at hf
    exact List.append_left_eq_self.mp hf
  have hemits : Emits (fun o => o.isCleartextOkay = false) s s' := by
    refine ⟨l, hl, fun o ho => ?_⟩
    have hnot := List.filter_eq_nil_iff.mp hnone o ho
    rwa [Bool.not_eq_true] at hnot
  exact hemits.of_mem_new

theorem answersOkay_eq_false (hcmd : isCleartext cmd)
    (hno : ∀ o ∈ newOutputs s s', o.isCleartextOkay = false) : answersOkay cmd s s' = false := by
  unfold answersOkay
  rw [List.any_eq_false]
  intro o ho hokay
  have hcleartext := hno o ho
  unfold Output.isCleartextOkay at hcleartext
  rw [Bool.or_eq_false_iff] at hcleartext
  rcases hcmd with rfl | rfl
  · rw [hcleartext.1] at hokay
    cases hokay
  · rw [hcleartext.2] at hokay
    cases hokay

/-! ### What the slots hold -/

/-- A confirmed WRITE_CLEARTEXT_PASSWORD is under way. -/
structure WritesSlot (s : Dev) : Prop where
  active : s.activeCmd = some .writeCleartextPassword
  busy : s.flashState ≠ .idle

/-- The root page is that of the last press, with the slot written that is answered next. -/
structure SlotUnderWay (stored : Nat → Bytes) (h : History Dev (Option Event)) (s : Dev) :
    Prop where
  saves : SavesRoot s
  written : ∃ slot data root, lastAsked .writeCleartextPassword h = some (slot, data) ∧
    rootAtPress h = some root ∧ slot < NUM_CLEARTEXT_PASS ∧ data.length = CLEARTEXT_PASS_SIZE ∧
    s.rootPage = root.write (cleartextPassOff slot) data ∧ SlotsAre root stored

/-- The slots hold what is stored; where one is being written, they did so before. -/
structure SlotsInv (root : Mem) (h : History Dev (Option Event)) (s : Dev) : Prop where
  rests : ¬ WritesSlot s → SlotsAre s.rootPage (storedSlots P root h)
  underWay : WritesSlot s → SlotUnderWay (storedSlots P root h) h s

theorem slotsAre_kept {m m' : Mem} {slots : Nat → Bytes} (hs : SlotsAre m slots)
    (hkept : SlotsKept m m') : SlotsAre m' slots := by
  intro i hi
  rw [← hs i hi]
  refine Mem.read_congr fun j hj => hkept _ ?_ ?_
  · unfold cleartextPassOff
    omega
  · change 181 + 256 * i + j < 1208
    simp only [NUM_CLEARTEXT_PASS] at hi
    simp only [CLEARTEXT_PASS_SIZE] at hj
    omega

/-- A write to one slot. -/
theorem slotsAre_write {m : Mem} {slots : Nat → Bytes} {slot : Nat} {data : Bytes}
    (hs : SlotsAre m slots) (hlen : data.length = CLEARTEXT_PASS_SIZE) :
    SlotsAre (m.write (cleartextPassOff slot) data)
      fun i => if i = slot then data else slots i := by
  intro i hi
  dsimp only
  split
  · rename_i heq
    subst heq
    exact Mem.read_write _ _ _ _ hlen.symm
  · rename_i hne
    rw [← hs i hi]
    refine Mem.read_write_disjoint _ ?_
    simp only [cleartextPassOff, CLEARTEXT_PASS_SIZE] at hlen ⊢
    omega

section Stored

variable {root : Mem} {e' : Option Event}

theorem storedSlots_kept
    (hno : answersOkay .writeCleartextPassword s (stepOrCycle P s e') = false) :
    storedSlots P root ((s, e') :: h) = storedSlots P root h := by
  funext i
  simp only [storedSlots, hno]
  split
  · exact if_neg fun hand => Bool.false_ne_true hand.1
  · rfl

theorem storedSlots_saved {slot : Nat} {data : Bytes}
    (hasked : lastAsked .writeCleartextPassword h = some (slot, data))
    (hokay : answersOkay .writeCleartextPassword s (stepOrCycle P s e') = true) :
    storedSlots P root ((s, e') :: h) =
      fun i => if i = slot then data else storedSlots P root h i := by
  funext i
  simp only [storedSlots, hasked, hokay, true_and]

/-- What a step does to the slots. -/
inductive StoreMove (h : History Dev (Option Event)) (s : Dev) (e : Option Event) (s' : Dev) : Prop
  | rests : ¬ WritesSlot s → ¬ WritesSlot s' → SlotsKept s.rootPage s'.rootPage →
      (∀ o ∈ newOutputs s s', o.isCleartextOkay = false) →
      consumesPress .writeCleartextPassword s e = false → StoreMove h s e s'
  | goesOn : WritesSlot s → WritesSlot s' → s'.rootPage = s.rootPage → SavesRoot s' →
      (∀ o ∈ newOutputs s s', o.isCleartextOkay = false) →
      lastAsked .writeCleartextPassword ((s, e) :: h) = lastAsked .writeCleartextPassword h →
      consumesPress .writeCleartextPassword s e = false → StoreMove h s e s'
  | reads : s.flashState = .idle → ¬ WritesSlot s' → s'.rootPage = s.rootPage →
      AwaitsPress .readCleartextPassword .short s →
      (∀ o ∈ newOutputs s s', o.isOkayTo .writeCleartextPassword = false) →
      (∀ r, .response r ∈ newOutputs s s' → r.payload = s.rootPage.read
        (cleartextPassOff (s.cmdData.get32 CmdData.readCleartextPasswordIdx)) CLEARTEXT_PASS_SIZE) →
      consumesPress .writeCleartextPassword s e = false → StoreMove h s e s'
  | writes : s.flashState = .idle → WritesSlot s' → SavesRoot s' →
      AwaitsPress .writeCleartextPassword .short s →
      s'.rootPage = s.rootPage.write
        (cleartextPassOff (s.cmdData.get32 CmdData.writeCleartextPasswordIdx))
        (s.cmdData.read CmdData.writeCleartextPasswordData CLEARTEXT_PASS_SIZE) →
      (∀ o ∈ newOutputs s s', o.isCleartextOkay = false) →
      consumesPress .writeCleartextPassword s e = true →
      lastAsked .writeCleartextPassword ((s, e) :: h) = lastAsked .writeCleartextPassword h →
      StoreMove h s e s'
  | saved : WritesSlot s → s'.flashState = .idle → s'.rootPage = s.rootPage →
      (∀ o ∈ newOutputs s s', o.isOkayTo .readCleartextPassword = false) →
      answersOkay .writeCleartextPassword s s' = true →
      consumesPress .writeCleartextPassword s e = false → StoreMove h s e s'

theorem rootAtPress_kept (hno : consumesPress .writeCleartextPassword s e' = false) :
    rootAtPress ((s, e') :: h) = rootAtPress h := by
  simp only [rootAtPress, hno, Bool.false_eq_true, if_false]

theorem not_writesSlot (hidle : s.flashState = .idle) : ¬ WritesSlot s := fun hw => hw.busy hidle

/-- What a WRITE was accepted with, at its press. -/
theorem PressReady.write (hready : PressReady h s)
    (haw : AwaitsPress .writeCleartextPassword .short s) :
    ∃ slot, lastAsked .writeCleartextPassword h = some (slot,
        s.cmdData.read CmdData.writeCleartextPasswordData CLEARTEXT_PASS_SIZE) ∧
      slot < NUM_CLEARTEXT_PASS ∧ s.cmdData.get32 CmdData.writeCleartextPasswordIdx = slot := by
  obtain ⟨-, slot, data, hasked, hslot, hidx, hdata⟩ := hready.slot _ (.inr rfl) haw
  refine ⟨slot, ?_, hslot, hidx⟩
  rw [hdata rfl]
  exact hasked

theorem SlotsInv.step (hi : SlotsInv P root h s) (hready : PressReady h s)
    (hm : StoreMove h s e' (stepOrCycle P s e')) :
    SlotsInv P root ((s, e') :: h) (stepOrCycle P s e') := by
  have hwrite : isCleartext .writeCleartextPassword := .inr rfl
  cases hm with
  | rests hw hw' hslots hno _ =>
    refine ⟨fun _ => ?_, fun h => absurd h hw'⟩
    rw [storedSlots_kept P (answersOkay_eq_false hwrite hno)]
    exact slotsAre_kept (hi.rests hw) hslots
  | goesOn hw hw' hroot hsaves hno hasked hused =>
    refine ⟨fun h => absurd hw' h, fun _ => ⟨hsaves, ?_⟩⟩
    rw [storedSlots_kept P (answersOkay_eq_false hwrite hno), hasked,
      rootAtPress_kept hused, hroot]
    exact (hi.underWay hw).written
  | reads hidle hw' hroot _ hno _ _ =>
    refine ⟨fun _ => ?_, fun h => absurd h hw'⟩
    have hanswers : answersOkay .writeCleartextPassword s (stepOrCycle P s e') = false := by
      unfold answersOkay
      rw [List.any_eq_false]
      intro o ho
      rw [hno o ho]
      exact Bool.false_ne_true
    rw [storedSlots_kept P hanswers, hroot]
    exact hi.rests (not_writesSlot hidle)
  | writes hidle hw' hsaves haw hroot hno hconsumes hasked =>
    refine ⟨fun h => absurd hw' h, fun _ => ⟨hsaves, ?_⟩⟩
    obtain ⟨slot, hlast, hslot, hidx⟩ := hready.write haw
    rw [hidx] at hroot
    refine ⟨slot, _, s.rootPage, hasked.trans hlast, ?_, hslot, Mem.length_read _ _ _, hroot, ?_⟩
    · simp only [rootAtPress, hconsumes, if_true]
    · rw [storedSlots_kept P (answersOkay_eq_false hwrite hno)]
      exact hi.rests (not_writesSlot hidle)
  | saved hw hidle' hroot _ hokay _ =>
    refine ⟨fun _ => ?_, fun h => absurd h (not_writesSlot hidle')⟩
    obtain ⟨slot, data, before, hasked, -, hslot, hlen, heq, hslots⟩ := (hi.underWay hw).written
    rw [storedSlots_saved P hasked hokay, hroot, heq]
    exact slotsAre_write hslots hlen

theorem awaits_of_consumes (hyes : consumesPress cmd s e' = true) : AwaitsPress cmd .short s := by
  unfold consumesPress at hyes
  split at hyes
  · rw [Bool.and_eq_true, Bool.and_eq_true, decide_eq_true_eq] at hyes
    exact ⟨hyes.2, hyes.1.2⟩
  · cases hyes

/-- A slot that is used is one of the table. -/
theorem usedSlot_lt (hready : PressReady h s) {i : Nat} (hi : usedSlot s e' = some i) :
    i < NUM_CLEARTEXT_PASS := by
  have hcmd : ∀ cmd, isCleartext cmd → consumesPress cmd s e' = true →
      s.cmdData.get32 CmdData.readCleartextPasswordIdx < NUM_CLEARTEXT_PASS := by
    intro cmd hcmd hyes
    obtain ⟨-, slot, data, -, hslot, hidx, -⟩ := hready.slot cmd hcmd (awaits_of_consumes hyes)
    rw [hidx]
    exact hslot
  unfold usedSlot at hi
  split at hi
  · cases hi
    exact hcmd _ (.inl rfl) ‹_›
  · split at hi
    · cases hi
      exact hcmd _ (.inr rfl) ‹_›
    · cases hi

theorem StoreMove.read (hi : SlotsInv P root h s) (hready : PressReady h s)
    (hm : StoreMove h s e' s') {r : Response} (hr : .response r ∈ newOutputs s s')
    (hokay : r.resp = .okay) (hcmd : r.cmd = some .readCleartextPassword) :
    ∃ slot data, lastAsked .readCleartextPassword h = some (slot, data) ∧
      r.payload = storedSlots P root h slot := by
  have hsome : (Output.response r).isOkayTo .readCleartextPassword = true :=
    decide_eq_true ⟨hokay, hcmd⟩
  have hnone : (∀ o ∈ newOutputs s s', o.isCleartextOkay = false) → False := by
    intro hno
    have hfalse := (Bool.or_eq_false_iff.mp (hno _ hr)).1
    rw [hsome] at hfalse
    cases hfalse
  cases hm with
  | rests _ _ _ hno _ => exact (hnone hno).elim
  | goesOn _ _ _ _ hno _ _ => exact (hnone hno).elim
  | reads hidle _ _ haw _ hpayload _ =>
    obtain ⟨-, slot, data, hasked, hslot, hidx, -⟩ := hready.slot _ (.inl rfl) haw
    refine ⟨slot, data, hasked, ?_⟩
    rw [hpayload r hr, hidx]
    exact hi.rests (not_writesSlot hidle) slot hslot
  | writes _ _ _ _ _ hno _ _ => exact (hnone hno).elim
  | saved _ _ _ hno _ _ =>
    rw [hno _ hr] at hsome
    cases hsome

theorem StoreMove.write (hready : PressReady h s) (hm : StoreMove h s e' s')
    (hyes : consumesPress .writeCleartextPassword s e' = true) :
    ∃ slot data, lastAsked .writeCleartextPassword h = some (slot, data) ∧
      s'.rootPage = s.rootPage.write (cleartextPassOff slot) data := by
  have hnot : consumesPress .writeCleartextPassword s e' ≠ false := by
    rw [hyes]
    exact nofun
  cases hm with
  | rests _ _ _ _ hno => exact absurd hno hnot
  | goesOn _ _ _ _ _ _ hno => exact absurd hno hnot
  | reads _ _ _ _ _ _ hno => exact absurd hno hnot
  | writes _ _ _ haw hroot _ _ _ =>
    obtain ⟨slot, hasked, -, hidx⟩ := hready.write haw
    rw [hidx] at hroot
    exact ⟨slot, _, hasked, hroot⟩
  | saved _ _ _ _ _ hno => exact absurd hno hnot

theorem StoreMove.saves (hi : SlotsInv P root h s) (hm : StoreMove h s e' s')
    (hsynced : ¬ SavesRoot s' → RootSynced s')
    (hokay : answersOkay .writeCleartextPassword s s' = true) :
    ∃ slot data before, lastAsked .writeCleartextPassword h = some (slot, data) ∧
      rootAtPress h = some before ∧
      s'.rootPage = before.write (cleartextPassOff slot) data ∧ RootSynced s' := by
  have hnone : (∀ o ∈ newOutputs s s', o.isOkayTo .writeCleartextPassword = false) → False := by
    intro hno
    unfold answersOkay at hokay
    rw [List.any_eq_true] at hokay
    obtain ⟨o, ho, hyes⟩ := hokay
    rw [hno o ho] at hyes
    cases hyes
  have hcleartext : (∀ o ∈ newOutputs s s', o.isCleartextOkay = false) → False :=
    fun hno => hnone fun o ho => (Bool.or_eq_false_iff.mp (hno o ho)).2
  cases hm with
  | rests _ _ _ hno _ => exact (hcleartext hno).elim
  | goesOn _ _ _ _ hno _ _ => exact (hcleartext hno).elim
  | reads _ _ _ _ hno _ _ => exact (hnone hno).elim
  | writes _ _ _ _ _ hno _ _ => exact (hcleartext hno).elim
  | saved hw hidle' hroot _ _ _ =>
    obtain ⟨slot, data, before, hasked, hpress, -, -, heq, -⟩ := (hi.underWay hw).written
    exact ⟨slot, data, before, hasked, hpress, hroot.trans heq,
      hsynced (not_savesRoot_of_idle hidle')⟩

theorem slotsRight_of_move {flash : Mem} (hi : SlotsInv P (powerOn P flash).rootPage h s)
    (hready : PressReady h s) (hsynced : ¬ SavesRoot s → RootSynced s)
    (hsynced' : ¬ SavesRoot (stepOrCycle P s e') → RootSynced (stepOrCycle P s e'))
    (hm : StoreMove h s e' (stepOrCycle P s e')) : SlotsRight P flash h s e' where
  inside i hused := by
    have hslot := usedSlot_lt hready hused
    simp only [cleartextPassOff, NUM_CLEARTEXT_PASS, CLEARTEXT_PASS_SIZE] at hslot ⊢
    omega
  read r hr hokay hcmd := hm.read P hi hready hr hokay hcmd
  write hyes := hm.write hready hyes
  saved hokay := hm.saves P hi hsynced' hokay
  synced := hsynced
  slots hno := hi.rests fun hw => hno (hi.underWay hw).saves

end Stored

/-! ### What the steps do to the slots -/

section Moves

variable {P}

variable {e' : Option Event}

theorem SlotsKept.of_eq {m m' : Mem} (h : m' = m) : SlotsKept m m' := fun _ _ _ => by rw [h]

theorem RootSaved.slots (hs : RootSaved s s') : SlotsKept s.rootPage s'.rootPage ∧
    s'.outputs.filter Output.isCleartextOkay = s.outputs.filter Output.isCleartextOkay := by
  rcases hs with hk | ⟨hslots, ha⟩
  · exact ⟨.of_eq hk.rootPage, hk.okays⟩
  · exact ⟨hslots, ha.okays⟩

/-- A step that leaves the root page and the driver alone. -/
theorem storeMove_view (hg : Grows s s') (hv : rootView s' = rootView s)
    (hactive : s'.activeCmd = some .writeCleartextPassword →
      s.activeCmd = some .writeCleartextPassword)
    (hkept : WritesSlot s → s'.activeCmd = some .writeCleartextPassword ∧ SavesRoot s ∧
      lastAsked .writeCleartextPassword ((s, e') :: h) = lastAsked .writeCleartextPassword h)
    (hno : consumesPress .writeCleartextPassword s e' = false) : StoreMove h s e' s' := by
  have hstate := flashState_of_view (flashView_of_view hv)
  have hokays := no_new_okay hg (okays_of_view hv)
  by_cases hw : WritesSlot s
  · obtain ⟨hcmd, hsaves, hasked⟩ := hkept hw
    refine .goesOn hw ⟨hcmd, ?_⟩ (rootPage_of_view hv) ?_ hokays hasked hno
    · rw [hstate]
      exact hw.busy
    · exact (savesRoot_of_view (flashView_of_view hv)).mpr hsaves
  · refine .rests hw (fun hw' => hw ⟨hactive hw'.active, ?_⟩) (.of_eq (rootPage_of_view hv))
      hokays hno
    rw [← hstate]
    exact hw'.busy

/-- A step in which no WRITE is active. -/
theorem storeMove_saved (hg : Grows s s') (hs : RootSaved s₁ s')
    (hroot : s₁.rootPage = s.rootPage) (hout : s₁.outputs = s.outputs)
    (hactive : s.activeCmd ≠ some .writeCleartextPassword)
    (hactive' : s'.activeCmd ≠ some .writeCleartextPassword)
    (hno : consumesPress .writeCleartextPassword s e' = false) : StoreMove h s e' s' := by
  obtain ⟨hslots, hokays⟩ := hs.slots
  rw [hroot] at hslots
  rw [hout] at hokays
  exact .rests (fun hw => hactive hw.active) (fun hw => hactive' hw.active) hslots
    (no_new_okay hg hokays) hno

end Moves

/-- A command that waits for its write stays the active one while the driver is busy. -/
theorem active_of_busy {c' : Control} (hop : OperationInv s.toControl) (ht : Tick P s e c')
    (hcmd : commandOperation s.activeCmd ≠ none)
    (hfor : stateOperation c'.deviceState ≠ none ∨ commandOperation c'.activeCmd ≠ none) :
    c'.activeCmd = s.activeCmd := by
  have hst := hop.command hcmd
  rcases activeCmd_tick P ht with hsame | hnone
  · exact hsame
  · exfalso
    rw [hnone] at hfor
    have hrun := hfor.resolve_right fun h => h rfl
    cases ht with
    | quiet h => exact hrun (by rw [h.deviceState]; exact hst)
    | stuck _ => exact hrun hst
    | pressed _ _ h => exact hrun (by rw [h.deviceState]; exact hst)
    | loggedIn _ _ _ h => exact hrun (by rw [h.deviceState]; rfl)
    | held _ h => exact hrun (by rw [h.deviceState]; exact hst)
    | heldStuck _ _ => exact hrun hst
    | heldEntered _ hactive hlong _ =>
      refine hcmd (commandOperation_of_not hactive (stateOperation_of_longEnters hlong).1)
    | heldBackup _ _ _ h => exact hrun (by rw [h.deviceState]; rfl)
    | timeout _ h => exact hrun (by rw [h.deviceState]; exact hst)
    | token _ _ h => exact hrun (by rw [h.deviceState]; rfl)
    | flashed hf h => exact hrun (by rw [h.deviceState]; exact stateOperation_of_flashEnters hf)

/-! ### Presses -/

theorem copy_eq_write (m src : Mem) (off srcOff n : Nat) :
    m.copy off src srcOff n = m.write off (src.read srcOff n) := by
  funext a
  by_cases ha : off ≤ a ∧ a < off + n
  · rw [Mem.copy_apply_of_mem _ _ ha.1 ha.2, Mem.write_apply_of_mem _ ha.1, Mem.getElem_read]
    rw [Mem.length_read]
    exact ha.2
  · rw [Mem.copy_apply_of_notMem _ _ (by omega), Mem.write_apply_of_notMem]
    rw [Mem.length_read]
    omega

/-- The press that a cleartext password command waits for. -/
theorem step_pressed (hh : s.hung = false) (hp : Pressed s .short e) :
    step P s e = { buttonPressed P (endButtonPressWait s) with buttonState := true } := by
  obtain ⟨rfl, hb, hw⟩ := hp
  unfold step buttonPress
  rw [if_neg (by simp [hh]), hb, hw]
  rfl

theorem consumesPress_eq (hh : s.hung = false) (hp : Pressed s .short e) :
    consumesPress cmd s (some e) = decide (s.activeCmd = some cmd) := by
  obtain ⟨rfl, hb, hw⟩ := hp
  simp [consumesPress, hh, hb, hw]

/-- A press that is consumed finds the driver idle. -/
theorem idle_of_pressed (hok : Undisturbed P s e) {k : PressKind} (hp : Pressed s k e)
    (hkind : s.activeCmd.bind Firmware.pressKind = some k) : s.flashState = .idle :=
  (not_underWay fun hunder => hok.press k hunder hp hkind).1

theorem press_reads (hh : s.hung = false) (hok : Undisturbed P s e) (hp : Pressed s .short e)
    (hcmd : s.activeCmd = some .readCleartextPassword) :
    (step P s e).tables = s.tables ∧ PageMove s (step P s e) ∧
      StoreMove h s (some e) (step P s e) := by
  have hstep := step_pressed P hh hp
  unfold buttonPressed at hstep
  rw [show (endButtonPressWait s).activeCmd = _ from hcmd] at hstep
  dsimp only at hstep
  have hidle := idle_of_pressed P hok hp (by rw [hcmd]; rfl)
  have hroot : (step P s e).rootPage = s.rootPage := by
    rw [hstep]
    rfl
  have hview : flashView (step P s e) = flashView s := by
    rw [hstep]
    rfl
  have hout := (congrArg Dev.outputs hstep).trans (outputs_finishCommandMulti .okay 0 rfl _)
  have htables : (step P s e).tables = s.tables := by
    rw [hstep]
    rfl
  refine ⟨htables, .still hview hroot, .reads hidle (not_writesSlot ?_) hroot ⟨hcmd, ?_⟩ ?_ ?_ ?_⟩
  · rw [flashState_of_view hview]
    exact hidle
  · obtain ⟨rfl, -, hw⟩ := hp
    exact hw
  · refine Emits.of_mem_new (Emits.one hout ?_)
    refine decide_eq_false fun hokay => ?_
    cases hcmd.symm.trans hokay.2
  · have hemits : Emits (fun o => ∀ r, o = .response r → r.payload = s.rootPage.read
        (cleartextPassOff (s.cmdData.get32 CmdData.readCleartextPasswordIdx))
        CLEARTEXT_PASS_SIZE) s (step P s e) := by
      refine Emits.one hout ?_
      rintro r ⟨⟩
      rfl
    exact fun r hr => hemits.of_mem_new _ hr r rfl
  · rw [consumesPress_eq hh hp, hcmd]
    rfl

theorem press_writes (hi : FlashInv P h' s) (hop : OperationInv s.toControl) (hh : s.hung = false)
    (hok : Undisturbed P s e) (hp : Pressed s .short e)
    (hcmd : s.activeCmd = some .writeCleartextPassword) :
    (step P s e).tables = s.tables ∧ PageMove s (step P s e) ∧
      StoreMove h s (some e) (step P s e) := by
  have hstep := step_pressed P hh hp
  unfold buttonPressed at hstep
  rw [show (endButtonPressWait s).activeCmd = _ from hcmd] at hstep
  dsimp only at hstep
  have hidle := idle_of_pressed P hok hp (by rw [hcmd]; rfl)
  have hflash := flashStep P hi hop hok
  generalize hs₁ : ({ endButtonPressWait s with
    rootPage := (endButtonPressWait s).rootPage.copy _ _ _ _ } : Dev) = s₁ at hstep
  have hasked := rootAsked_flashWritePage s₁
  have hview₁ : flashView s₁ = flashView s := by
    rw [← hs₁]
    rfl
  have hroot₁ : s₁.rootPage = s.rootPage.write
      (cleartextPassOff (s.cmdData.get32 CmdData.writeCleartextPasswordIdx))
      (s.cmdData.read CmdData.writeCleartextPasswordData CLEARTEXT_PASS_SIZE) := by
    rw [← hs₁, ← copy_eq_write]
    rfl
  have hactive₁ : s₁.activeCmd = s.activeCmd := by
    rw [← hs₁]
    rfl
  have hout₁ : s₁.outputs = s.outputs := by
    rw [← hs₁]
    rfl
  have htables : (step P s e).tables = s.tables := by
    rw [hstep, ← hs₁]
    unfold flashWritePage
    split
    · rfl
    · rfl
  have hctl := toControl_flashWritePage s₁ (idBlk 0) (some ⟨.rootPage, 0⟩) RootPage.size
  have hroot₂ := rootPage_flashWritePage (idBlk 0) (some ⟨.rootPage, 0⟩) RootPage.size s₁
  generalize flashWritePage (idBlk 0) (some ⟨.rootPage, 0⟩) RootPage.size s₁ = s₂
    at hstep hasked hctl hroot₂
  obtain ⟨r, hr, hreq⟩ := hasked.request
  have hview₂ : flashView (step P s e) = flashView s₂ := by
    rw [hstep]
    rfl
  have hreq' : Asked s (step P s e) r := (hreq.after hview₁).before hview₂
  obtain ⟨-, hwork⟩ := hflash.asked P hreq'.requests
  have hsaves := hwork.savesRoot hr
  refine ⟨htables, .root r hr hreq', .writes hidle ⟨?_, hwork.busy⟩ hsaves ⟨hcmd, ?_⟩ ?_ ?_ ?_ ?_⟩
  · rw [hstep]
    exact (congrArg Control.activeCmd hctl).trans (hactive₁.trans hcmd)
  · obtain ⟨rfl, -, hw⟩ := hp
    exact hw
  · rw [hstep]
    exact hroot₂.trans hroot₁
  · refine no_new_okay (grows_tick P ?_ hh) ?_
    · obtain ⟨rfl, -, -⟩ := hp
      exact nofun
    · rw [hstep, ← hout₁]
      exact hasked.okays
  · rw [consumesPress_eq hh hp, hcmd]
    rfl
  · refine lastAsked_undelivered (delivered_of_ne ?_)
    obtain ⟨rfl, -, -⟩ := hp
    exact nofun

theorem pressed_of_consumes (hyes : consumesPress cmd s (some e) = true) :
    Pressed s .short e ∧ s.activeCmd = some cmd := by
  unfold consumesPress at hyes
  split at hyes
  · rename_i he
    cases he
    rw [Bool.and_eq_true, Bool.and_eq_true, Bool.and_eq_true, decide_eq_true_eq] at hyes
    exact ⟨⟨rfl, by simpa using hyes.1.1.2, hyes.1.2⟩, hyes.2⟩
  · cases hyes

/-- The active command of an event that is no packet. -/
theorem active_before (he : ∀ packet, e ≠ .hidRx packet) (hh : s.hung = false)
    (hactive : (step P s e).activeCmd = some cmd) : s.activeCmd = some cmd := by
  refine ((activeCmd_tick P (tick_step P s he hh)).resolve_right ?_).symm.trans hactive
  rw [hactive]
  exact Option.some_ne_none _

/-- A write that goes on. -/
theorem active_goesOn (hi : FlashInv P h' s) (hop : OperationInv s.toControl)
    (hok : Undisturbed P s e) (he : ∀ packet, e ≠ .hidRx packet) (hh : s.hung = false)
    (hw : WritesSlot s) (hbusy : (step P s e).flashState ≠ .idle) :
    (step P s e).activeCmd = some .writeCleartextPassword := by
  have hi' := (flashStep P hi hop hok).inv
  refine (active_of_busy P hop (tick_step P s he hh) ?_ (hi'.working_for P hbusy)).trans hw.active
  rw [hw.active]
  exact nofun

theorem move_tick (hP : AesFits P) (hi : FlashInv P h' s) (hop : OperationInv s.toControl)
    (hready : PressReady h s) (hsaves : WritesSlot s → SavesRoot s) (hh : s.hung = false)
    (he : ∀ packet, e ≠ .hidRx packet) (hflash : e.isFlash = false)
    (hok : StoreStep P s (some e)) :
    (MapBytes s.tables → MapBytes (step P s e).tables) ∧ PageMove s (step P s e) ∧
      StoreMove h s (some e) (step P s e) := by
  obtain ⟨hund, -, hlong, -⟩ := hok
  have hg := grows_tick P he hh
  by_cases hcleartext : Pressed s .short e ∧ ¬ NotCleartext s.toControl
  · obtain ⟨hp, hnot⟩ := hcleartext
    by_cases hread : s.activeCmd = some .readCleartextPassword
    · obtain ⟨htables, hmoves⟩ := press_reads P (h := h) hh hund hp hread
      exact ⟨fun hmap => htables ▸ hmap, hmoves⟩
    · have hwrite : s.activeCmd = some .writeCleartextPassword := by
        by_contra hwrite
        exact hnot ⟨hread, hwrite⟩
      obtain ⟨htables, hmoves⟩ := press_writes P (h := h) hi hop hh hund hp hwrite
      exact ⟨fun hmap => htables ▸ hmap, hmoves⟩
  · have hno : consumesPress .writeCleartextPassword s (some e) = false := by
      rw [← Bool.not_eq_true]
      intro hyes
      obtain ⟨hp, hcmd⟩ := pressed_of_consumes hyes
      exact hcleartext ⟨hp, fun hnot => hnot.write hcmd⟩
    have hmoved : s.activeCmd ≠ some .writeCleartextPassword → RootSaved s (step P s e) →
        (MapBytes s.tables → MapBytes (step P s e).tables) ∧ PageMove s (step P s e) ∧
      StoreMove h s (some e) (step P s e) := by
      intro hactive hs
      refine ⟨hs.map, hs.pageMove, storeMove_saved hg hs rfl rfl hactive (fun hactive' => ?_) hno⟩
      exact hactive (active_before P he hh hactive')
    have htick := rootTick P hP he hflash (fun hp => (hlong hp).1)
      (fun hp hcmd => (hready.block (.inl ⟨hcmd, hp.2.2⟩)).2)
      (fun hp hcmd => (hready.block (.inr ⟨hcmd, hp.2.2⟩)).2)
    cases htick with
    | view hv =>
      refine ⟨fun hmap => (tables_of_view hv).symm ▸ hmap,
        .still (flashView_of_view hv) (rootPage_of_view hv), ?_⟩
      refine storeMove_view hg hv (active_before P he hh) (fun hw => ⟨?_, hsaves hw, ?_⟩) hno
      · refine active_goesOn P hi hop hund he hh hw ?_
        rw [flashState_of_view (flashView_of_view hv)]
        exact hw.busy
      · exact lastAsked_undelivered (delivered_of_ne he)
    | pressed hnot hs => exact hmoved hnot.write hs
    | word hst hs =>
      refine hmoved (fun hactive => ?_) hs
      have hnone : commandOperation s.activeCmd = none := by
        refine hop.running ?_
        rw [hst]
        exact nofun
      rw [hactive] at hnone
      cases hnone
    | cleartext _ hp hnot => exact absurd ⟨hp, hnot⟩ hcleartext

/-! ### The driver's events -/

theorem step_flash_idle (hflash : e.isFlash = true) (hidle : s.flashState = .idle) :
    step P s e = s := by
  have hne : ∀ st, st ≠ FlashState.idle → ¬ s.flashState = st := by
    rintro st hst rfl
    exact hst hidle
  unfold step
  split
  · rfl
  · cases e with
    | flashHandler eop =>
      dsimp only
      unfold flashHandler
      exact if_neg (hne .erasing nofun)
    | flashIdle err =>
      dsimp only
      unfold flashIdle
      exact if_neg (hne .writing nofun)
    | _ => cases hflash

/-- What a step keeps of the root page. -/
structure Moved (h : History Dev (Option Event)) (s : Dev) (e : Event) (s' : Dev) : Prop where
  map : MapBytes s.tables → MapBytes s'.tables
  synced : ¬ SavesRoot s' → RootSynced s'
  requests : ∀ r, s'.flashRequests = r :: s.flashRequests → RootRequest r ∨ RecordRequest r
  move : StoreMove h s (some e) s'

theorem flashTick (hflash : e.isFlash = true) (hw : Working s r i) (hh : s.hung = false) :
    FlashTick P s r e := by
  cases e with
  | flashHandler eop => exact flashTick_handler P hw hh eop
  | flashIdle err => exact flashTick_idle P hw hh err
  | _ => cases hflash

/-- What a request does not spare is left alone, as long as the driver is not done. -/
theorem FlashTick.spared (ht : FlashTick P s r e) (hno : completion s e = none) :
    (step P s e).flashRequests = s.flashRequests ∧
      ∀ a, r.spares a → (step P s e).flash a = s.flash a := by
  cases ht with
  | goesOn _ _ _ hm => exact ⟨hm.requests, hm.flash⟩
  | fails s₁ _ hstep _ hm =>
    have hv := flashView_flashWriteFailed s₁
    rw [hstep, flashRequests_of_view hv, flash_of_view hv]
    exact ⟨hm.requests, hm.flash⟩
  | completes s₁ hcomp _ _ _ _ _ => cases hno.symm.trans hcomp

/-- A record that is written leaves the root page synced. -/
theorem RootSynced.spared (hs : RootSynced s) (hr : RecordRequest r)
    (hflash : ∀ a, r.spares a → s'.flash a = s.flash a) (hroot : s'.rootPage = s.rootPage) :
    RootSynced s' := by
  intro a ha
  rw [hroot, hflash _ (hr.spares ha)]
  exact hs a ha

/-- The root page is synced when its write is done. -/
theorem RootRequest.synced (hr : RootRequest r) (hw : Working s r i)
    (hread : s₁.flash.read r.dest r.held.length = r.held) (hroot : s₁.rootPage = s.rootPage) :
    RootSynced s₁ := by
  have hsource := (hw.source _ hr.src).2
  rw [hr.dest, hr.length] at hread
  rw [hr.length] at hsource
  have heq : s₁.flash.read (idBlk 0) RootPage.size = s.rootPage.read 0 RootPage.size :=
    hread.trans hsource.symm
  intro a ha
  rw [hroot, Mem.apply_of_read_eq heq ha, Nat.zero_add]

theorem consumes_of_flash (hflash : e.isFlash = true) :
    consumesPress cmd s (some e) = false := by
  cases e with
  | buttonDown => cases hflash
  | _ => rfl

theorem not_hidRx_of_flash (hflash : e.isFlash = true) : ∀ packet, e ≠ .hidRx packet := by
  rintro packet rfl
  cases hflash

/-- The driver goes on, or gives up. -/
theorem moved_driver (hsaves : WritesSlot s → SavesRoot s) (hsynced : ¬ SavesRoot s → RootSynced s)
    (hw : Working s r i) (hr : RootRequest r ∨ RecordRequest r) (hh : s.hung = false)
    (hflash : e.isFlash = true) (hok : StoreStep P s (some e)) (hno : completion s e = none) :
    Moved h s e (step P s e) := by
  have he := not_hidRx_of_flash hflash
  have hg := grows_tick P he hh
  have ht := flashTick P hflash hw hh
  obtain ⟨hreq, hspared⟩ := ht.spared P hno
  have hrequests : ∀ r, (step P s e).flashRequests = r :: s.flashRequests →
      RootRequest r ∨ RecordRequest r := by
    intro r hnew
    rw [hreq] at hnew
    exact absurd hnew.symm (List.cons_ne_self _ _)
  obtain ⟨d, ⟨hd, hbusy⟩ | ⟨hfails, hd⟩⟩ := driver_frame P hflash hno
  · have hroot : (step P s e).rootPage = s.rootPage := by rw [hd]
    have hactive : (step P s e).activeCmd = s.activeCmd := by rw [hd]
    have hout : (step P s e).outputs = s.outputs := by rw [hd]
    have hwork' : ∃ j, Working (step P s e) r j := by
      cases ht with
      | goesOn j _ hw' _ => exact ⟨j, hw'⟩
      | fails s₁ _ hstep hidle _ =>
        have hv := flashView_flashWriteFailed s₁
        rw [← hstep] at hv
        exact absurd ((flashState_of_view hv).trans hidle) (hbusy hw.busy)
      | completes s₁ hcomp _ _ _ _ _ => cases hno.symm.trans hcomp
    obtain ⟨j, hw'⟩ := hwork'
    have hokays := no_new_okay hg (congrArg (List.filter Output.isCleartextOkay) hout)
    have htables : (step P s e).tables = s.tables := by rw [hd]
    refine ⟨fun hmap => htables ▸ hmap, fun hnot => ?_, hrequests, ?_⟩
    · rcases hr with hr | hr
      · exact absurd (hw'.savesRoot hr) hnot
      · exact (hsynced (hw.not_savesRoot hr)).spared hr hspared hroot
    · by_cases hwrites : WritesSlot s
      · have hrootreq := hr.resolve_right fun hr => hw.not_savesRoot hr (hsaves hwrites)
        exact .goesOn hwrites ⟨hactive.trans hwrites.active, hw'.busy⟩ hroot
          (hw'.savesRoot hrootreq) hokays (lastAsked_undelivered (delivered_of_ne he))
          (consumes_of_flash hflash)
      · exact .rests hwrites (fun hw'' => hwrites ⟨hactive.symm.trans hw''.active, hw.busy⟩)
          (.of_eq hroot) hokays (consumes_of_flash hflash)
  · have hnot : ¬ SavesRoot s := fun hs => hok.2.2.2 hs hfails
    have hrecord := hr.resolve_left fun hr => hnot (hw.savesRoot hr)
    have hview : rootView (step P s e) = rootView { s with toFlashDriver := d } := by
      rw [hd]
      exact rootView_flashWriteFailed _
    have hwrites : s.activeCmd ≠ some .writeCleartextPassword :=
      fun hcmd => hnot (hsaves ⟨hcmd, hw.busy⟩)
    have hsaved : RootSaved { s with toFlashDriver := d } (step P s e) := .kept (.of_view hview)
    refine ⟨hsaved.map, fun _ => ?_, hrequests, ?_⟩
    · exact (hsynced hnot).spared hrecord hspared (congrArg RootView.rootPage hview)
    · exact storeMove_saved hg hsaved rfl rfl hwrites
        (fun hcmd => hwrites (active_before P he hh hcmd)) (consumes_of_flash hflash)

/-- A completion. -/
theorem moved_completed (hP : AesFits P) (hi : FlashInv P h' s) (hop : OperationInv s.toControl)
    (hcalm : Calm s.toControl) (hsynced : ¬ SavesRoot s → RootSynced s) (hw : Working s r i)
    (hr : RootRequest r ∨ RecordRequest r) (hh : s.hung = false) (hflash : e.isFlash = true)
    (hok : StoreStep P s (some e)) (hcomp : completion s e = some s₁) :
    Moved h s e (step P s e) := by
  have he := not_hidRx_of_flash hflash
  have hg := grows_tick P he hh
  have hstepped := flashStep P hi hop hok.1
  obtain ⟨d, hd⟩ := completion_frame hcomp
  have hctl : s₁.toControl = s.toControl := by rw [hd]
  have hroot : s₁.rootPage = s.rootPage := by rw [hd]
  have hout : s₁.outputs = s.outputs := by rw [hd]
  have hactive : s₁.activeCmd = s.activeCmd := congrArg Control.activeCmd hctl
  cases flashTick P hflash hw hh with
  | goesOn _ hno _ _ => cases hno.symm.trans hcomp
  | fails _ hno _ _ _ => cases hno.symm.trans hcomp
  | completes s₂ hcomp' hstep hidle hmoves hread _ =>
    cases hcomp.symm.trans hcomp'
    have hsynced₁ : RootSynced s₁ := by
      rcases hr with hr | hr
      · exact hr.synced hw hread hroot
      · exact (hsynced (hw.not_savesRoot hr)).spared hr hmoves.flash hroot
    have htables : s₁.tables = s.tables := by rw [hd]
    have hpage : (MapBytes s₁.tables → MapBytes (step P s e).tables) → PageMove s₁ (step P s e) →
        StoreMove h s (some e) (step P s e) → Moved h s e (step P s e) := fun hmap hm hmove =>
      ⟨fun hbytes => hmap (htables.symm ▸ hbytes),
        hm.synced P hstepped hmoves.requests fun _ => hsynced₁,
        fun r => hm.requests hmoves.requests, hmove⟩
    by_cases hwrite : s.activeCmd = some .writeCleartextPassword
    · have hstep' : step P s e = finishCommandResp .okay s₁ := by
        rw [hstep]
        exact flashWriteComplete_cleartext P (hctl ▸ hop) (hactive.trans hwrite)
      have hout' : ∃ r : Response, (step P s e).outputs = .response r :: s.outputs ∧
          r.resp = .okay ∧ r.cmd = some .writeCleartextPassword := by
        rw [hstep', ← hout]
        exact ⟨_, rfl, rfl, hactive.trans hwrite⟩
      obtain ⟨answer, hanswer, hokay, hcmd⟩ := hout'
      have hidle' : (step P s e).flashState = .idle := by
        rw [hstep']
        exact hidle
      have hroot' : (step P s e).rootPage = s.rootPage := by
        rw [hstep']
        exact hroot
      refine hpage ?_ (.still ?_ ?_) (.saved ⟨hwrite, hw.busy⟩ hidle' hroot' ?_ ?_
        (consumes_of_flash hflash))
      · rw [hstep']
        exact id
      · rw [hstep']
        rfl
      · rw [hstep']
        rfl
      · refine Emits.of_mem_new (Emits.one hanswer (decide_eq_false fun hread => ?_))
        cases hcmd.symm.trans hread.2
      · unfold answersOkay
        rw [newOutputs_cons hanswer, List.any_cons]
        exact Bool.or_eq_true_iff.mpr (.inl (decide_eq_true ⟨hokay, hcmd⟩))
    · have hs : RootSaved s₁ (step P s e) := by
        rw [hstep]
        refine rootSaved_flashWriteComplete P hP (hctl ▸ hop) ?_ ?_ ?_
        · rw [hactive]
          exact hwrite
        · rw [show s₁.deviceState = s.deviceState from congrArg Control.deviceState hctl]
          exact hcalm.state.1
        · rw [show s₁.deviceState = s.deviceState from congrArg Control.deviceState hctl]
          exact hcalm.state.2.1
      exact hpage hs.map hs.pageMove (storeMove_saved hg hs hroot hout hwrite
        (fun hcmd => hwrite (active_before P he hh hcmd)) (consumes_of_flash hflash))

/-! ### Packets -/

/-- While a WRITE is under way, only a cancel is executed, which leaves it active. -/
theorem WritesSlot.received (hw : WritesSlot s) (hpkt : PacketUndisturbed P s)
    (hr : Received P s s') : s'.activeCmd = some .writeCleartextPassword ∧
      flashView s' = flashView s ∧ packetCmd s.cmdPacketBuf = .cancelButtonPress := by
  have hcmd : commandOperation s.activeCmd ≠ none := by
    rw [hw.active]
    exact nofun
  obtain ⟨hcancel, hmr⟩ := hpkt.command hw.busy hcmd
  cases hr with
  | disconnect hc => cases hcancel.symm.trans hc
  | ignored _ _ _ => exact ⟨hw.active, rfl, hcancel⟩
  | canceled _ _ hwait =>
    refine ⟨?_, rfl, hcancel⟩
    have hkept : ((endButtonPressWait s).toControl.finish 0).activeCmd = s.activeCmd :=
      if_neg fun hand => hmr hwait hand.2
    exact hkept.trans hw.active
  | misfire _ hnone => cases hnone.symm.trans hw.active
  | startup hc => cases hcancel.symm.trans hc
  | getDeviceState hc => cases hcancel.symm.trans hc
  | tooLong hord _ => exact absurd hcancel hord.2.1
  | rejected hord _ _ => exact absurd hcancel hord.2.1
  | handled hord _ _ => exact absurd hcancel hord.2.1

/-- A packet starts no write of a slot. -/
theorem WritesSlot.before (hw : WritesSlot s') (hi : FlashInv P h' s)
    (hpkt : PacketUndisturbed P s) (hr : Received P s s') : WritesSlot s := by
  have hpacket : packetCmd s.cmdPacketBuf = .writeCleartextPassword →
      flashView s' = flashView s → stateOperation s.deviceState ≠ none := by
    intro hcmd hv
    refine hi.busy_packet P hpkt ?_ (by rw [hcmd]; exact nofun)
    rw [← flashState_of_view hv]
    exact hw.busy
  cases receivedActive P .write hr hw.active with
  | kept _ hactive hcanceled hignored =>
    have hbusy := hw.busy
    cases hwaiting : waiting s with
    | true =>
      rw [(hcanceled hwaiting).2] at hbusy
      exact ⟨hactive, hbusy⟩
    | false =>
      rw [hignored hwaiting] at hbusy
      exact ⟨hactive, hbusy⟩
  | refused hcmd hmr _ hv _ =>
    have hrun := hpacket hcmd hv
    have hawaits := hpkt.announced hrun hmr (by rw [hcmd]; exact nofun)
    rw [hcmd] at hawaits
    cases hawaits
  | handled hcmd hst _ hs' =>
    refine absurd ?_ (hpacket hcmd ?_)
    · rw [hst]
      rfl
    · rw [hs', flashView_countIteration]
      unfold handledPress
      rw [hcmd]
      exact flashView_of_view (rootView_writeCleartextPassword _ _ (activate s))

theorem RootSynced.of_view (hs : RootSynced s) (hv : rootView s' = rootView s) :
    RootSynced s' := by
  intro a ha
  rw [rootPage_of_view hv, flash_of_view (flashView_of_view hv)]
  exact hs a ha

/-- A packet that is executed. -/
theorem moved_received (hi : FlashInv P h' s₀) (hmap : MapBytes s.tables)
    (hfirmware : s.deviceState ≠ .firmwareUpdate) (hsynced : ¬ SavesRoot s → RootSynced s)
    (hsaves : WritesSlot s → SavesRoot s) (hd : delivered s e = some s₀)
    (hpkt : PacketUndisturbed P s₀) (hstore : StorePacket P s₀) (hr : Received P s₀ s')
    (hstepped : FlashStep P h' s e s') : Moved h s e s' := by
  obtain ⟨packet, rfl, -, -, hs₀⟩ := delivered_stored hd
  have hview₀ : rootView s₀ = rootView s := by
    rw [hs₀]
    rfl
  have hactive₀ : s₀.activeCmd = s.activeCmd := congrArg Control.activeCmd (delivered_eq hd).1
  have hst₀ : s₀.deviceState = s.deviceState := congrArg Control.deviceState (delivered_eq hd).1
  have hwrites : WritesSlot s → WritesSlot s₀ := by
    intro hw
    refine ⟨hactive₀.trans hw.active, ?_⟩
    rw [flashState_of_view (flashView_of_view hview₀)]
    exact hw.busy
  have hwrites₀ : WritesSlot s₀ → WritesSlot s := by
    intro hw
    refine ⟨hactive₀.symm.trans hw.active, ?_⟩
    rw [← flashState_of_view (flashView_of_view hview₀)]
    exact hw.busy
  have hkept : RootKept s s' := by
    refine RootKept.after ?_ hview₀
    rcases rootKept_received P (by rwa [tables_of_view hview₀]) hstore.restored
      (by rwa [hst₀]) hr with hk | ⟨hstartup, hk⟩
    · exact hk
    · have hidle := hi.idle_packet P hpkt (.inr hstartup)
      refine hk.of_cmdInit P ((hsynced fun hs => ?_).of_view hview₀)
      exact not_savesRoot_of_idle hidle
        ((savesRoot_of_view (flashView_of_view hview₀)).mpr hs)
  have hg : Grows s s' := Emits.trans (.of_eq (delivered_outputs hd)) (grows_received P hr)
  have hpage := hkept.pageMove
  refine ⟨hkept.map, hpage.synced P hstepped rfl hsynced, fun r => hpage.requests rfl, ?_⟩
  have hokays := no_new_okay hg hkept.okays
  by_cases hw : WritesSlot s
  · obtain ⟨hcmd, hv, hcancel⟩ := (hwrites hw).received P hpkt hr
    have hv' := hv.trans (flashView_of_view hview₀)
    refine .goesOn hw ⟨hcmd, ?_⟩ hkept.rootPage ((savesRoot_of_view hv').mpr (hsaves hw)) hokays
      (lastAsked_other hd (by rw [hcancel]; exact nofun)) rfl
    rw [flashState_of_view hv']
    exact hw.busy
  · exact .rests hw (fun hw' => hw (hwrites₀ (hw'.before P hi hpkt hr))) (.of_eq hkept.rootPage)
      hokays rfl

/-- A HID packet that completes no command. -/
theorem moved_undelivered {packet : Bytes} (hsynced : ¬ SavesRoot s → RootSynced s)
    (hsaves : WritesSlot s → SavesRoot s) (hd : delivered s (.hidRx packet) = none)
    (hs' : s' = s ∨ s' = rxStore packet s) : Moved h s (.hidRx packet) s' := by
  have hview : rootView s' = rootView s ∧ s'.outputs = s.outputs ∧ s'.activeCmd = s.activeCmd := by
    rcases hs' with rfl | rfl
    · exact ⟨rfl, rfl, rfl⟩
    · exact ⟨rfl, rfl, rfl⟩
  obtain ⟨hv, hout, hactive⟩ := hview
  refine ⟨fun hmap => (tables_of_view hv).symm ▸ hmap, fun hno => ?_, fun r hr => ?_, ?_⟩
  · refine (hsynced fun hs => hno ?_).of_view hv
    exact (savesRoot_of_view (flashView_of_view hv)).mpr hs
  · rw [flashRequests_of_view (flashView_of_view hv)] at hr
    exact absurd hr.symm (List.cons_ne_self _ _)
  · exact storeMove_view (.of_eq hout) hv hactive.symm.trans
      (fun hw => ⟨hactive.trans hw.active, hsaves hw, lastAsked_undelivered hd⟩) rfl

/-! ### Runs -/

/-- What a run keeps whose steps spoil nothing. -/
structure StoreInv (root : Mem) (h : History Dev (Option Event)) (s : Dev) : Prop where
  operation : OperationInv s.toControl
  driver : ∃ h', FlashInv P h' s ∧ PageRequests P h'
  calm : Calm s.toControl
  map : MapBytes s.tables
  synced : ¬ SavesRoot s → RootSynced s
  ready : PressReady h s
  slots : SlotsInv P root h s

variable {root : Mem}

theorem StoreInv.saves (hi : StoreInv P root h s) (hw : WritesSlot s) : SavesRoot s :=
  (hi.slots.underWay hw).saves

theorem delivered_hung (hh : s.hung = true) : delivered s e = none := by
  cases e with
  | hidRx packet => exact if_neg fun hand => hand.1 hh
  | _ => rfl

theorem consumes_hung (hh : s.hung = true) : consumesPress cmd s (some e) = false := by
  cases e with
  | buttonDown => simp [consumesPress, hh]
  | _ => rfl

/-- A step that does nothing. -/
theorem StoreInv.still (hi : StoreInv P root h s) (hd : delivered s e = none)
    (hno : consumesPress .writeCleartextPassword s (some e) = false) : Moved h s e s where
  map := id
  synced := hi.synced
  requests _ hr := absurd hr.symm (List.cons_ne_self _ _)
  move := storeMove_view (.of_eq rfl) rfl id
    (fun hw => ⟨hw.active, hi.saves P hw, lastAsked_undelivered hd⟩) hno

/-- What an event of the driver does. -/
theorem StoreInv.driverMoves (hP : AesFits P) (hi : StoreInv P root h s) (hh : s.hung = false)
    (hdriver : e.isFlash = true) (hok : StoreStep P s (some e)) : Moved h s e (step P s e) := by
  by_cases hidle : s.flashState = .idle
  · rw [step_flash_idle P hdriver hidle]
    exact hi.still P (delivered_of_ne (not_hidRx_of_flash hdriver)) (consumes_of_flash hdriver)
  · obtain ⟨h', hflash, hpages⟩ := hi.driver
    obtain ⟨op, r, i, hpend, hw, -, -⟩ := hflash.busy hidle
    have hr := hpages op r hpend
    cases hcomp : completion s e with
    | none => exact moved_driver P (hi.saves P) hi.synced hw hr hh hdriver hok hcomp
    | some s₁ =>
      exact moved_completed P hP hflash hi.operation hi.calm hi.synced hw hr hh hdriver hok hcomp

theorem StoreInv.moves (hP : AesFits P) (hi : StoreInv P root h s)
    (hok : StoreStep P s (some e)) :
    Moved h s e (step P s e) ∧ Calm (step P s e).toControl ∧
      PressReady ((s, some e) :: h) (step P s e) := by
  obtain ⟨hund, hstore, hlong, hfails⟩ := hok
  obtain ⟨h', hflash, hpages⟩ := hi.driver
  have hstepped := flashStep P hflash hi.operation hund
  cases hh : s.hung with
  | true =>
    rw [step_hung P hh]
    have hd : delivered s e = none := delivered_hung hh
    exact ⟨hi.still P hd (consumes_hung hh), hi.calm, hi.ready.same hd rfl rfl⟩
  | false =>
    have hticks : (∀ packet, e ≠ .hidRx packet) → Calm (step P s e).toControl ∧
        PressReady ((s, some e) :: h) (step P s e) := fun he =>
      ⟨hi.calm.tick P (tick_step P s he hh) hlong, hi.ready.tick P he hh⟩
    by_cases hev : ∃ packet, e = .hidRx packet
    · obtain ⟨packet, rfl⟩ := hev
      cases hd : delivered s (.hidRx packet) with
      | none =>
        have hs' : step P s (.hidRx packet) = s ∨ step P s (.hidRx packet) = rxStore packet s :=
          (step_stored P hh hd).imp_right (·.2)
        obtain ⟨hctl, hdata⟩ := step_undelivered P hd
        exact ⟨moved_undelivered hi.synced (hi.saves P) hd hs', hctl ▸ hi.calm,
          hi.ready.same hd hctl hdata⟩
      | some s₀ =>
        obtain ⟨hctl, -⟩ := delivered_eq hd
        have hcalm₀ : Calm s₀.toControl := hctl ▸ hi.calm
        obtain ⟨s', hs'⟩ := hcalm₀.received_some P
        have hr := received_cmdPacketRecv P hs'
        have hstep := step_recv P hd hs'
        obtain ⟨packet', heq, hfits, -, hs₀⟩ := delivered_stored hd
        cases heq
        have hflash₀ : FlashInv P h' s₀ :=
          hs₀ ▸ hflash.stored P packet (hund.buffer packet rfl hfits)
        have hmap₀ : MapBytes s₀.tables := by
          rw [hs₀]
          exact hi.map
        rw [hstep] at hstepped ⊢
        refine ⟨moved_received P hflash₀ hi.map hi.calm.state.2.2 hi.synced (hi.saves P) hd
          (hund.packet s₀ hd) (hstore s₀ hd) hr hstepped, hcalm₀.received P hr, ?_⟩
        exact hi.ready.packet P hd hmap₀ (hstore s₀ hd) hr
    · have he : ∀ packet, e ≠ .hidRx packet := fun packet heq => hev ⟨packet, heq⟩
      refine ⟨?_, hticks he⟩
      cases hdriver : e.isFlash with
      | false =>
        obtain ⟨hmap, hpage, hmove⟩ := move_tick P (h := h) hP hflash hi.operation hi.ready
          (hi.saves P) hh he hdriver ⟨hund, hstore, hlong, hfails⟩
        exact ⟨hmap, hpage.synced P hstepped rfl hi.synced, fun r => hpage.requests rfl, hmove⟩
      | true => exact hi.driverMoves P hP hh hdriver ⟨hund, hstore, hlong, hfails⟩

theorem storeInv_start (flash : Mem) :
    StoreInv P (powerOn P flash).rootPage [] (powerOn P flash) where
  operation := ⟨fun h => absurd rfl h, rfl⟩
  driver := ⟨[], .of_idle P rfl nofun, pageRequests_nil P⟩
  calm := ⟨⟨nofun, nofun, nofun⟩, ⟨nofun, nofun, nofun⟩⟩
  map _ := (by decide : 0 < 256)
  synced _ a ha := (rootPage_powerOn P flash ha).symm
  ready := pressReady_none rfl
  slots := ⟨fun _ _ _ => rfl, fun hw => absurd hw (not_writesSlot rfl)⟩

/-- Power is lost while the root page is not being written. -/
theorem StoreInv.cycle (hi : StoreInv P root h s) (hno : ¬ SavesRoot s) :
    StoreMove h s none (powerCycle P s) ∧ StoreInv P root ((s, none) :: h) (powerCycle P s) := by
  have hstart := storeInv_start P s.flash
  have hslots : SlotsKept s.rootPage (powerCycle P s).rootPage := by
    intro a _ ha
    rw [← hi.synced hno a ha]
    exact rootPage_powerOn P s.flash ha
  have hmove : StoreMove h s none (powerCycle P s) := by
    refine .rests (fun hw => hno (hi.saves P hw)) (not_writesSlot rfl) hslots ?_ rfl
    exact no_new_okay (.of_eq rfl) rfl
  refine ⟨hmove, ?_⟩
  exact {
    operation := hstart.operation
    driver := ⟨[], .of_idle P rfl nofun, pageRequests_nil P⟩
    calm := hstart.calm
    map := hstart.map
    synced := fun _ => rootSynced_powerCycle P s
    ready := pressReady_none rfl
    slots := hi.slots.step P hi.ready hmove }

theorem storeInv_step (hP : AesFits P) (hi : StoreInv P root h s) {e' : Option Event}
    (hok : StoreStep P s e') : StoreMove h s e' (stepOrCycle P s e') ∧
      StoreInv P root ((s, e') :: h) (stepOrCycle P s e') := by
  cases e' with
  | none => exact hi.cycle P hok
  | some e =>
    obtain ⟨hm, hcalm, hready⟩ := hi.moves P hP hok
    obtain ⟨h', hflash, hpages⟩ := hi.driver
    have hstepped := flashStep P hflash hi.operation hok.1
    refine ⟨hm.move, ?_⟩
    exact {
      operation := operationInv_step P hi.operation hok.1
      driver := ⟨_, hstepped.inv, pageRequests_step P hpages hstepped hm.requests⟩
      calm := hcalm
      map := hm.map hi.map
      synced := hm.synced
      ready := hready
      slots := hi.slots.step P hi.ready hm.move }

theorem storeInv_run (hP : AesFits P) (flash : Mem)
    (hr : Run (· = powerOn P flash) (stepOrCycle P) (StoreStep P) h s) :
    StoreInv P (powerOn P flash).rootPage h s := by
  refine hr.invariant (P := fun h s => StoreInv P (powerOn P flash).rootPage h s) ?_ ?_
  · rintro s rfl
    exact storeInv_start P flash
  · intro h s e' _ hok hi
    exact (storeInv_step P hP hi hok).2

/-- **The slots hold what was answered**: in a run whose steps spoil nothing, across commands,
    cancels, timeouts and power cycles, every access is inside the table, a READ that is answered
    OKAY returns the data of the last write to its slot that was answered OKAY, and a WRITE
    changes its slot and nothing else in the root page. -/
theorem slots_right (hP : AesFits P) (flash : Mem) {e' : Option Event}
    (hr : Run (· = powerOn P flash) (stepOrCycle P) (StoreStep P) h s)
    (hok : StoreStep P s e') : SlotsRight P flash h s e' := by
  have hi := storeInv_run P hP flash hr
  obtain ⟨hm, hi'⟩ := storeInv_step P hP hi hok
  exact slotsRight_of_move P hi.slots hi.ready hi.synced hi'.synced hm

/-- With the driver idle and no wait that a refused packet could be left to, an event that is no
    confirmed WIPE or UPDATE_FIRMWARE spoils nothing. -/
def sparingStep (s : Dev) (e : Event) : Prop :=
  calmStep s e ∧ (∀ s₀ ∈ delivered s e, packetMessagesRemaining s₀.cmdPacketBuf = 0 ∧
    packetSlot s₀ ≠ NUM_CLEARTEXT_PASS ∧ s₀.deviceState ≠ .restoringDevice) ∧
    s.activeCmd ≠ some .wipe ∧ s.activeCmd ≠ some .updateFirmware

instance (s : Dev) (e : Event) : Decidable (sparingStep s e) :=
  haveI : Decidable (∀ s₀ ∈ delivered s e, packetMessagesRemaining s₀.cmdPacketBuf = 0 ∧
      packetSlot s₀ ≠ NUM_CLEARTEXT_PASS ∧ s₀.deviceState ≠ .restoringDevice) :=
    inferInstanceAs (Decidable (∀ s₀ ∈ delivered s e, _))
  inferInstanceAs (Decidable (_ ∧ _ ∧ _ ∧ _))

theorem storeStep_of_sparingStep (hspare : sparingStep s e) : StoreStep P s (some e) := by
  obtain ⟨hcalm, hpackets, hwipe, hupdate⟩ := hspare
  refine ⟨undisturbed_of_calmStep P hcalm, fun s₀ hd => ?_, fun _ => ⟨hwipe, hupdate⟩,
    fun hs => absurd hcalm.1 hs.1⟩
  obtain ⟨hmr, hslot, hst⟩ := hpackets s₀ hd
  exact ⟨fun _ _ _ => hslot, fun _ _ _ h => absurd hmr h, fun h => absurd h hst⟩

theorem aesFits_addPlatform : AesFits addPlatform := by
  intro key blk hlen
  exact (List.length_zipWith.trans_le (Nat.min_le_left _ _)).trans hlen

theorem slots_right_read :
    consumesPress .readCleartextPassword (readRun 1).2 (some .buttonDown) = true ∧
      SlotsRight addPlatform keyedFlash (readRun 1).1 (readRun 1).2 (some .buttonDown) := by
  have hspare : ∀ x ∈ (readRun 1).1, ∀ e ∈ x.2, sparingStep x.1 e := by decide +kernel
  have hsome : ∀ x ∈ (readRun 1).1, x.2.isSome = true := by decide +kernel
  have hok : ∀ x ∈ (readRun 1).1, StoreStep addPlatform x.1 x.2 := by
    intro x hx
    obtain ⟨e, he⟩ := Option.isSome_iff_exists.mp (hsome x hx)
    rw [he]
    exact storeStep_of_sparingStep addPlatform (hspare x hx e he)
  have hlast : sparingStep (readRun 1).2 .buttonDown := by decide +kernel
  refine ⟨by decide +kernel, ?_⟩
  exact slots_right addPlatform aesFits_addPlatform keyedFlash ((run_readRun 1).restrict hok)
    (storeStep_of_sparingStep addPlatform hlast)

end SignetBase.Firmware

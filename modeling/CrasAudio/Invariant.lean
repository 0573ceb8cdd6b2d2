import CrasAudio.Dispatch

/-! The shape of the open-device and stream lists in every state the thread reaches, and what
it lets the controller free. -/
namespace CrasAudio

/-- Each open-device list holds distinct devices of its direction; each device's stream list
holds distinct streams of its direction, and is empty unless the device is open. -/
structure Invariant (t : AudioThread) : Prop where
  openDevs_nodup : ∀ dir, ((t.openDevs dir).map OpenDev.dev).Nodup
  openDevs_direction : ∀ dir, ∀ od ∈ t.openDevs dir, od.dev.direction = dir
  devStreams_nodup : ∀ dev, ((t.devStreams dev).map DevStream.stream).Nodup
  devStreams_direction : ∀ dev, ∀ ds ∈ t.devStreams dev, ds.stream.direction = dev.direction
  devStreams_open : ∀ dev, t.devStreams dev ≠ [] →
    dev ∈ (t.openDevs dev.direction).map OpenDev.dev

variable {t t' : AudioThread}

theorem Invariant.direction_of_mem (hi : Invariant t) {dir : CrasStreamDirection}
    {dev : CrasIodev} (h : dev ∈ (t.openDevs dir).map OpenDev.dev) : dev.direction = dir := by
  obtain ⟨od, hod, rfl⟩ := List.mem_map.mp h
  exact hi.openDevs_direction dir od hod

theorem invariant_init : Invariant AudioThread.init where
  openDevs_nodup _ := List.nodup_nil
  openDevs_direction _ _ h := absurd h (List.not_mem_nil _)
  devStreams_nodup _ := List.nodup_nil
  devStreams_direction _ _ h := absurd h (List.not_mem_nil _)
  devStreams_open _ h := absurd rfl h

/-! ## Steps that only unbind -/

/-- `t'` has `t`'s open devices and, on each device, a sublist of its streams. -/
def Unbinds (t t' : AudioThread) : Prop :=
  t'.openDevs = t.openDevs ∧ ∀ dev, (t'.devStreams dev).Sublist (t.devStreams dev)

theorem Unbinds.of_eq (ho : t'.openDevs = t.openDevs) (hs : t'.devStreams = t.devStreams) :
    Unbinds t t' :=
  ⟨ho, fun _ => hs ▸ List.Sublist.refl _⟩

theorem Unbinds.trans {t'' : AudioThread} (h : Unbinds t t') (h' : Unbinds t' t'') :
    Unbinds t t'' :=
  ⟨h'.1.trans h.1, fun dev => (h'.2 dev).trans (h.2 dev)⟩

theorem Unbinds.foldl {α : Type} (f : AudioThread → α → AudioThread)
    (hf : ∀ t a, Unbinds t (f t a)) (l : List α) (t : AudioThread) : Unbinds t (l.foldl f t) := by
  induction l generalizing t with
  | nil => exact Unbinds.of_eq rfl rfl
  | cons a l ih => exact (hf t a).trans (ih _)

theorem Invariant.unbinds (hi : Invariant t) (h : Unbinds t t') : Invariant t' where
  openDevs_nodup dir := by rw [h.1]; exact hi.openDevs_nodup dir
  openDevs_direction dir := by rw [h.1]; exact hi.openDevs_direction dir
  devStreams_nodup dev := (hi.devStreams_nodup dev).sublist ((h.2 dev).map _)
  devStreams_direction dev ds hds := hi.devStreams_direction dev ds ((h.2 dev).subset hds)
  devStreams_open dev hne := by
    rw [h.1]
    exact hi.devStreams_open dev fun he => hne (List.sublist_nil.mp (he ▸ h.2 dev))

theorem unbinds_detachStreamFromDevs (stream : CrasRstream) (ods : List OpenDev)
    (t : AudioThread) : Unbinds t (detachStreamFromDevs stream ods t) := by
  refine ⟨detachStreamFromDevs_openDevs _ _ _, fun dev => ?_⟩
  rw [detachStreamFromDevs_devStreams]
  split
  · exact List.filter_sublist _
  · exact List.Sublist.refl _

theorem unbinds_dumpDevStreams (env : Env) (devIdx : Nat) (l : List DevStream) :
    ∀ n t, Unbinds t (dumpDevStreams env devIdx l n t).2 := by
  induction l with
  | nil => exact fun _ _ => Unbinds.of_eq rfl rfl
  | cons ds l ih =>
    intro n t
    unfold dumpDevStreams
    split
    · exact Unbinds.of_eq rfl rfl
    · exact (Unbinds.of_eq rfl rfl).trans (ih _ _)

theorem unbinds_dumpOutputDevs (env : Env) (ods : List OpenDev) :
    ∀ nd ns t, Unbinds t (dumpOutputDevs env ods nd ns t).2.2 := by
  induction ods with
  | nil => exact fun _ _ _ => Unbinds.of_eq rfl rfl
  | cons od ods ih =>
    intro nd ns t
    unfold dumpOutputDevs
    dsimp only
    split
    · exact Unbinds.of_eq rfl rfl
    · have h : Unbinds t (t.writeDevDumpInfo nd (appendDevDumpInfo env od)) := Unbinds.of_eq rfl rfl
      exact (h.trans (unbinds_dumpDevStreams _ _ _ _ _)).trans (ih _ _ _)

theorem unbinds_dumpInputDevs (env : Env) (ods : List OpenDev) :
    ∀ nd ns t, Unbinds t (dumpInputDevs env ods nd ns t).2.2 := by
  induction ods with
  | nil => exact fun _ _ _ => Unbinds.of_eq rfl rfl
  | cons od ods ih =>
    intro nd ns t
    unfold dumpInputDevs
    dsimp only
    split
    · exact Unbinds.of_eq rfl rfl
    · have h : Unbinds t (t.writeDevDumpInfo nd (appendDevDumpInfo env od)) := Unbinds.of_eq rfl rfl
      exact (h.trans (unbinds_dumpDevStreams _ _ _ _ _)).trans (ih _ _ _)

theorem unbinds_dumpThreadInfo (env : Env) (t : AudioThread) : Unbinds t (dumpThreadInfo env t) :=
  ((unbinds_dumpOutputDevs env _ 0 0 t).trans (unbinds_dumpInputDevs env _ _ _ _)).trans
    (Unbinds.of_eq rfl rfl)

theorem unbinds_threadSetAecDump (env : Env) (t : AudioThread) (streamId start : Nat) (fd : Int) :
    Unbinds t (threadSetAecDump env t streamId start fd).1 := by
  refine Unbinds.foldl _ (fun t adev => ?_) _ t
  split
  · exact Unbinds.of_eq rfl rfl
  · refine Unbinds.foldl _ (fun t s => ?_) _ t
    split <;> exact Unbinds.of_eq rfl rfl

theorem unbinds_threadDrainStreamMsRemaining (env : Env) (t : AudioThread) (s : CrasRstream) :
    Unbinds t (threadDrainStreamMsRemaining env t s).1 := by
  unfold threadDrainStreamMsRemaining
  dsimp only
  split
  · exact Unbinds.of_eq rfl rfl
  · split <;> exact Unbinds.of_eq rfl rfl

theorem unbinds_devIoRemoveStream (ods : List OpenDev) (stream : CrasRstream)
    (dev : Option CrasIodev) (t : AudioThread) : Unbinds t (devIoRemoveStream ods stream dev t).1 :=
  unbinds_detachStreamFromDevs _ _ _

theorem unbinds_threadDrainStream (env : Env) (t : AudioThread) (s : CrasRstream) :
    Unbinds t (threadDrainStream env t s).1 := by
  unfold threadDrainStream
  dsimp only
  split
  · exact Unbinds.of_eq rfl rfl
  · have h := unbinds_threadDrainStreamMsRemaining env t s
    split
    · exact h.trans (unbinds_devIoRemoveStream _ _ _ _)
    · exact h

theorem unbinds_threadDisconnectStream (t : AudioThread) (s : CrasRstream)
    (dev : Option CrasIodev) : Unbinds t (threadDisconnectStream t s dev).1 := by
  unfold threadDisconnectStream
  split
  · exact Unbinds.of_eq rfl rfl
  · exact unbinds_devIoRemoveStream _ _ _ _

theorem unbinds_threadDevStartRamp (env : Env) (t : AudioThread) (dev : CrasIodev) (req : Nat) :
    Unbinds t (threadDevStartRamp env t dev req).1 := by
  unfold threadDevStartRamp
  split <;> exact Unbinds.of_eq rfl rfl

/-! ## Steps that bind or change the open devices -/

theorem Invariant.attachesOnly (hi : Invariant t) {stream : CrasRstream}
    (h : AttachesOnly stream t t') : Invariant t' where
  openDevs_nodup dir := by rw [h.1]; exact hi.openDevs_nodup dir
  openDevs_direction dir := by rw [h.1]; exact hi.openDevs_direction dir
  devStreams_nodup dev := by
    rcases h.2 dev with he | ⟨out, hout, hn, -, he⟩
    · rw [he]; exact hi.devStreams_nodup dev
    · rw [he, List.map_append, List.nodup_append]
      simpa [hout] using ⟨hi.devStreams_nodup dev,
        fun x hx hxs => hn (hxs ▸ List.mem_map_of_mem _ hx)⟩
  devStreams_direction dev ds hds := by
    rcases h.2 dev with he | ⟨out, hout, -, ho, he⟩
    · rw [he] at hds; exact hi.devStreams_direction dev ds hds
    · rw [he, List.mem_append, List.mem_singleton] at hds
      rcases hds with hds | rfl
      · exact hi.devStreams_direction dev ds hds
      · rw [hout, hi.direction_of_mem ho]
  devStreams_open dev hne := by
    rw [h.1]
    rcases h.2 dev with he | ⟨-, -, -, ho, -⟩
    · exact hi.devStreams_open dev (he ▸ hne)
    · rwa [hi.direction_of_mem ho]

theorem invariant_appendStream (hi : Invariant t) (env : Env) (stream : CrasRstream)
    (iodevs : List CrasIodev) : Invariant (appendStream env t stream iodevs).1 := by
  obtain ⟨hok, hfail⟩ := appendStream_effect env t stream iodevs
  by_cases h : (appendStream env t stream iodevs).2 = 0
  · exact hi.attachesOnly (hok h)
  · obtain ⟨ho, hs⟩ := hfail h
    refine hi.unbinds ⟨ho, fun dev => ?_⟩
    rw [hs dev]
    split
    · exact List.filter_sublist _
    · exact List.Sublist.refl _

theorem Invariant.addOpenDev (hi : Invariant t) {iodev : CrasIodev}
    (hn : iodev ∉ (t.openDevs iodev.direction).map OpenDev.dev) :
    Invariant (t.setOpenDevs iodev.direction
      (t.openDevs iodev.direction ++ [⟨iodev, Timespec.zero⟩])) where
  openDevs_nodup dir := by
    by_cases hd : dir = iodev.direction
    · subst hd
      simpa [List.nodup_append, hn] using hi.openDevs_nodup iodev.direction
    · simpa [Function.update_noteq hd] using hi.openDevs_nodup dir
  openDevs_direction dir od hod := by
    by_cases hd : dir = iodev.direction
    · subst hd
      simp only [AudioThread.setOpenDevs_openDevs, Function.update_same, List.mem_append,
        List.mem_singleton] at hod
      rcases hod with hod | rfl
      · exact hi.openDevs_direction _ od hod
      · rfl
    · simp only [AudioThread.setOpenDevs_openDevs, Function.update_noteq hd] at hod
      exact hi.openDevs_direction dir od hod
  devStreams_nodup := hi.devStreams_nodup
  devStreams_direction := hi.devStreams_direction
  devStreams_open dev hne := by
    have ho := hi.devStreams_open dev hne
    by_cases hd : dev.direction = iodev.direction
    · simp only [AudioThread.setOpenDevs_openDevs, hd, Function.update_same, List.map_append,
        List.mem_append]
      exact Or.inl (hd ▸ ho)
    · simpa [Function.update_noteq hd] using ho

theorem invariant_threadAddOpenDev (hi : Invariant t) (iodev : CrasIodev) :
    Invariant (threadAddOpenDev t iodev).1 := by
  unfold threadAddOpenDev
  split
  · exact hi
  · rename_i hn
    have hn : iodev ∉ (t.openDevs iodev.direction).map OpenDev.dev :=
      fun h => hn (findOpenDev_isSome.mpr h)
    dsimp only
    generalize ht : (if iodev.direction = .output then
      t.call (.fillOdevZeros iodev iodev.minBufferLevel) else t) = t1
    have h1 : Unbinds t t1 := Unbinds.of_eq (by rw [← ht]; split <;> rfl)
      (by rw [← ht]; split <;> rfl)
    rw [← h1.1] at hn
    exact (hi.unbinds h1).addOpenDev hn

theorem Invariant.rmOpenDev (hi : Invariant t) {adev : OpenDev}
    (hmem : adev ∈ t.openDevs adev.dev.direction) :
    Invariant ((t.setOpenDevs adev.dev.direction ((t.openDevs adev.dev.direction).erase adev)).setDevStreams
      adev.dev []) where
  openDevs_nodup dir := by
    by_cases hd : dir = adev.dev.direction
    · subst hd
      simpa using (hi.openDevs_nodup _).sublist ((List.erase_sublist _ _).map _)
    · simpa [Function.update_noteq hd] using hi.openDevs_nodup dir
  openDevs_direction dir od hod := by
    by_cases hd : dir = adev.dev.direction
    · subst hd
      simp only [AudioThread.setDevStreams_openDevs, AudioThread.setOpenDevs_openDevs,
        Function.update_same] at hod
      exact hi.openDevs_direction _ od (List.mem_of_mem_erase hod)
    · simp only [AudioThread.setDevStreams_openDevs, AudioThread.setOpenDevs_openDevs,
        Function.update_noteq hd] at hod
      exact hi.openDevs_direction dir od hod
  devStreams_nodup dev := by
    by_cases hd : dev = adev.dev
    · simp [hd]
    · simpa [Function.update_noteq hd] using hi.devStreams_nodup dev
  devStreams_direction dev ds hds := by
    by_cases hd : dev = adev.dev
    · simp [hd] at hds
    · simp only [AudioThread.setDevStreams_devStreams, Function.update_noteq hd,
        AudioThread.setOpenDevs_devStreams] at hds
      exact hi.devStreams_direction dev ds hds
  devStreams_open dev hne := by
    by_cases hd : dev = adev.dev
    · simp [hd] at hne
    · simp only [AudioThread.setDevStreams_devStreams, Function.update_noteq hd,
        AudioThread.setOpenDevs_devStreams] at hne
      obtain ⟨od, hod, hodev⟩ := List.mem_map.mp (hi.devStreams_open dev hne)
      simp only [AudioThread.setDevStreams_openDevs, AudioThread.setOpenDevs_openDevs]
      by_cases hdir : dev.direction = adev.dev.direction
      · rw [hdir, Function.update_same]
        refine List.mem_map.mpr ⟨od, (List.mem_erase_of_ne ?_).mpr (hdir ▸ hod), hodev⟩
        rintro rfl
        exact hd hodev.symm
      · rw [Function.update_noteq hdir]
        exact List.mem_map.mpr ⟨od, hod, hodev⟩

theorem invariant_threadRmOpenDev (hi : Invariant t) (iodev : CrasIodev) :
    Invariant (threadRmOpenDev t iodev).1 := by
  unfold threadRmOpenDev
  split
  · exact hi
  · rename_i adev hf
    have hmem := List.mem_of_find?_eq_some hf
    have hdev : adev.dev = iodev := by simpa using List.find?_some hf
    unfold devIoRmOpenDev
    dsimp only
    have h1 := Unbinds.foldl (fun t ds => t.devStreamDestroy ds)
      (fun _ _ => Unbinds.of_eq rfl rfl) (t.devStreams adev.dev) t
    rw [← hdev] at hmem
    exact (hi.unbinds h1).rmOpenDev (h1.1 ▸ hmem)

theorem invariant_handleThreadMessage (hi : Invariant t) (env : Env) (msg : AudioThreadMsg) :
    Invariant (handleThreadMessage env t msg).1 := by
  cases msg with
  | addStream stream devs =>
    show Invariant (threadAddStream env t stream devs).1
    unfold threadAddStream
    dsimp only
    split
    · exact invariant_appendStream hi env stream devs
    · exact invariant_appendStream hi env stream devs
  | disconnectStream stream dev => exact hi.unbinds (unbinds_threadDisconnectStream t stream dev)
  | addOpenDev dev => exact invariant_threadAddOpenDev hi dev
  | rmOpenDev dev => exact invariant_threadRmOpenDev hi dev
  | isDevOpen | stop | unknown => exact hi
  | dumpThreadInfo => exact hi.unbinds (unbinds_dumpThreadInfo env t)
  | drainStream stream => exact hi.unbinds (unbinds_threadDrainStream env t stream)
  | removeCallback | configGlobalRemix => exact hi.unbinds (Unbinds.of_eq rfl rfl)
  | devStartRamp dev request => exact hi.unbinds (unbinds_threadDevStartRamp env t dev request)
  | aecDump streamId start fd => exact hi.unbinds (unbinds_threadSetAecDump env t streamId start fd)

theorem invariant_reachable (h : Reachable t) : Invariant t := by
  induction h with
  | init => exact invariant_init
  | step env msg _ ih => exact invariant_handleThreadMessage ih env msg

theorem threadIsDevOpen_eq_one (t : AudioThread) (d : CrasIodev) :
    threadIsDevOpen t d = 1 ↔ d ∈ (t.openDevs d.direction).map OpenDev.dev := by
  rw [← findOpenDev_isSome]
  unfold threadIsDevOpen
  split <;> simp_all

/-- Every reachable state has the list invariant, and IsDevOpen replies 1 exactly for the devices
in the list of their direction. -/
theorem open_devs_and_streams_invariant (h : Reachable t) :
    (∀ dir, ((t.openDevs dir).map OpenDev.dev).Nodup ∧
      ∀ od ∈ t.openDevs dir, od.dev.direction = dir) ∧
    (∀ dev, ((t.devStreams dev).map DevStream.stream).Nodup) ∧
    (∀ dev, ∀ ds ∈ t.devStreams dev, ds.stream.direction = dev.direction) ∧
    (∀ env d, (handleThreadMessage env t (.isDevOpen d)).2 = .rc 1 ↔
      d ∈ (t.openDevs d.direction).map OpenDev.dev) := by
  have hi := invariant_reachable h
  refine ⟨fun dir => ⟨hi.openDevs_nodup dir, hi.openDevs_direction dir⟩, hi.devStreams_nodup,
    hi.devStreams_direction, fun env d => ?_⟩
  simp only [handleThreadMessage, Reply.rc.injEq]
  exact threadIsDevOpen_eq_one t d

/-- One output device open with one output stream attached, for the concrete runs. -/
def outputAttachedRun : AudioThread :=
  runThread Env.nominal [.addOpenDev (CrasIodev.plain 1 .output),
    .addStream (CrasRstream.plain 2 .output) [CrasIodev.plain 1 .output]]

theorem open_devs_and_streams_invariant_after_attach :
    (∀ dir, ((outputAttachedRun.openDevs dir).map OpenDev.dev).Nodup ∧
      ∀ od ∈ outputAttachedRun.openDevs dir, od.dev.direction = dir) ∧
    (∀ dev, ((outputAttachedRun.devStreams dev).map DevStream.stream).Nodup) ∧
    (∀ dev, ∀ ds ∈ outputAttachedRun.devStreams dev, ds.stream.direction = dev.direction) ∧
    (∀ env d, (handleThreadMessage env outputAttachedRun (.isDevOpen d)).2 = .rc 1 ↔
      d ∈ (outputAttachedRun.openDevs d.direction).map OpenDev.dev) :=
  open_devs_and_streams_invariant (reachable_runThread _ _)

/-! ## Releasing a stream -/

/-- No open device carries `s`: the controller may free it. -/
def Detached (t : AudioThread) (s : CrasRstream) : Prop :=
  ∀ dir, ∀ od ∈ t.openDevs dir, s ∉ (t.devStreams od.dev).map DevStream.stream

theorem Invariant.not_mem_other_direction (hi : Invariant t) {s : CrasRstream}
    {dir : CrasStreamDirection} (hd : dir ≠ s.direction) {od : OpenDev}
    (hod : od ∈ t.openDevs dir) : s ∉ (t.devStreams od.dev).map DevStream.stream := by
  intro hs
  obtain ⟨ds, hds, rfl⟩ := List.mem_map.mp hs
  rw [hi.devStreams_direction _ ds hds, hi.openDevs_direction dir od hod] at hd
  exact hd rfl

theorem Invariant.detached_of_not_found (hi : Invariant t) {s : CrasRstream}
    (hf : threadFindStream t s = false) : Detached t s := by
  intro dir od hod hs
  by_cases hd : dir = s.direction
  · subst hd
    obtain ⟨ds, hds, hdss⟩ := List.mem_map.mp hs
    have : threadFindStream t s = true :=
      List.any_eq_true.mpr ⟨od, hod, List.any_eq_true.mpr ⟨ds, hds, by simp [hdss]⟩⟩
    rw [hf] at this
    exact Bool.false_ne_true this
  · exact hi.not_mem_other_direction hd hod hs

theorem Invariant.detached_detachStreamFromDevs (hi : Invariant t) (s : CrasRstream) :
    Detached (detachStreamFromDevs s (t.openDevs s.direction) t) s := by
  intro dir od hod hs
  rw [detachStreamFromDevs_openDevs] at hod
  rw [detachStreamFromDevs_devStreams] at hs
  by_cases hd : dir = s.direction
  · subst hd
    rw [if_pos (List.mem_map_of_mem _ hod)] at hs
    obtain ⟨ds, hds, rfl⟩ := List.mem_map.mp hs
    exact (of_decide_eq_true (List.mem_filter.mp hds).2) rfl
  · split at hs
    · exact hi.not_mem_other_direction hd hod (((List.filter_sublist _).map _).subset hs)
    · exact hi.not_mem_other_direction hd hod hs

theorem threadDrainStreamMsRemaining_ne_zero {env : Env} {t : AudioThread} {s : CrasRstream}
    (h : (threadDrainStreamMsRemaining env t s).2 ≠ 0) :
    s.direction = .output ∧ (threadDrainStreamMsRemaining env t s).1.draining s = true ∧
      (threadDrainStreamMsRemaining env t s).1.openDevs = t.openDevs ∧
      (threadDrainStreamMsRemaining env t s).1.devStreams = t.devStreams := by
  unfold threadDrainStreamMsRemaining at h ⊢
  dsimp only at h ⊢
  split
  · simp_all
  · split
    · simp_all
    · exact ⟨not_not.mp ‹_›, by simp, rfl, rfl⟩

/-- After a drain replying 0 or a disconnect from NULL no open device carries `s`; a drain
replying a positive count marks the output stream draining and keeps every list. -/
theorem drain_and_disconnect_release_stream (h : Reachable t) (env : Env) (s : CrasRstream) :
    ((threadDrainStream env t s).2 = 0 → Detached (threadDrainStream env t s).1 s) ∧
    Detached (threadDisconnectStream t s none).1 s ∧
    (0 < (threadDrainStream env t s).2 → s.direction = .output ∧
      (threadDrainStream env t s).1.draining s = true ∧
      (threadDrainStream env t s).1.openDevs = t.openDevs ∧
      (threadDrainStream env t s).1.devStreams = t.devStreams) := by
  have hi := invariant_reachable h
  refine ⟨fun h0 => ?_, ?_, fun hpos => ?_⟩
  · unfold threadDrainStream at h0 ⊢
    dsimp only at h0 ⊢
    split
    · rename_i hf
      exact hi.detached_of_not_found (by simpa using hf)
    · split
      · have hd := (hi.unbinds (unbinds_threadDrainStreamMsRemaining env t s)).detached_detachStreamFromDevs s
        simpa [devIoRemoveStream] using hd
      · simp_all
  · unfold threadDisconnectStream
    split
    · rename_i hf
      exact hi.detached_of_not_found (by simpa using hf)
    · simpa [devIoRemoveStream] using hi.detached_detachStreamFromDevs s
  · unfold threadDrainStream at hpos ⊢
    dsimp only at hpos ⊢
    split
    · simp_all
    · split
      · simp_all
      · exact threadDrainStreamMsRemaining_ne_zero (by omega)

theorem drain_and_disconnect_release_stream_after_attach :
    ((threadDrainStream Env.nominal outputAttachedRun (CrasRstream.plain 2 .output)).2 = 0 →
      Detached (threadDrainStream Env.nominal outputAttachedRun (CrasRstream.plain 2 .output)).1
        (CrasRstream.plain 2 .output)) ∧
    Detached (threadDisconnectStream outputAttachedRun (CrasRstream.plain 2 .output) none).1
      (CrasRstream.plain 2 .output) ∧
    (0 < (threadDrainStream Env.nominal outputAttachedRun (CrasRstream.plain 2 .output)).2 →
      (CrasRstream.plain 2 .output).direction = .output ∧
      (threadDrainStream Env.nominal outputAttachedRun (CrasRstream.plain 2 .output)).1.draining
        (CrasRstream.plain 2 .output) = true ∧
      (threadDrainStream Env.nominal outputAttachedRun (CrasRstream.plain 2 .output)).1.openDevs =
        outputAttachedRun.openDevs ∧
      (threadDrainStream Env.nominal outputAttachedRun (CrasRstream.plain 2 .output)).1.devStreams =
        outputAttachedRun.devStreams) :=
  drain_and_disconnect_release_stream (reachable_runThread _ _) _ _

/-! ## A run of `append_stream` that the spec gets wrong -/

/-- Two output devices open, the first carrying one stream, for the concrete runs. -/
def twoOutputsRun : AudioThread :=
  runThread Env.nominal [.addOpenDev (CrasIodev.plain 1 .output),
    .addOpenDev (CrasIodev.plain 2 .output),
    .addStream (CrasRstream.plain 3 .output) [CrasIodev.plain 1 .output]]

/-- The clock reads 100 s and the stream on the first device is due at 5 s. -/
def firstStreamDueEnv : Env :=
  { Env.nominal with
    clock := fun _ => Timespec.ofSec 100,
    nextCbTs := fun ds => if ds.stream = CrasRstream.plain 3 .output then
      some (Timespec.ofSec 5) else none }

/-- The second device starts the stream at the first device's 5 s, not the clock's 100 s. -/
theorem append_stream_second_device_keeps_first_cb_ts :
    Reachable twoOutputsRun ∧ twoOutputsRun.devStreams (CrasIodev.plain 2 .output) = [] ∧
      firstStreamDueEnv.clock 1 = Timespec.ofSec 100 ∧
      ((appendStream firstStreamDueEnv twoOutputsRun (CrasRstream.plain 4 .output)
        [CrasIodev.plain 1 .output, CrasIodev.plain 2 .output]).1.devStreams
          (CrasIodev.plain 2 .output)).map DevStream.initCbTs = [Timespec.ofSec 5] :=
  ⟨reachable_runThread _ _, by decide, rfl, by decide⟩

end CrasAudio

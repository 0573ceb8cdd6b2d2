import CrasAudio.Invariant

/-! Ownership of the `dev_stream` objects: the ones `dev_stream_create` allocated and
`dev_stream_destroy` has not freed, and the ones the devices' `streams` lists hold. -/
namespace CrasAudio

/-- A device of `t` holds `ds` on its `streams` list. -/
def Held (t : AudioThread) (ds : DevStream) : Prop := ∃ dev, ds ∈ t.devStreams dev

/-- Every held `dev_stream` is alive and held once; every live one has an id below the next. -/
structure Owned (t : AudioThread) : Prop where
  held_live : ∀ dev, ∀ ds ∈ t.devStreams dev, ds ∈ t.liveDevStreams
  held_once : ∀ dev dev', ∀ ds ∈ t.devStreams dev, ds ∈ t.devStreams dev' → dev = dev'
  live_nodup : t.liveDevStreams.Nodup
  live_fresh : ∀ ds ∈ t.liveDevStreams, ds.id < t.nextDevStreamId

variable {t t' t'' : AudioThread}

theorem owned_init : Owned AudioThread.init where
  held_live _ _ h := absurd h (List.not_mem_nil _)
  held_once _ _ _ h := absurd h (List.not_mem_nil _)
  live_nodup := List.nodup_nil
  live_fresh _ h := absurd h (List.not_mem_nil _)

theorem Owned.of_eq (ho : Owned t) (hs : t'.devStreams = t.devStreams)
    (hl : t'.liveDevStreams = t.liveDevStreams) (hn : t'.nextDevStreamId = t.nextDevStreamId) :
    Owned t' := by
  obtain ⟨h1, h2, h3, h4⟩ := ho
  exact ⟨hs ▸ hl ▸ h1, hs ▸ h2, hl ▸ h3, hn ▸ hl ▸ h4⟩

theorem Owned.not_held (ho : Owned t) {out : DevStream} (hid : out.id = t.nextDevStreamId) :
    ¬ Held t out := fun ⟨dev, h⟩ =>
  Nat.lt_irrefl _ (hid ▸ ho.live_fresh out (ho.held_live dev out h))

/-! ## Steps that only unbind and destroy -/

/-- `t'` holds sublists, allocates nothing, and frees only `dev_stream`s no device holds. -/
structure Releases (t t' : AudioThread) : Prop where
  devStreams : ∀ dev, (t'.devStreams dev).Sublist (t.devStreams dev)
  next : t'.nextDevStreamId = t.nextDevStreamId
  live : t'.liveDevStreams.Sublist t.liveDevStreams
  freed : ∀ ds ∈ t.liveDevStreams, ds ∉ t'.liveDevStreams → ¬ Held t' ds

theorem Releases.of_eq (hs : t'.devStreams = t.devStreams)
    (hl : t'.liveDevStreams = t.liveDevStreams) (hn : t'.nextDevStreamId = t.nextDevStreamId) :
    Releases t t' :=
  ⟨fun _ => hs ▸ List.Sublist.refl _, hn, hl ▸ List.Sublist.refl _,
    fun _ h h' => absurd (hl ▸ h) h'⟩

theorem Releases.trans (h : Releases t t') (h' : Releases t' t'') : Releases t t'' where
  devStreams dev := (h'.devStreams dev).trans (h.devStreams dev)
  next := h'.next.trans h.next
  live := h'.live.trans h.live
  freed ds hds hds'' := by
    by_cases hds' : ds ∈ t'.liveDevStreams
    · exact h'.freed ds hds' hds''
    · rintro ⟨dev, hd⟩
      exact h.freed ds hds hds' ⟨dev, (h'.devStreams dev).subset hd⟩

theorem Owned.releases (ho : Owned t) (h : Releases t t') : Owned t' where
  held_live dev ds hds := by
    have hl := ho.held_live dev ds ((h.devStreams dev).subset hds)
    by_contra hn
    exact h.freed ds hl hn ⟨dev, hds⟩
  held_once dev dev' ds hds hds' :=
    ho.held_once dev dev' ds ((h.devStreams dev).subset hds) ((h.devStreams dev').subset hds')
  live_nodup := ho.live_nodup.sublist h.live
  live_fresh ds hds := h.next ▸ ho.live_fresh ds (h.live.subset hds)

theorem Releases.foldl {α : Type} (f : AudioThread → α → AudioThread)
    (hf : ∀ t a, Owned t → Releases t (f t a)) (l : List α) :
    ∀ t, Owned t → Releases t (l.foldl f t) := by
  induction l with
  | nil => exact fun t _ => Releases.of_eq rfl rfl rfl
  | cons a l ih =>
    intro t ho
    have h := hf t a ho
    exact h.trans (ih _ (ho.releases h))

theorem releases_detachStream (ho : Owned t) (dev : CrasIodev) (stream : CrasRstream) :
    Releases t (detachStream t dev stream) := by
  unfold detachStream
  split
  · rename_i out hf
    obtain ⟨hmem, hout⟩ := findDevStream_some hf
    refine ⟨fun d => ?_, rfl, List.erase_sublist _ _, fun ds hl hds => ?_⟩
    · by_cases hd : d = dev
      · subst hd
        simp only [AudioThread.devStreamDestroy, AudioThread.iodevRmStream,
          AudioThread.setDevStreams_devStreams, Function.update_same]
        exact List.filter_sublist _
      · simp [AudioThread.devStreamDestroy, AudioThread.iodevRmStream, hd]
    · have hds_out : ds = out := by
        by_contra hne
        exact hds ((List.mem_erase_of_ne hne).mpr hl)
      subst hds_out
      rintro ⟨d, hd⟩
      by_cases hdd : d = dev
      · subst hdd
        simp [AudioThread.devStreamDestroy, AudioThread.iodevRmStream, hout] at hd
      · simp only [AudioThread.devStreamDestroy, AudioThread.iodevRmStream,
          AudioThread.setDevStreams_devStreams, Function.update_noteq hdd] at hd
        exact hdd (ho.held_once d dev ds hd hmem)
  · exact Releases.of_eq rfl rfl rfl

theorem releases_detachStreamFromDevs (ho : Owned t) (stream : CrasRstream)
    (ods : List OpenDev) : Releases t (detachStreamFromDevs stream ods t) :=
  Releases.foldl (fun (t : AudioThread) (od : OpenDev) => detachStream t od.dev stream)
    (fun _ od ho => releases_detachStream ho od.dev stream) ods t ho

theorem foldl_devStreamDestroy (l : List DevStream) : ∀ t : AudioThread,
    let t' := l.foldl (fun t ds => t.devStreamDestroy ds) t
    t'.devStreams = t.devStreams ∧ t'.nextDevStreamId = t.nextDevStreamId ∧
      t'.liveDevStreams.Sublist t.liveDevStreams ∧
      ∀ ds ∈ t.liveDevStreams, ds ∉ l → ds ∈ t'.liveDevStreams := by
  induction l with
  | nil => exact fun t => ⟨rfl, rfl, List.Sublist.refl _, fun _ h _ => h⟩
  | cons a l ih =>
    intro t
    obtain ⟨hs, hn, hl, hm⟩ := ih (t.devStreamDestroy a)
    refine ⟨hs, hn, hl.trans (List.erase_sublist _ _), fun ds hds hnot => hm ds ?_ ?_⟩
    · exact (List.mem_erase_of_ne fun h : ds = a => hnot (h ▸ List.mem_cons_self _ _)).mpr hds
    · exact fun h => hnot (List.mem_cons_of_mem _ h)

theorem releases_devIoRmOpenDev (ho : Owned t) (adev : OpenDev) :
    Releases t (devIoRmOpenDev t adev) := by
  obtain ⟨hs, hn, hl, hm⟩ := foldl_devStreamDestroy (t.devStreams adev.dev) t
  unfold devIoRmOpenDev
  dsimp only
  refine ⟨fun d => ?_, hn, hl, fun ds hds hds' => ?_⟩
  · by_cases hd : d = adev.dev
    · simp [hd]
    · simp only [AudioThread.setDevStreams_devStreams, Function.update_noteq hd,
        AudioThread.setOpenDevs_devStreams, hs]
      exact List.Sublist.refl _
  · have hheld : ds ∈ t.devStreams adev.dev := by
      by_contra h
      exact hds' (hm ds hds h)
    rintro ⟨d, hd⟩
    by_cases hdd : d = adev.dev
    · simp [hdd] at hd
    · simp only [AudioThread.setDevStreams_devStreams, Function.update_noteq hdd,
        AudioThread.setOpenDevs_devStreams, hs] at hd
      exact hdd (ho.held_once d adev.dev ds hd hheld)

/-! ## Steps that allocate and bind -/

theorem Owned.devStreamCreate (ho : Owned t) {out : DevStream}
    (hid : out.id = t.nextDevStreamId) : Owned (t.devStreamCreate out) where
  held_live dev ds hds := List.mem_append_left _ (ho.held_live dev ds hds)
  held_once := ho.held_once
  live_nodup := ho.live_nodup.append (List.nodup_singleton out) fun ds hds hout => by
    rw [List.mem_singleton.mp hout] at hds
    exact Nat.lt_irrefl _ (hid ▸ ho.live_fresh out hds)
  live_fresh ds hds := by
    rcases List.mem_append.mp hds with h | h
    · exact Nat.lt_succ_of_lt (ho.live_fresh ds h)
    · rw [List.mem_singleton.mp h, hid]
      exact Nat.lt_succ_self _

theorem mem_iodevAddStream {dev d : CrasIodev} {out ds : DevStream} :
    ds ∈ (t.iodevAddStream dev out).devStreams d ↔ ds ∈ t.devStreams d ∨ d = dev ∧ ds = out := by
  by_cases hd : d = dev
  · subst hd
    simp [AudioThread.iodevAddStream]
  · simp [AudioThread.iodevAddStream, hd]

theorem Owned.iodevAddStream (ho : Owned t) {dev : CrasIodev} {out : DevStream}
    (hl : out ∈ t.liveDevStreams) (hn : ¬ Held t out) : Owned (t.iodevAddStream dev out) where
  held_live d ds hds := by
    rcases mem_iodevAddStream.mp hds with h | ⟨-, rfl⟩
    · exact ho.held_live d ds h
    · exact hl
  held_once d d' ds hds hds' := by
    rcases mem_iodevAddStream.mp hds with h | ⟨rfl, rfl⟩
    · rcases mem_iodevAddStream.mp hds' with h' | ⟨-, rfl⟩
      · exact ho.held_once d d' ds h h'
      · exact absurd ⟨d, h⟩ hn
    · rcases mem_iodevAddStream.mp hds' with h' | ⟨rfl, -⟩
      · exact absurd ⟨d', h'⟩ hn
      · rfl
  live_nodup := ho.live_nodup
  live_fresh := ho.live_fresh

theorem appendStreamAlign_liveDevStreams (stream : CrasRstream) (dev : CrasIodev)
    (out : DevStream) (t : AudioThread) :
    (appendStreamAlign stream dev out t).liveDevStreams = t.liveDevStreams := by
  unfold appendStreamAlign
  split <;> (try split) <;> rfl

theorem owned_appendStreamAlign (ho : Owned t) (stream : CrasRstream) (dev : CrasIodev)
    (out : DevStream) : Owned (appendStreamAlign stream dev out t) :=
  ho.of_eq (appendStreamAlign_devStreams _ _ _ _) (appendStreamAlign_liveDevStreams _ _ _ _)
    (by unfold appendStreamAlign; split <;> (try split) <;> rfl)

theorem appendStreamFlush_eq (env : Env) (stream : CrasRstream) (i : Nat) (dev : CrasIodev)
    (t : AudioThread) : ∃ t₁, (t₁ = t ∨ t₁ = t.call (.flushBuffer dev)) ∧
      (appendStreamFlush env stream i dev t = .ok t₁ ∨
        appendStreamFlush env stream i dev t = .error (t₁, env.flushBuffer i) ∧
          env.flushBuffer i < 0) := by
  unfold appendStreamFlush
  split
  · split
    · exact ⟨_, .inr rfl, .inr ⟨rfl, by assumption⟩⟩
    · exact ⟨_, .inr rfl, .inl rfl⟩
  · exact ⟨_, .inl rfl, .inl rfl⟩

theorem Owned.call (ho : Owned t) (c : ExtCall) : Owned (t.call c) := ho.of_eq rfl rfl rfl

theorem owned_appendStreamAttach (ho : Owned t) (env : Env) (stream : CrasRstream) (i : Nat)
    (dev : CrasIodev) (cb : Bool × Timespec) :
    Owned (attachState (appendStreamAttach env stream i dev cb t)) := by
  unfold appendStreamAttach
  simp only
  split
  · generalize hout : t.createdDevStream stream dev _ = out
    have hid : out.id = t.nextDevStreamId := hout ▸ rfl
    have h1 := ho.devStreamCreate hid
    obtain ⟨t₁, ht₁, hok | herr⟩ := appendStreamFlush_eq env stream i dev (t.devStreamCreate out)
    · have h₁ : Owned t₁ := by rcases ht₁ with rfl | rfl; exacts [h1, h1.call _]
      have hl : out ∈ t₁.liveDevStreams := by
        rcases ht₁ with rfl | rfl <;> exact List.mem_append_right _ (List.mem_singleton_self _)
      have hs : t₁.devStreams = t.devStreams := by rcases ht₁ with rfl | rfl <;> rfl
      rw [hok]
      exact owned_appendStreamAlign
        (h₁.iodevAddStream hl fun ⟨d, h⟩ => ho.not_held hid ⟨d, hs ▸ h⟩) _ _ _
    · rw [herr.1]
      rcases ht₁ with rfl | rfl
      exacts [h1, h1.call _]
  · exact ho

theorem owned_appendStreamLoop (env : Env) (stream : CrasRstream) (iodevs : List CrasIodev) :
    ∀ i cb t, Owned t → Owned (appendStreamLoop env stream i iodevs cb t).1 := by
  induction iodevs with
  | nil => exact fun _ _ _ ho => ho
  | cons dev iodevs ih =>
    intro i cb t ho
    have ha := owned_appendStreamAttach ho env stream i dev cb
    unfold appendStreamLoop
    split
    · split
      · rename_i t' cb' he
        rw [he] at ha
        exact ih _ _ _ ha
      · rename_i r he
        rw [he] at ha
        exact ha
    · exact ih _ _ _ ho

theorem owned_appendStream (ho : Owned t) (env : Env) (stream : CrasRstream)
    (iodevs : List CrasIodev) : Owned (appendStream env t stream iodevs).1 := by
  have hl := owned_appendStreamLoop env stream iodevs 0 (false, Timespec.zero) t ho
  unfold appendStream
  dsimp only
  split
  · exact hl.releases (releases_detachStreamFromDevs hl _ _)
  · exact hl

/-! ## Steps that leave the `dev_stream`s alone -/

/-- The `dev_stream` bookkeeping: the devices' lists, the live objects and the next id. -/
def AudioThread.streamView (t : AudioThread) :
    (CrasIodev → List DevStream) × List DevStream × Nat :=
  (t.devStreams, t.liveDevStreams, t.nextDevStreamId)

theorem Owned.of_streamView (ho : Owned t) (h : t'.streamView = t.streamView) : Owned t' :=
  ho.of_eq (congrArg Prod.fst h) (congrArg (fun v => v.2.1) h) (congrArg (fun v => v.2.2) h)

theorem streamView_foldl {α : Type} (f : AudioThread → α → AudioThread)
    (hf : ∀ t a, (f t a).streamView = t.streamView) (l : List α) (t : AudioThread) :
    (l.foldl f t).streamView = t.streamView := by
  induction l generalizing t with
  | nil => rfl
  | cons a l ih => exact (ih _).trans (hf t a)

theorem dumpDevStreams_streamView (env : Env) (devIdx : Nat) (l : List DevStream) :
    ∀ n t, (dumpDevStreams env devIdx l n t).2.streamView = t.streamView := by
  induction l with
  | nil => exact fun _ _ => rfl
  | cons ds l ih =>
    intro n t
    unfold dumpDevStreams
    split
    · rfl
    · exact ih _ _

theorem dumpThreadInfo_streamView (env : Env) (t : AudioThread) :
    (dumpThreadInfo env t).streamView = t.streamView := by
  have ho : ∀ (l : List OpenDev) nd ns (t : AudioThread),
      (dumpOutputDevs env l nd ns t).2.2.streamView = t.streamView := by
    intro l
    induction l with
    | nil => exact fun _ _ _ => rfl
    | cons adev l ih =>
      intro nd ns t
      unfold dumpOutputDevs
      dsimp only
      split
      · rfl
      · exact (ih _ _ _).trans (dumpDevStreams_streamView _ _ _ _ _)
  have hi : ∀ (l : List OpenDev) nd ns (t : AudioThread),
      (dumpInputDevs env l nd ns t).2.2.streamView = t.streamView := by
    intro l
    induction l with
    | nil => exact fun _ _ _ => rfl
    | cons adev l ih =>
      intro nd ns t
      unfold dumpInputDevs
      split
      · rfl
      · exact (ih _ _ _).trans (dumpDevStreams_streamView _ _ _ _ _)
  exact (hi _ _ _ _).trans (ho _ _ _ _)

theorem threadSetAecDump_streamView (env : Env) (t : AudioThread) (streamId start : Nat)
    (fd : Int) : (threadSetAecDump env t streamId start fd).1.streamView = t.streamView :=
  streamView_foldl _ (fun t adev => by
    split
    · rfl
    · exact streamView_foldl _ (fun t s => by split <;> rfl) _ _) _ _

theorem threadDrainStreamMsRemaining_streamView (env : Env) (t : AudioThread)
    (stream : CrasRstream) : (threadDrainStreamMsRemaining env t stream).1.streamView =
      t.streamView := by
  unfold threadDrainStreamMsRemaining
  split
  · rfl
  · dsimp only
    split <;> rfl

theorem threadAddOpenDev_streamView (t : AudioThread) (iodev : CrasIodev) :
    (threadAddOpenDev t iodev).1.streamView = t.streamView := by
  unfold threadAddOpenDev
  split
  · rfl
  · dsimp only
    split <;> rfl

theorem threadDevStartRamp_streamView (env : Env) (t : AudioThread) (iodev : CrasIodev)
    (request : Nat) : (threadDevStartRamp env t iodev request).1.streamView = t.streamView := by
  unfold threadDevStartRamp
  split <;> rfl

/-! ## Every command keeps the ownership invariant -/

theorem owned_handleThreadMessage (ho : Owned t) (env : Env) (msg : AudioThreadMsg) :
    Owned (handleThreadMessage env t msg).1 := by
  cases msg with
  | addStream stream devs =>
    show Owned (threadAddStream env t stream devs).1
    unfold threadAddStream
    dsimp only
    split <;> exact owned_appendStream ho env stream devs
  | disconnectStream stream dev =>
    show Owned (threadDisconnectStream t stream dev).1
    unfold threadDisconnectStream
    split
    · exact ho
    · exact ho.releases (releases_detachStreamFromDevs ho _ _)
  | addOpenDev dev => exact ho.of_streamView (threadAddOpenDev_streamView t dev)
  | rmOpenDev dev =>
    show Owned (threadRmOpenDev t dev).1
    unfold threadRmOpenDev
    split
    · exact ho
    · exact ho.releases (releases_devIoRmOpenDev ho _)
  | isDevOpen | stop | unknown => exact ho
  | dumpThreadInfo => exact ho.of_streamView (dumpThreadInfo_streamView env t)
  | drainStream stream =>
    show Owned (threadDrainStream env t stream).1
    have hm := ho.of_streamView (threadDrainStreamMsRemaining_streamView env t stream)
    unfold threadDrainStream
    dsimp only
    split
    · exact ho
    · split
      · exact hm.releases (releases_detachStreamFromDevs hm _ _)
      · exact hm
  | removeCallback | configGlobalRemix => exact ho.of_eq rfl rfl rfl
  | devStartRamp dev request =>
    exact ho.of_streamView (threadDevStartRamp_streamView env t dev request)
  | aecDump streamId start fd =>
    exact ho.of_streamView (threadSetAecDump_streamView env t streamId start fd)

/-- In every reachable state each held `dev_stream` is alive and held by one device, and none
is listed twice among the live ones. -/
theorem reachable_dev_streams_owned (h : Reachable t) : Owned t := by
  induction h with
  | init => exact owned_init
  | step env msg _ ih => exact owned_handleThreadMessage ih env msg

theorem dev_streams_owned_after_attach :
    Reachable outputAttachedRun ∧ Owned outputAttachedRun :=
  ⟨reachable_runThread _ _, reachable_dev_streams_owned (reachable_runThread _ _)⟩

/-! ## The `dev_stream` of a failed flush -/

theorem detachStream_unheld {ds : DevStream} (hl : ds ∈ t.liveDevStreams) (hn : ¬ Held t ds)
    (dev : CrasIodev) (stream : CrasRstream) :
    ds ∈ (detachStream t dev stream).liveDevStreams ∧ ¬ Held (detachStream t dev stream) ds := by
  refine ⟨?_, fun ⟨d, hd⟩ => hn ⟨d, ?_⟩⟩
  · unfold detachStream
    split
    · rename_i out hf
      refine (List.mem_erase_of_ne fun h => hn ⟨dev, ?_⟩).mpr hl
      exact h ▸ (findDevStream_some hf).1
    · exact hl
  · rw [detachStream_devStreams] at hd
    by_cases hdd : d = dev
    · subst hdd
      rw [Function.update_same] at hd
      exact List.mem_of_mem_filter hd
    · rwa [Function.update_noteq hdd] at hd

theorem detachStreamFromDevs_unheld (stream : CrasRstream) (ods : List OpenDev) :
    ∀ (t : AudioThread) {ds : DevStream}, ds ∈ t.liveDevStreams → ¬ Held t ds →
      ds ∈ (detachStreamFromDevs stream ods t).liveDevStreams := by
  induction ods with
  | nil => exact fun _ _ hl _ => hl
  | cons od ods ih =>
    intro t ds hl hn
    obtain ⟨hl', hn'⟩ := detachStream_unheld hl hn od.dev stream
    exact ih _ hl' hn'

theorem appendStreamLoop_skip (env : Env) (stream : CrasRstream) (l : List CrasIodev)
    (cb : Bool × Timespec) (t : AudioThread) (pre : List CrasIodev)
    (hpre : ∀ dev ∈ pre, dev ∉ (t.openDevs stream.direction).map OpenDev.dev ∨
      stream ∈ (t.devStreams dev).map DevStream.stream) :
    ∀ i, appendStreamLoop env stream i (pre ++ l) cb t =
      appendStreamLoop env stream (i + pre.length) l cb t := by
  induction pre with
  | nil => exact fun _ => rfl
  | cons dev pre ih =>
    intro i
    have hskip : ¬ ((findOpenDev (t.openDevs stream.direction) dev).isSome ∧
        findDevStream (t.devStreams dev) stream = none) := by
      rw [findOpenDev_isSome, findDevStream_eq_none]
      rcases hpre dev (List.mem_cons_self _ _) with h | h
      · exact fun hc => h hc.1
      · exact fun hc => hc.2 h
    rw [List.cons_append, appendStreamLoop, if_neg hskip,
      ih (fun d hd => hpre d (List.mem_cons_of_mem _ hd)), List.length_cons, Nat.add_right_comm,
      Nat.add_assoc]

/-- A failed `flush_buffer` breaks between `dev_stream_create` and `cras_iodev_add_stream`, so
the rollback misses the new `dev_stream`: it stays allocated, held by nothing. -/
theorem add_stream_leaks_dev_stream_on_flush_failure (env : Env) (t : AudioThread)
    (stream : CrasRstream) (pre : List CrasIodev) (d : CrasIodev) (post : List CrasIodev)
    (ho : Owned t) (hin : stream.direction = .input)
    (hpre : ∀ dev ∈ pre, dev ∉ (t.openDevs .input).map OpenDev.dev ∨
      stream ∈ (t.devStreams dev).map DevStream.stream)
    (hd : d ∈ (t.openDevs .input).map OpenDev.dev) (he : t.devStreams d = [])
    (hc : env.devStreamCreate pre.length = true) (hf : env.flushBuffer pre.length < 0) :
    (threadAddStream env t stream (pre ++ d :: post)).2 = env.flushBuffer pre.length ∧
    ∃ out ∈ (threadAddStream env t stream (pre ++ d :: post)).1.liveDevStreams,
      out ∉ t.liveDevStreams ∧ out.stream = stream ∧
      ¬ Held (threadAddStream env t stream (pre ++ d :: post)).1 out := by
  generalize hout : t.createdDevStream stream d
    (appendStreamCbTs env stream pre.length d (false, Timespec.zero) t).2 = out
  have hid : out.id = t.nextDevStreamId := hout ▸ rfl
  have hloop : appendStreamLoop env stream 0 (pre ++ d :: post) (false, Timespec.zero) t =
      ((t.devStreamCreate out).call (.flushBuffer d), env.flushBuffer pre.length) := by
    rw [appendStreamLoop_skip env stream _ _ t pre (hin ▸ hpre), Nat.zero_add, appendStreamLoop,
      if_pos ⟨findOpenDev_isSome.mpr (hin ▸ hd), by rw [he]; rfl⟩]
    simp only [appendStreamAttach, hc, if_true, hout, appendStreamFlush,
      AudioThread.devStreamCreate_devStreams, he, hin, and_self, if_pos hf]
  have hlive : out ∈ ((t.devStreamCreate out).call (.flushBuffer d)).liveDevStreams :=
    List.mem_append_right _ (List.mem_singleton_self _)
  have hfree : ¬ Held ((t.devStreamCreate out).call (.flushBuffer d)) out :=
    ho.not_held hid
  have hadd : threadAddStream env t stream (pre ++ d :: post) =
      (detachStreamFromDevs stream (t.openDevs stream.direction)
        ((t.devStreamCreate out).call (.flushBuffer d)), env.flushBuffer pre.length) := by
    simp only [threadAddStream, appendStream, hloop, ne_eq, if_pos hf.ne, if_pos hf]
    rfl
  rw [hadd]
  refine ⟨rfl, out, detachStreamFromDevs_unheld _ _ _ hlive hfree,
    fun h => Nat.lt_irrefl _ (hid ▸ ho.live_fresh out h), hout ▸ rfl, ?_⟩
  exact fun ⟨dev, hdev⟩ => hfree ⟨dev,
    ((releases_detachStreamFromDevs ((ho.devStreamCreate hid).call _) _ _).devStreams dev).subset hdev⟩

/-- One input device open, with no stream. -/
def inputOpenThread : AudioThread :=
  (handleThreadMessage Env.nominal AudioThread.init (.addOpenDev (CrasIodev.plain 1 .input))).1

/-- External layers whose `flush_buffer` fails with `-EIO`. -/
def flushFailEnv : Env := { Env.nominal with flushBuffer := fun _ => -5 }

theorem add_stream_leaks_on_single_input_device :
    Owned inputOpenThread ∧
    CrasIodev.plain 1 .input ∈ (inputOpenThread.openDevs .input).map OpenDev.dev ∧
    inputOpenThread.devStreams (CrasIodev.plain 1 .input) = [] ∧ flushFailEnv.flushBuffer 0 < 0 ∧
    (threadAddStream flushFailEnv inputOpenThread (CrasRstream.plain 2 .input)
      [CrasIodev.plain 1 .input]).2 = flushFailEnv.flushBuffer 0 ∧
    ∃ out ∈ (threadAddStream flushFailEnv inputOpenThread (CrasRstream.plain 2 .input)
        [CrasIodev.plain 1 .input]).1.liveDevStreams,
      out ∉ inputOpenThread.liveDevStreams ∧ out.stream = CrasRstream.plain 2 .input ∧
      ¬ Held (threadAddStream flushFailEnv inputOpenThread (CrasRstream.plain 2 .input)
        [CrasIodev.plain 1 .input]).1 out := by
  have ho : Owned inputOpenThread := owned_handleThreadMessage owned_init _ _
  exact ⟨ho, by decide, rfl, by decide,
    add_stream_leaks_dev_stream_on_flush_failure flushFailEnv inputOpenThread _ []
      (CrasIodev.plain 1 .input) [] ho rfl (fun _ h => absurd h (List.not_mem_nil _))
      (by decide) rfl rfl (by decide)⟩

/-! ## No other `dev_stream` is left behind -/

/-- Every `dev_stream` new in `t` is `stream`'s, held by an open device of its direction. -/
def NewHeld (stream : CrasRstream) (t₀ t : AudioThread) : Prop :=
  ∀ ds ∈ t.liveDevStreams, ds ∉ t₀.liveDevStreams → ds.stream = stream ∧
    ∃ dev ∈ (t.openDevs stream.direction).map OpenDev.dev, ds ∈ t.devStreams dev

theorem newHeld_appendStreamAttach {env : Env} (hf : ∀ i, 0 ≤ env.flushBuffer i)
    {stream : CrasRstream} {t₀ : AudioThread} (h : NewHeld stream t₀ t) (i : Nat)
    {dev : CrasIodev} (hod : dev ∈ (t.openDevs stream.direction).map OpenDev.dev)
    (cb : Bool × Timespec) :
    NewHeld stream t₀ (attachState (appendStreamAttach env stream i dev cb t)) := by
  unfold appendStreamAttach
  simp only
  split
  · generalize hout : t.createdDevStream stream dev _ = out
    obtain ⟨t₁, ht₁, hok | herr⟩ := appendStreamFlush_eq env stream i dev (t.devStreamCreate out)
    · have hl : t₁.liveDevStreams = t.liveDevStreams ++ [out] := by rcases ht₁ with rfl | rfl <;> rfl
      have hs : t₁.devStreams = t.devStreams := by rcases ht₁ with rfl | rfl <;> rfl
      have ho : t₁.openDevs = t.openDevs := by rcases ht₁ with rfl | rfl <;> rfl
      rw [hok]
      intro ds hds hnew
      simp only [attachState, appendStreamAlign_liveDevStreams, appendStreamAlign_openDevs,
        appendStreamAlign_devStreams, AudioThread.iodevAddStream_openDevs, ho] at hds ⊢
      change ds ∈ t₁.liveDevStreams at hds
      rw [hl] at hds
      rcases List.mem_append.mp hds with hds | hds
      · obtain ⟨hst, d, hd, hmem⟩ := h ds hds hnew
        exact ⟨hst, d, hd, mem_iodevAddStream.mpr (.inl (hs ▸ hmem))⟩
      · rw [List.mem_singleton.mp hds]
        exact ⟨hout ▸ rfl, dev, hod, mem_iodevAddStream.mpr (.inr ⟨rfl, rfl⟩)⟩
    · exact absurd herr.2 (not_lt.mpr (hf i))
  · exact h

theorem newHeld_appendStreamLoop {env : Env} (hf : ∀ i, 0 ≤ env.flushBuffer i)
    (stream : CrasRstream) (t₀ : AudioThread) (iodevs : List CrasIodev) :
    ∀ i cb t, NewHeld stream t₀ t →
      NewHeld stream t₀ (appendStreamLoop env stream i iodevs cb t).1 := by
  induction iodevs with
  | nil => exact fun _ _ _ h => h
  | cons dev iodevs ih =>
    intro i cb t h
    unfold appendStreamLoop
    split
    · rename_i hc
      have ha := newHeld_appendStreamAttach hf h i (findOpenDev_isSome.mp hc.1) cb
      split
      · rename_i t' cb' he
        rw [he] at ha
        exact ih _ _ _ ha
      · rename_i r he
        rw [he] at ha
        exact ha
    · exact ih _ _ _ h

theorem detachStream_destroys {dev : CrasIodev} {stream : CrasRstream} {ds : DevStream}
    (hu : ((t.devStreams dev).map DevStream.stream).Nodup) (hnd : t.liveDevStreams.Nodup)
    (hds : ds ∈ t.devStreams dev) (hs : ds.stream = stream) :
    ds ∉ (detachStream t dev stream).liveDevStreams := by
  unfold detachStream
  split
  · rename_i out hf
    obtain ⟨hmem, hout⟩ := findDevStream_some hf
    have : out = ds := List.inj_on_of_nodup_map hu hmem hds (hout.trans hs.symm)
    subst this
    exact hnd.not_mem_erase
  · rename_i hn
    exact absurd (List.mem_map_of_mem _ hds) (hs ▸ findDevStream_eq_none.mp hn)

theorem detachStreamFromDevs_destroys (stream : CrasRstream) (ods : List OpenDev)
    {dev : CrasIodev} {ds : DevStream} (hdev : dev ∈ ods.map OpenDev.dev)
    (hs : ds.stream = stream) :
    ∀ t, Owned t → ((t.devStreams dev).map DevStream.stream).Nodup → ds ∈ t.devStreams dev →
      ds ∉ (detachStreamFromDevs stream ods t).liveDevStreams := by
  induction ods with
  | nil => exact absurd hdev (List.not_mem_nil _)
  | cons od ods ih =>
    intro t ho hu hds
    have hr := releases_detachStream ho od.dev stream
    by_cases hd : od.dev = dev
    · subst hd
      exact fun h => detachStream_destroys hu ho.live_nodup hds hs
        ((releases_detachStreamFromDevs (ho.releases hr) stream ods).live.subset h)
    · have hdev' : dev ∈ ods.map OpenDev.dev := by
        rcases List.mem_cons.mp (List.map_cons _ _ _ ▸ hdev) with h | h
        · exact absurd h.symm hd
        · exact h
      have heq : (detachStream t od.dev stream).devStreams dev = t.devStreams dev := by
        rw [detachStream_devStreams, Function.update_noteq (Ne.symm hd)]
      exact ih hdev' _ (ho.releases hr) (heq ▸ hu) (heq ▸ hds)

/-- Without a flush failure, a failed `append_stream` destroys every `dev_stream` it created. -/
theorem appendStream_failure_live (env : Env) (t : AudioThread) (stream : CrasRstream)
    (iodevs : List CrasIodev) (hi : Invariant t) (ho : Owned t)
    (hf : ∀ i, 0 ≤ env.flushBuffer i) (h : (appendStream env t stream iodevs).2 ≠ 0) :
    ∀ ds ∈ (appendStream env t stream iodevs).1.liveDevStreams, ds ∈ t.liveDevStreams := by
  generalize hr : appendStreamLoop env stream 0 iodevs (false, Timespec.zero) t = r
  have hnew : NewHeld stream t r.1 :=
    hr ▸ newHeld_appendStreamLoop hf stream t iodevs 0 _ t fun _ h h' => absurd h h'
  have hor := owned_appendStreamLoop env stream iodevs 0 (false, Timespec.zero) t ho
  have hir := hi.attachesOnly (appendStreamLoop_attachesOnly env stream iodevs 0
    (false, Timespec.zero) t)
  rw [hr] at hor hir
  have hrc : r.2 ≠ 0 := fun h0 => h (by simp only [appendStream, hr, h0, ne_eq,
    not_true_eq_false, if_false])
  have hstate : (appendStream env t stream iodevs).1 =
      detachStreamFromDevs stream (r.1.openDevs stream.direction) r.1 := by
    simp only [appendStream, hr, if_pos hrc]
  intro ds hds
  rw [hstate] at hds
  by_contra hold
  have hrel := releases_detachStreamFromDevs hor stream (r.1.openDevs stream.direction)
  obtain ⟨hst, dev, hdev, hmem⟩ := hnew ds (hrel.live.subset hds) hold
  exact detachStreamFromDevs_destroys stream _ hdev hst r.1 hor (hir.devStreams_nodup dev) hmem hds

/-- Without a flush failure, each `dev_stream` alive after AddStream was before, or is held. -/
theorem add_stream_leaves_no_unheld_dev_stream (env : Env) (t : AudioThread)
    (stream : CrasRstream) (iodevs : List CrasIodev) (hi : Invariant t) (ho : Owned t)
    (hf : ∀ i, 0 ≤ env.flushBuffer i) :
    ∀ ds ∈ (threadAddStream env t stream iodevs).1.liveDevStreams,
      ds ∈ t.liveDevStreams ∨ Held (threadAddStream env t stream iodevs).1 ds := by
  have hstate : (threadAddStream env t stream iodevs).1 = (appendStream env t stream iodevs).1 := by
    unfold threadAddStream
    dsimp only
    split <;> rfl
  rw [hstate]
  intro ds hds
  by_cases hok : (appendStream env t stream iodevs).2 = 0
  · by_cases hold : ds ∈ t.liveDevStreams
    · exact .inl hold
    rw [appendStream_of_ok hok] at hds ⊢
    obtain ⟨-, dev, -, hmem⟩ := newHeld_appendStreamLoop hf stream t iodevs 0 _ t
      (fun _ h h' => absurd h h') ds hds hold
    exact .inr ⟨dev, hmem⟩
  · exact .inl (appendStream_failure_live env t stream iodevs hi ho hf hok ds hds)

theorem add_stream_after_attach_leaves_no_unheld_dev_stream :
    Invariant outputAttachedRun ∧ Owned outputAttachedRun ∧
    (∀ i, 0 ≤ Env.nominal.flushBuffer i) ∧
    ∀ ds ∈ (threadAddStream Env.nominal outputAttachedRun (CrasRstream.plain 5 .output)
        [CrasIodev.plain 1 .output]).1.liveDevStreams,
      ds ∈ outputAttachedRun.liveDevStreams ∨ Held (threadAddStream Env.nominal outputAttachedRun
        (CrasRstream.plain 5 .output) [CrasIodev.plain 1 .output]).1 ds := by
  have hi : Invariant outputAttachedRun := invariant_reachable (reachable_runThread _ _)
  have ho : Owned outputAttachedRun :=
    owned_handleThreadMessage (owned_handleThreadMessage owned_init _ _) _ _
  exact ⟨hi, ho, fun _ => le_refl 0, add_stream_leaves_no_unheld_dev_stream Env.nominal
    outputAttachedRun _ _ hi ho fun _ => le_refl 0⟩

/-! ## A failed AddStream -/

/-- AddStream of an input stream on the one open input device, whose `flush_buffer` fails:
the call fails and the device's list is empty again, but the `dev_stream` created for it lives. -/
theorem add_stream_flush_failure_keeps_created_dev_stream :
    Reachable inputOpenThread ∧
    (threadAddStream flushFailEnv inputOpenThread (CrasRstream.plain 2 .input)
      [CrasIodev.plain 1 .input]).2 = -5 ∧
    (threadAddStream flushFailEnv inputOpenThread (CrasRstream.plain 2 .input)
      [CrasIodev.plain 1 .input]).1.devStreams (CrasIodev.plain 1 .input) = [] ∧
    ∃ ds ∈ (threadAddStream flushFailEnv inputOpenThread (CrasRstream.plain 2 .input)
        [CrasIodev.plain 1 .input]).1.liveDevStreams, ds ∉ inputOpenThread.liveDevStreams :=
  ⟨.step _ _ .init, by decide, by decide, by decide⟩

end CrasAudio

import CrasAudio.State

/-! `append_stream`: attaching a stream to an array of devices, and its rollback on failure. -/
namespace CrasAudio

/-- The scan of `dev->streams` in `append_stream` for the earliest `next_cb_ts`. -/
def earliestCbTs (nextCbTs : DevStream → Option Timespec) :
    List DevStream → Bool × Timespec → Bool × Timespec
  | [], cb => cb
  | out :: outs, (cbTsSet, initCbTs) =>
    match nextCbTs out with
    | some streamTs =>
      if !cbTsSet || timespecAfter initCbTs streamTs then earliestCbTs nextCbTs outs (true, streamTs)
      else earliestCbTs nextCbTs outs (cbTsSet, initCbTs)
    | none => earliestCbTs nextCbTs outs (cbTsSet, initCbTs)

/-- The end of the loop body: an input stream behind a first one takes its clamped offsets. -/
def appendStreamAlign (stream : CrasRstream) (dev : CrasIodev) (out : DevStream)
    (t : AudioThread) : AudioThread :=
  match t.devStreams dev with
  | first :: _ =>
    if stream.direction = .input ∧ first ≠ out then
      let offset := t.devStreamOffset first
      let t := t.iodevStreamWritten out
        (if offset > stream.cbThreshold then stream.cbThreshold else offset)
      let offset := t.rstreamDevOffset first.stream dev.idx
      t.rstreamDevOffsetUpdate stream
        (if offset > stream.cbThreshold then stream.cbThreshold else offset) dev.idx
    else t
  | [] => t

/-- `cb_ts_set` and `init_cb_ts` once `append_stream` has looked at the `i`-th device. -/
def appendStreamCbTs (env : Env) (stream : CrasRstream) (i : Nat) (dev : CrasIodev)
    (cb : Bool × Timespec) (t : AudioThread) : Bool × Timespec :=
  let cb := if stream.direction = .output ∧ t.devStreams dev ≠ [] then
    earliestCbTs env.nextCbTs (t.devStreams dev) cb else cb
  (cb.1, if cb.1 then cb.2 else env.clock i)

/-- The flush of the first input stream's device, breaking the loop on a negative count. -/
def appendStreamFlush (env : Env) (stream : CrasRstream) (i : Nat) (dev : CrasIodev)
    (t : AudioThread) : Except (AudioThread × Int) AudioThread :=
  if stream.direction = .input ∧ t.devStreams dev = [] then
    let t := t.call (.flushBuffer dev)
    if env.flushBuffer i < 0 then .error (t, env.flushBuffer i) else .ok t
  else .ok t

/-- The `append_stream` loop body at an open device that does not carry `stream`. -/
def appendStreamAttach (env : Env) (stream : CrasRstream) (i : Nat) (dev : CrasIodev)
    (cb : Bool × Timespec) (t : AudioThread) :
    Except (AudioThread × Int) (AudioThread × (Bool × Timespec)) :=
  let cb := appendStreamCbTs env stream i dev cb t
  if env.devStreamCreate i then
    let out := t.createdDevStream stream dev cb.2
    match appendStreamFlush env stream i dev (t.devStreamCreate out) with
    | .ok t => .ok (appendStreamAlign stream dev out (t.iodevAddStream dev out), cb)
    | .error r => .error r
  else .error (t, -einval)

/-- The loop of `append_stream` over `iodevs`, from the `i`-th device on. -/
def appendStreamLoop (env : Env) (stream : CrasRstream) :
    Nat → List CrasIodev → Bool × Timespec → AudioThread → AudioThread × Int
  | _, [], _, t => (t, 0)
  | i, dev :: iodevs, cb, t =>
    if (findOpenDev (t.openDevs stream.direction) dev).isSome ∧
        findDevStream (t.devStreams dev) stream = none then
      match appendStreamAttach env stream i dev cb t with
      | .ok (t, cb) => appendStreamLoop env stream (i + 1) iodevs cb t
      | .error r => r
    else appendStreamLoop env stream (i + 1) iodevs cb t

/-- The rollback of `append_stream` on one device: unbind and destroy `stream`'s `dev_stream`. -/
def detachStream (t : AudioThread) (dev : CrasIodev) (stream : CrasRstream) : AudioThread :=
  match findDevStream (t.devStreams dev) stream with
  | some out => (t.iodevRmStream dev stream).devStreamDestroy out
  | none => t

/-- The rollback loop of `append_stream` over a list of open devices. -/
def detachStreamFromDevs (stream : CrasRstream) (ods : List OpenDev) (t : AudioThread) :
    AudioThread :=
  ods.foldl (fun t od => detachStream t od.dev stream) t

/-- `append_stream`: attach `stream` to the open devices of `iodevs`; roll back on a failure. -/
def appendStream (env : Env) (t : AudioThread) (stream : CrasRstream)
    (iodevs : List CrasIodev) : AudioThread × Int :=
  let r := appendStreamLoop env stream 0 iodevs (false, Timespec.zero) t
  if r.2 ≠ 0 then (detachStreamFromDevs stream (r.1.openDevs stream.direction) r.1, r.2) else r

/-! ## What the loop changes -/

/-- `t'` is `t` with at most one `dev_stream` of `stream` appended to each open device. -/
def AttachesOnly (stream : CrasRstream) (t t' : AudioThread) : Prop :=
  t'.openDevs = t.openDevs ∧ ∀ dev, t'.devStreams dev = t.devStreams dev ∨
    ∃ out, out.stream = stream ∧ stream ∉ (t.devStreams dev).map DevStream.stream ∧
      dev ∈ (t.openDevs stream.direction).map OpenDev.dev ∧
      t'.devStreams dev = t.devStreams dev ++ [out]

namespace AttachesOnly

variable {stream : CrasRstream} {t t' t'' : AudioThread}

theorem of_eq (ho : t'.openDevs = t.openDevs) (hs : t'.devStreams = t.devStreams) :
    AttachesOnly stream t t' :=
  ⟨ho, fun _ => Or.inl (congrFun hs _)⟩

theorem congr (h : AttachesOnly stream t t') (ho : t''.openDevs = t'.openDevs)
    (hs : t''.devStreams = t'.devStreams) : AttachesOnly stream t t'' :=
  ⟨ho.trans h.1, fun dev => hs ▸ h.2 dev⟩

theorem trans (h : AttachesOnly stream t t') (h' : AttachesOnly stream t' t'') :
    AttachesOnly stream t t'' := by
  refine ⟨h'.1.trans h.1, fun dev => ?_⟩
  rcases h.2 dev with he | ⟨out, hout, hn, ho, he⟩ <;>
    rcases h'.2 dev with he' | ⟨out', hout', hn', ho', he'⟩
  · exact Or.inl (he'.trans he)
  · rw [he, h.1] at *
    exact Or.inr ⟨out', hout', hn', ho', he'⟩
  · exact Or.inr ⟨out, hout, hn, ho, he'.trans he⟩
  · exact absurd (by simp [he, hout]) hn'

end AttachesOnly

theorem appendStreamAlign_openDevs (stream : CrasRstream) (dev : CrasIodev) (out : DevStream)
    (t : AudioThread) : (appendStreamAlign stream dev out t).openDevs = t.openDevs := by
  unfold appendStreamAlign
  split <;> (try split) <;> rfl

theorem appendStreamAlign_devStreams (stream : CrasRstream) (dev : CrasIodev) (out : DevStream)
    (t : AudioThread) : (appendStreamAlign stream dev out t).devStreams = t.devStreams := by
  unfold appendStreamAlign
  split <;> (try split) <;> rfl

/-- The state an attach step leaves, whether the loop goes on or breaks. -/
def attachState : Except (AudioThread × Int) (AudioThread × (Bool × Timespec)) → AudioThread
  | .ok r => r.1
  | .error r => r.1

theorem appendStreamFlush_ok {env : Env} {stream : CrasRstream} {i : Nat} {dev : CrasIodev}
    {t t' : AudioThread} (h : appendStreamFlush env stream i dev t = .ok t') :
    t'.openDevs = t.openDevs ∧ t'.devStreams = t.devStreams := by
  unfold appendStreamFlush at h
  split at h
  · split at h
    · cases h
    · cases h; exact ⟨rfl, rfl⟩
  · cases h; exact ⟨rfl, rfl⟩

theorem appendStreamFlush_error {env : Env} {stream : CrasRstream} {i : Nat} {dev : CrasIodev}
    {t : AudioThread} {r : AudioThread × Int} (h : appendStreamFlush env stream i dev t = .error r) :
    r.1.openDevs = t.openDevs ∧ r.1.devStreams = t.devStreams := by
  unfold appendStreamFlush at h
  split at h
  · split at h
    · cases h; exact ⟨rfl, rfl⟩
    · cases h
  · cases h

theorem appendStreamAttach_attachesOnly (env : Env) (stream : CrasRstream) (i : Nat)
    (dev : CrasIodev) (cb : Bool × Timespec) (t : AudioThread)
    (ho : dev ∈ (t.openDevs stream.direction).map OpenDev.dev)
    (hn : stream ∉ (t.devStreams dev).map DevStream.stream) :
    AttachesOnly stream t (attachState (appendStreamAttach env stream i dev cb t)) := by
  unfold appendStreamAttach
  simp only
  split
  · split
    · rename_i t' hf
      obtain ⟨ho', hs'⟩ := appendStreamFlush_ok hf
      refine ⟨by simp [attachState, appendStreamAlign_openDevs, AudioThread.iodevAddStream, ho'],
        fun d => ?_⟩
      simp only [attachState, appendStreamAlign_devStreams, AudioThread.iodevAddStream,
        AudioThread.setDevStreams_devStreams, hs', AudioThread.devStreamCreate_devStreams]
      by_cases hd : d = dev
      · subst hd
        exact Or.inr ⟨t.createdDevStream stream d (appendStreamCbTs env stream i d cb t).2, rfl,
          hn, ho, by simp⟩
      · exact Or.inl (Function.update_noteq hd _ _)
    · rename_i r hf
      obtain ⟨ho', hs'⟩ := appendStreamFlush_error hf
      exact AttachesOnly.of_eq ho' hs'
  · exact AttachesOnly.of_eq rfl rfl

theorem appendStreamLoop_attachesOnly (env : Env) (stream : CrasRstream) (iodevs : List CrasIodev) :
    ∀ i cb t, AttachesOnly stream t (appendStreamLoop env stream i iodevs cb t).1 := by
  induction iodevs with
  | nil => exact fun _ _ t => AttachesOnly.of_eq rfl rfl
  | cons dev iodevs ih =>
    intro i cb t
    unfold appendStreamLoop
    split
    · rename_i hc
      have ho := findOpenDev_isSome.mp hc.1
      have hn := findDevStream_eq_none.mp hc.2
      have ha := appendStreamAttach_attachesOnly env stream i dev cb t ho hn
      split
      · rename_i t' cb' he
        rw [he] at ha
        exact ha.trans (ih _ _ _)
      · rename_i r he
        rw [he] at ha
        exact ha
    · exact ih _ _ _

/-! ## What the rollback changes -/

theorem detachStream_openDevs (t : AudioThread) (dev : CrasIodev) (stream : CrasRstream) :
    (detachStream t dev stream).openDevs = t.openDevs := by
  unfold detachStream
  split <;> rfl

theorem detachStream_devStreams (t : AudioThread) (dev : CrasIodev) (stream : CrasRstream) :
    (detachStream t dev stream).devStreams = Function.update t.devStreams dev
      ((t.devStreams dev).filter (fun ds => ds.stream ≠ stream)) := by
  unfold detachStream
  split
  · rfl
  · rename_i hn
    have hn := findDevStream_eq_none.mp hn
    rw [List.filter_eq_self.mpr fun ds hds => by
      simp only [ne_eq, decide_eq_true_eq]
      rintro rfl
      exact hn (List.mem_map_of_mem _ hds)]
    exact (Function.update_eq_self _ _).symm

theorem detachStreamFromDevs_openDevs (stream : CrasRstream) (ods : List OpenDev)
    (t : AudioThread) : (detachStreamFromDevs stream ods t).openDevs = t.openDevs := by
  induction ods generalizing t with
  | nil => rfl
  | cons od ods ih => exact (ih _).trans (detachStream_openDevs _ _ _)

theorem detachStreamFromDevs_devStreams (stream : CrasRstream) (ods : List OpenDev)
    (t : AudioThread) (dev : CrasIodev) :
    (detachStreamFromDevs stream ods t).devStreams dev =
      if dev ∈ ods.map OpenDev.dev then (t.devStreams dev).filter (fun ds => ds.stream ≠ stream)
      else t.devStreams dev := by
  induction ods generalizing t with
  | nil => simp [detachStreamFromDevs]
  | cons od ods ih =>
    simp only [detachStreamFromDevs, List.foldl_cons] at ih ⊢
    rw [ih, detachStream_devStreams]
    by_cases hd : dev = od.dev
    · subst hd
      simp [List.filter_filter]
    · simp [Function.update_noteq hd, hd]

/-- `append_stream` succeeds with only attachments, or fails and unbinds `stream`. -/
theorem appendStream_effect (env : Env) (t : AudioThread) (stream : CrasRstream)
    (iodevs : List CrasIodev) :
    ((appendStream env t stream iodevs).2 = 0 →
      AttachesOnly stream t (appendStream env t stream iodevs).1) ∧
    ((appendStream env t stream iodevs).2 ≠ 0 →
      (appendStream env t stream iodevs).1.openDevs = t.openDevs ∧
      ∀ dev, (appendStream env t stream iodevs).1.devStreams dev =
        if dev ∈ (t.openDevs stream.direction).map OpenDev.dev then
          (t.devStreams dev).filter (fun ds => ds.stream ≠ stream)
        else t.devStreams dev) := by
  have ha := appendStreamLoop_attachesOnly env stream iodevs 0 (false, Timespec.zero) t
  unfold appendStream
  generalize appendStreamLoop env stream 0 iodevs (false, Timespec.zero) t = r at ha ⊢
  by_cases hrc : r.2 = 0
  · rw [if_neg (not_not.mpr hrc)]
    exact ⟨fun _ => ha, fun h => absurd hrc h⟩
  · rw [if_pos hrc]
    refine ⟨fun h => absurd h hrc, fun _ => ?_⟩
    rw [detachStreamFromDevs_openDevs, ha.1]
    refine ⟨rfl, fun dev => ?_⟩
    rw [detachStreamFromDevs_devStreams]
    by_cases ho : dev ∈ (t.openDevs stream.direction).map OpenDev.dev
    · rw [if_pos ho, if_pos ho]
      rcases ha.2 dev with he | ⟨out, hout, -, -, he⟩
      · rw [he]
      · simp [he, hout]
    · rw [if_neg ho, if_neg ho]
      rcases ha.2 dev with he | ⟨-, -, -, ho', -⟩
      · exact he
      · exact absurd ho' ho

/-! ## Where an input stream is attached -/

section Attach

variable {env : Env} {stream : CrasRstream} {i : Nat} {dev : CrasIodev} {cb : Bool × Timespec}
  {t : AudioThread}

end Attach

/-- What a stretch of the `append_stream` loop leaves on a device `d` it does not attach to. -/
structure KeepsDev (stream : CrasRstream) (d : CrasIodev) (t t' : AudioThread) : Prop where
  openDevs : t'.openDevs = t.openDevs
  nextId : t.nextDevStreamId ≤ t'.nextDevStreamId
  devStreams : t'.devStreams d = t.devStreams d
  devStreamOffset : ∀ o, t'.devStreamOffset o = t.devStreamOffset o ∨
    o.stream = stream ∧ t.nextDevStreamId ≤ o.id ∧ o.id < t'.nextDevStreamId
  rstreamDevOffset : ∀ x, x ≠ stream → t'.rstreamDevOffset x = t.rstreamDevOffset x
  ownOffset : t'.rstreamDevOffset stream d.idx = t.rstreamDevOffset stream d.idx
  calls : ∃ new, t'.calls = t.calls ++ new ∧ new.count (.flushBuffer d) = 0

namespace KeepsDev

variable {stream : CrasRstream} {d : CrasIodev} {t t' t'' : AudioThread}

theorem refl (t : AudioThread) : KeepsDev stream d t t :=
  ⟨rfl, le_refl _, rfl, fun _ => Or.inl rfl, fun _ _ => rfl, rfl, ⟨[], by simp, rfl⟩⟩

theorem trans (h : KeepsDev stream d t t') (h' : KeepsDev stream d t' t'') :
    KeepsDev stream d t t'' where
  openDevs := h'.openDevs.trans h.openDevs
  nextId := h.nextId.trans h'.nextId
  devStreams := h'.devStreams.trans h.devStreams
  devStreamOffset o := by
    have := h.nextId
    have := h'.nextId
    rcases h.devStreamOffset o with e | ⟨hs, h1, h2⟩ <;>
      rcases h'.devStreamOffset o with e' | ⟨hs', h1', h2'⟩
    · exact Or.inl (e'.trans e)
    · exact Or.inr ⟨hs', by omega, h2'⟩
    · exact Or.inr ⟨hs, h1, by omega⟩
    · exact Or.inr ⟨hs, h1, h2'⟩
  rstreamDevOffset x hx := (h'.rstreamDevOffset x hx).trans (h.rstreamDevOffset x hx)
  ownOffset := h'.ownOffset.trans h.ownOffset
  calls := by
    obtain ⟨n, hn, hc⟩ := h.calls
    obtain ⟨n', hn', hc'⟩ := h'.calls
    exact ⟨n ++ n', by rw [hn', hn, List.append_assoc], by rw [List.count_append, hc, hc']⟩

end KeepsDev

namespace AttachedTo

variable {stream : CrasRstream} {d : CrasIodev} {t t₁ t₂ : AudioThread}

end AttachedTo

section Step

variable {env : Env} {stream : CrasRstream} {i : Nat} {dev d : CrasIodev} {cb : Bool × Timespec}
  {t : AudioThread}

end Step

section Loop

variable (env : Env) {stream : CrasRstream} (d : CrasIodev)

end Loop

theorem appendStream_of_ok {env : Env} {t : AudioThread} {stream : CrasRstream}
    {iodevs : List CrasIodev} (h : (appendStream env t stream iodevs).2 = 0) :
    appendStream env t stream iodevs = appendStreamLoop env stream 0 iodevs (false, Timespec.zero) t := by
  unfold appendStream at h ⊢
  by_cases hrc : (appendStreamLoop env stream 0 iodevs (false, Timespec.zero) t).2 = 0
  · rw [if_neg (not_not.mpr hrc)]
  · rw [if_pos hrc] at h
    exact absurd h hrc

end CrasAudio

import CrasAudio.AppendStream

/-! The handlers of the thread's commands and the dispatch of one command read from the
controller. -/
namespace CrasAudio

/-! ## Open devices -/

/-- `thread_add_open_dev`: refuse an open device, pad an output one with zeros, append it. -/
def threadAddOpenDev (t : AudioThread) (iodev : CrasIodev) : AudioThread × Int :=
  if (findOpenDev (t.openDevs iodev.direction) iodev).isSome then (t, -eexist)
  else
    let t := if iodev.direction = .output then
      t.call (.fillOdevZeros iodev iodev.minBufferLevel) else t
    (t.setOpenDevs iodev.direction (t.openDevs iodev.direction ++ [⟨iodev, Timespec.zero⟩]), 0)

/-- Modelled from the spec: `dev_io_rm_open_dev` unlinks `adev`, destroying its `dev_stream`s. -/
def devIoRmOpenDev (t : AudioThread) (adev : OpenDev) : AudioThread :=
  let dir := adev.dev.direction
  let t := (t.devStreams adev.dev).foldl (fun t ds => t.devStreamDestroy ds) t
  (t.setOpenDevs dir ((t.openDevs dir).erase adev)).setDevStreams adev.dev []

/-- `thread_rm_open_dev`. -/
def threadRmOpenDev (t : AudioThread) (iodev : CrasIodev) : AudioThread × Int :=
  match findOpenDev (t.openDevs iodev.direction) iodev with
  | none => (t, -einval)
  | some adev => (devIoRmOpenDev t adev, 0)

/-- `thread_is_dev_open`. -/
def threadIsDevOpen (t : AudioThread) (iodev : CrasIodev) : Int :=
  if (findOpenDev (t.openDevs iodev.direction) iodev).isSome then 1 else 0

/-- `thread_dev_start_ramp`: only an open device is ramped. -/
def threadDevStartRamp (env : Env) (t : AudioThread) (iodev : CrasIodev) (request : Nat) :
    AudioThread × Int :=
  match findOpenDev (t.openDevs iodev.direction) iodev with
  | none => (t, -einval)
  | some _ => (t.call (.startRamp iodev request), env.startRamp iodev request)

/-! ## Streams -/

/-- `thread_find_stream`: whether `rstream` is attached to an open device of its direction. -/
def threadFindStream (t : AudioThread) (rstream : CrasRstream) : Bool :=
  (t.openDevs rstream.direction).any fun od =>
    (t.devStreams od.dev).any fun s => s.stream = rstream

/-- Modelled from the spec: `dev_io_remove_stream` unbinds `stream` from `dev`, or all if NULL. -/
def devIoRemoveStream (ods : List OpenDev) (stream : CrasRstream) (dev : Option CrasIodev)
    (t : AudioThread) : AudioThread × Int :=
  (detachStreamFromDevs stream (ods.filter fun od => dev.all (· = od.dev)) t, 0)

/-- `thread_disconnect_stream`. -/
def threadDisconnectStream (t : AudioThread) (stream : CrasRstream) (dev : Option CrasIodev) :
    AudioThread × Int :=
  if !threadFindStream t stream then (t, 0)
  else devIoRemoveStream (t.openDevs stream.direction) stream dev t

/-- `thread_drain_stream_ms_remaining`: an output stream with frames left is marked draining. -/
def threadDrainStreamMsRemaining (env : Env) (t : AudioThread) (rstream : CrasRstream) :
    AudioThread × Int :=
  if rstream.direction ≠ .output then (t, 0)
  else
    let frInBuff := env.framesInShm rstream
    if frInBuff ≤ 0 then (t, 0)
    else ({ t with draining := Function.update t.draining rstream true },
      int32 (1 + crasFramesToMs frInBuff.toNat rstream.format.frameRate))

/-- `thread_drain_stream`: a stream with nothing left to drain is detached everywhere. -/
def threadDrainStream (env : Env) (t : AudioThread) (rstream : CrasRstream) :
    AudioThread × Int :=
  if !threadFindStream t rstream then (t, 0)
  else
    let r := threadDrainStreamMsRemaining env t rstream
    if r.2 = 0 then ((devIoRemoveStream (r.1.openDevs rstream.direction) rstream none r.1).1, r.2)
    else r

/-- `thread_add_stream`. -/
def threadAddStream (env : Env) (t : AudioThread) (stream : CrasRstream)
    (iodevs : List CrasIodev) : AudioThread × Int :=
  let r := appendStream env t stream iodevs
  if r.2 < 0 then r else (r.1, 0)

/-- `thread_set_aec_dump`: forward to every stream `streamId` on an open input device. -/
def threadSetAecDump (env : Env) (t : AudioThread) (streamId start : Nat) (fd : Int) :
    AudioThread × Int :=
  ((t.openDevs .input).foldl (fun t adev =>
    if !env.iodevIsOpen adev.dev then t
    else (t.devStreams adev.dev).foldl (fun t s =>
      if !s.stream.hasApmList || s.stream.streamId ≠ streamId then t
      else t.call (.setAecDump adev.dev s.stream start fd)) t) t, 0)

/-! ## Debug dump -/

/-- `append_dev_dump_info`. -/
def appendDevDumpInfo (env : Env) (adev : OpenDev) : AudioDevDebugInfo where
  devName := adev.dev.name
  bufferSize := adev.dev.bufferSize
  minBufferLevel := adev.dev.minBufferLevel
  minCbLevel := adev.dev.minCbLevel
  maxCbLevel := adev.dev.maxCbLevel
  direction := adev.dev.direction
  numUnderruns := env.numUnderruns adev.dev
  numSevereUnderruns := env.numSevereUnderruns adev.dev
  highestHwLevel := env.highestHwLevel adev.dev
  frameRate := (adev.dev.extFormat.map CrasAudioFormat.frameRate).getD 0
  numChannels := (adev.dev.extFormat.map CrasAudioFormat.numChannels).getD 0

/-- Write `info->devs[index]`. -/
def AudioThread.writeDevDumpInfo (t : AudioThread) (index : Nat) (di : AudioDevDebugInfo) :
    AudioThread :=
  { t with debugInfo := { t.debugInfo with devs := Function.update t.debugInfo.devs index di } }

/-- `append_stream_dump_info`: fill `info->streams[index]`, and reset `longest_wake`. -/
def appendStreamDumpInfo (env : Env) (t : AudioThread) (stream : DevStream) (devIdx index : Nat) :
    AudioThread :=
  let si : AudioStreamDebugInfo :=
    { streamId := stream.stream.streamId, devIdx, direction := stream.stream.direction,
      streamType := stream.stream.streamType, bufferFrames := stream.stream.bufferFrames,
      cbThreshold := stream.stream.cbThreshold, frameRate := stream.stream.format.frameRate,
      numChannels := stream.stream.format.numChannels,
      channelLayout := stream.stream.format.channelLayout,
      longestFetch := env.longestFetch stream.stream,
      numOverruns := env.numOverruns stream.stream, effects := env.effects stream.stream }
  { t with debugInfo := { t.debugInfo with streams := Function.update t.debugInfo.streams index si },
           longestWake := Timespec.zero }

/-- The dump's loop over one device's streams; returns the new `num_streams`. -/
def dumpDevStreams (env : Env) (devIdx : Nat) :
    List DevStream → Nat → AudioThread → Nat × AudioThread
  | [], numStreams, t => (numStreams, t)
  | curr :: rest, numStreams, t =>
    if numStreams = env.maxDebugStreams then (numStreams, t)
    else dumpDevStreams env devIdx rest (numStreams + 1)
      (appendStreamDumpInfo env t curr devIdx numStreams)

/-- The dump loop over the output devices, stopping after listing the last one that fits. -/
def dumpOutputDevs (env : Env) :
    List OpenDev → Nat → Nat → AudioThread → Nat × Nat × AudioThread
  | [], numDevs, numStreams, t => (numDevs, numStreams, t)
  | adev :: rest, numDevs, numStreams, t =>
    let t := t.writeDevDumpInfo numDevs (appendDevDumpInfo env adev)
    if numDevs + 1 = env.maxDebugDevs then (numDevs + 1, numStreams, t)
    else
      let r := dumpDevStreams env adev.dev.idx (t.devStreams adev.dev) numStreams t
      dumpOutputDevs env rest (numDevs + 1) r.1 r.2

/-- The dump loop over the input devices, stopping at `MAX_DEBUG_DEVS`. -/
def dumpInputDevs (env : Env) :
    List OpenDev → Nat → Nat → AudioThread → Nat × Nat × AudioThread
  | [], numDevs, numStreams, t => (numDevs, numStreams, t)
  | adev :: rest, numDevs, numStreams, t =>
    if numDevs = env.maxDebugDevs then (numDevs, numStreams, t)
    else
      let t := t.writeDevDumpInfo numDevs (appendDevDumpInfo env adev)
      let r := dumpDevStreams env adev.dev.idx (t.devStreams adev.dev) numStreams t
      dumpInputDevs env rest (numDevs + 1) r.1 r.2

/-- The AUDIO_THREAD_DUMP_THREAD_INFO case: output devices first, then input devices. -/
def dumpThreadInfo (env : Env) (t : AudioThread) : AudioThread :=
  let r := dumpOutputDevs env (t.openDevs .output) 0 0 t
  let r := dumpInputDevs env (t.openDevs .input) r.1 r.2.1 r.2.2
  { r.2.2 with debugInfo := { r.2.2.debugInfo with numDevs := r.1, numStreams := r.2.1 } }

/-! ## Dispatch -/

/-- A command read from `to_thread_fds`, with its pointers resolved. -/
inductive AudioThreadMsg
  | addOpenDev (dev : CrasIodev)
  | rmOpenDev (dev : CrasIodev)
  | isDevOpen (dev : CrasIodev)
  | addStream (stream : CrasRstream) (devs : List CrasIodev)
  | disconnectStream (stream : CrasRstream) (dev : Option CrasIodev)
  | stop
  | dumpThreadInfo
  | drainStream (stream : CrasRstream)
  | configGlobalRemix (fmtConv : Nat)
  | devStartRamp (dev : CrasIodev) (request : Nat)
  | removeCallback (fd : Int)
  | aecDump (streamId start : Nat) (fd : Int)
  | unknown (id : Nat)
  deriving DecidableEq, Repr

/-- What the thread writes back: an `int` result, or the old remix converter's pointer. -/
inductive Reply
  | rc (ret : Int)
  | ptr (conv : Nat)
  deriving DecidableEq, Repr

/-- The `switch (msg->id)` of `handle_playback_thread_message`: the new state and the reply. -/
def handleThreadMessage (env : Env) (t : AudioThread) : AudioThreadMsg → AudioThread × Reply
  | .addStream stream devs =>
    let r := threadAddStream env t stream devs
    (r.1, .rc r.2)
  | .disconnectStream stream dev =>
    let r := threadDisconnectStream t stream dev
    (r.1, .rc r.2)
  | .addOpenDev dev =>
    let r := threadAddOpenDev t dev
    (r.1, .rc r.2)
  | .rmOpenDev dev =>
    let r := threadRmOpenDev t dev
    (r.1, .rc r.2)
  | .isDevOpen dev => (t, .rc (threadIsDevOpen t dev))
  | .stop => (t, .rc 0)
  | .dumpThreadInfo => (dumpThreadInfo env t, .rc 0)
  | .drainStream stream =>
    let r := threadDrainStream env t stream
    (r.1, .rc r.2)
  | .removeCallback fd =>
    ({ t with iodevCallbacks := audioThreadRmCallback fd t.iodevCallbacks }, .rc 0)
  | .configGlobalRemix fmtConv => ({ t with remixConverter := fmtConv }, .ptr t.remixConverter)
  | .devStartRamp dev request =>
    let r := threadDevStartRamp env t dev request
    (r.1, .rc r.2)
  | .aecDump streamId start fd =>
    let r := threadSetAecDump env t streamId start fd
    (r.1, .rc r.2)
  | .unknown _ => (t, .rc (-einval))

/-- The states reached from `audio_thread_create` by handling commands. -/
inductive Reachable : AudioThread → Prop
  | init : Reachable AudioThread.init
  | step {t : AudioThread} (env : Env) (msg : AudioThreadMsg) :
      Reachable t → Reachable (handleThreadMessage env t msg).1

/-- The state after handling `msgs` from `audio_thread_create`'s, with the answers `env`. -/
def runThread (env : Env) (msgs : List AudioThreadMsg) : AudioThread :=
  msgs.foldl (fun t msg => (handleThreadMessage env t msg).1) AudioThread.init

theorem reachable_foldl (env : Env) (msgs : List AudioThreadMsg) {t : AudioThread}
    (h : Reachable t) : Reachable (msgs.foldl (fun t msg => (handleThreadMessage env t msg).1) t) := by
  induction msgs generalizing t with
  | nil => exact h
  | cons msg msgs ih => exact ih (h.step env msg)

theorem reachable_runThread (env : Env) (msgs : List AudioThreadMsg) :
    Reachable (runThread env msgs) :=
  reachable_foldl env msgs .init

/-! ## What a command leaves alone -/

namespace AudioThread

/-- The fields the device and stream handlers leave alone. -/
def loopView (t : AudioThread) : (Nat → PollFd) × Nat × List IodevCallback × Nat :=
  (t.pollfds, t.numPollfds, t.iodevCallbacks, t.remixConverter)

variable (t : AudioThread)

@[simp] theorem setOpenDevs_loopView (dir : CrasStreamDirection) (l : List OpenDev) :
    (t.setOpenDevs dir l).loopView = t.loopView := rfl

@[simp] theorem setDevStreams_loopView (dev : CrasIodev) (l : List DevStream) :
    (t.setDevStreams dev l).loopView = t.loopView := rfl

@[simp] theorem call_loopView (c : ExtCall) : (t.call c).loopView = t.loopView := rfl

@[simp] theorem devStreamDestroy_loopView (out : DevStream) :
    (t.devStreamDestroy out).loopView = t.loopView := rfl

@[simp] theorem writeDevDumpInfo_loopView (index : Nat) (di : AudioDevDebugInfo) :
    (t.writeDevDumpInfo index di).loopView = t.loopView := rfl

end AudioThread

theorem loopView_foldl {α : Type} (f : AudioThread → α → AudioThread)
    (hf : ∀ t a, (f t a).loopView = t.loopView) (l : List α) (t : AudioThread) :
    (l.foldl f t).loopView = t.loopView := by
  induction l generalizing t with
  | nil => rfl
  | cons a l ih => exact (ih _).trans (hf t a)

theorem appendStreamFlush_loopView {env : Env} {stream : CrasRstream} {i : Nat}
    {dev : CrasIodev} {t : AudioThread} :
    (∀ t', appendStreamFlush env stream i dev t = .ok t' → t'.loopView = t.loopView) ∧
    (∀ r, appendStreamFlush env stream i dev t = .error r → r.1.loopView = t.loopView) := by
  unfold appendStreamFlush
  split
  · split <;> exact ⟨fun _ h => by cases h <;> rfl, fun _ h => by cases h <;> rfl⟩
  · exact ⟨fun _ h => by cases h; rfl, fun _ h => by cases h⟩

theorem appendStreamAttach_loopView (env : Env) (stream : CrasRstream) (i : Nat)
    (dev : CrasIodev) (cb : Bool × Timespec) (t : AudioThread) :
    (attachState (appendStreamAttach env stream i dev cb t)).loopView = t.loopView := by
  unfold appendStreamAttach
  simp only
  split
  · split
    · rename_i t' hf
      have h := appendStreamFlush_loopView.1 t' hf
      unfold appendStreamAlign
      exact (by split <;> (try split) <;> rfl : _ = t'.loopView).trans h
    · rename_i r hf
      have h := appendStreamFlush_loopView.2 r hf
      exact h
  · rfl

theorem appendStreamLoop_loopView (env : Env) (stream : CrasRstream) (iodevs : List CrasIodev) :
    ∀ i cb t, (appendStreamLoop env stream i iodevs cb t).1.loopView = t.loopView := by
  induction iodevs with
  | nil => exact fun _ _ _ => rfl
  | cons dev iodevs ih =>
    intro i cb t
    have ha := appendStreamAttach_loopView env stream i dev cb t
    unfold appendStreamLoop
    split
    · split
      · rename_i t' cb' he
        rw [he] at ha
        exact (ih _ _ _).trans ha
      · rename_i r he
        rw [he] at ha
        exact ha
    · exact ih _ _ _

theorem detachStreamFromDevs_loopView (stream : CrasRstream) (ods : List OpenDev)
    (t : AudioThread) : (detachStreamFromDevs stream ods t).loopView = t.loopView :=
  loopView_foldl _ (fun t od => by unfold detachStream; split <;> rfl) ods t

theorem threadAddStream_loopView (env : Env) (t : AudioThread) (stream : CrasRstream)
    (iodevs : List CrasIodev) : (threadAddStream env t stream iodevs).1.loopView = t.loopView := by
  have hl := appendStreamLoop_loopView env stream iodevs 0 (false, Timespec.zero) t
  have ha : (appendStream env t stream iodevs).1.loopView = t.loopView := by
    unfold appendStream
    dsimp only
    split
    · exact (detachStreamFromDevs_loopView _ _ _).trans hl
    · exact hl
  unfold threadAddStream
  dsimp only
  split
  · exact ha
  · exact ha

theorem threadDrainStream_loopView (env : Env) (t : AudioThread) (stream : CrasRstream) :
    (threadDrainStream env t stream).1.loopView = t.loopView := by
  have hm : (threadDrainStreamMsRemaining env t stream).1.loopView = t.loopView := by
    unfold threadDrainStreamMsRemaining
    split
    · rfl
    · dsimp only
      split <;> rfl
  unfold threadDrainStream
  split
  · rfl
  · dsimp only
    split
    · exact (detachStreamFromDevs_loopView _ _ _).trans hm
    · exact hm

theorem dumpDevStreams_loopView (env : Env) (devIdx : Nat) (l : List DevStream) :
    ∀ n t, (dumpDevStreams env devIdx l n t).2.loopView = t.loopView := by
  induction l with
  | nil => exact fun _ _ => rfl
  | cons curr l ih =>
    intro n t
    unfold dumpDevStreams
    split
    · rfl
    · exact ih _ _

theorem dumpThreadInfo_loopView (env : Env) (t : AudioThread) :
    (dumpThreadInfo env t).loopView = t.loopView := by
  have ho : ∀ (l : List OpenDev) nd ns (t : AudioThread),
      (dumpOutputDevs env l nd ns t).2.2.loopView = t.loopView := by
    intro l
    induction l with
    | nil => exact fun _ _ _ => rfl
    | cons adev l ih =>
      intro nd ns t
      unfold dumpOutputDevs
      dsimp only
      split
      · rfl
      · exact (ih _ _ _).trans (dumpDevStreams_loopView _ _ _ _ _)
  have hi : ∀ (l : List OpenDev) nd ns (t : AudioThread),
      (dumpInputDevs env l nd ns t).2.2.loopView = t.loopView := by
    intro l
    induction l with
    | nil => exact fun _ _ _ => rfl
    | cons adev l ih =>
      intro nd ns t
      unfold dumpInputDevs
      split
      · rfl
      · exact (ih _ _ _).trans (dumpDevStreams_loopView _ _ _ _ _)
  exact (hi _ _ _ _).trans (ho _ _ _ _)

theorem handleThreadMessage_loopView (env : Env) (t : AudioThread) (m : AudioThreadMsg)
    (hr : ∀ fd, m ≠ .removeCallback fd) (hc : ∀ c, m ≠ .configGlobalRemix c) :
    (handleThreadMessage env t m).1.loopView = t.loopView := by
  cases m with
  | removeCallback fd => exact absurd rfl (hr fd)
  | configGlobalRemix c => exact absurd rfl (hc c)
  | addStream stream devs => exact threadAddStream_loopView _ _ _ _
  | disconnectStream stream dev =>
    dsimp only [handleThreadMessage, threadDisconnectStream, devIoRemoveStream]
    split
    · rfl
    · exact detachStreamFromDevs_loopView _ _ _
  | addOpenDev dev =>
    dsimp only [handleThreadMessage, threadAddOpenDev]
    split
    · rfl
    · dsimp only
      split <;> rfl
  | rmOpenDev dev =>
    dsimp only [handleThreadMessage, threadRmOpenDev, devIoRmOpenDev]
    split
    · rfl
    · exact loopView_foldl (fun t ds => t.devStreamDestroy ds) (fun _ _ => rfl) _ _
  | drainStream stream => exact threadDrainStream_loopView _ _ _
  | dumpThreadInfo => exact dumpThreadInfo_loopView _ _
  | devStartRamp dev request =>
    dsimp only [handleThreadMessage, threadDevStartRamp]
    split <;> rfl
  | aecDump streamId start fd =>
    exact loopView_foldl _ (fun t adev => by
      split
      · rfl
      · exact loopView_foldl _ (fun t s => by split <;> rfl) _ _) _ _
  | isDevOpen dev => rfl
  | stop => rfl
  | unknown id => rfl

theorem handleThreadMessage_pollSet (env : Env) (t : AudioThread) (m : AudioThreadMsg) :
    (handleThreadMessage env t m).1.pollfds = t.pollfds ∧
    (handleThreadMessage env t m).1.numPollfds = t.numPollfds ∧
    ((handleThreadMessage env t m).1.iodevCallbacks).Sublist t.iodevCallbacks := by
  by_cases hr : ∃ fd, m = .removeCallback fd
  · obtain ⟨fd, rfl⟩ := hr
    exact ⟨rfl, rfl, List.eraseP_sublist _⟩
  by_cases hc : ∃ c, m = .configGlobalRemix c
  · obtain ⟨c, rfl⟩ := hc
    exact ⟨rfl, rfl, List.Sublist.refl _⟩
  have h := handleThreadMessage_loopView env t m (fun fd h => hr ⟨fd, h⟩) (fun c h => hc ⟨c, h⟩)
  simp only [AudioThread.loopView, Prod.mk.injEq] at h
  exact ⟨h.1, h.2.1, h.2.2.1 ▸ List.Sublist.refl _⟩

theorem handleThreadMessage_remixConverter (env : Env) (t : AudioThread) (m : AudioThreadMsg) :
    (handleThreadMessage env t m).1.remixConverter =
      match m with
      | .configGlobalRemix c => c
      | _ => t.remixConverter := by
  by_cases hr : ∃ fd, m = .removeCallback fd
  · obtain ⟨fd, rfl⟩ := hr
    rfl
  by_cases hc : ∃ c, m = .configGlobalRemix c
  · obtain ⟨c, rfl⟩ := hc
    rfl
  have h := handleThreadMessage_loopView env t m (fun fd h => hr ⟨fd, h⟩) (fun c h => hc ⟨c, h⟩)
  simp only [AudioThread.loopView, Prod.mk.injEq] at h
  rw [h.2.2.2]
  split
  · exact absurd ⟨_, rfl⟩ hc
  · rfl

theorem handleThreadMessage_reply_ptr (env : Env) (t : AudioThread) (m : AudioThreadMsg) :
    (∃ p, (handleThreadMessage env t m).2 = .ptr p) ↔ ∃ c, m = .configGlobalRemix c := by
  cases m <;> simp [handleThreadMessage]

end CrasAudio

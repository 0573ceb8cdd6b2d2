import CrasAudio.Dispatch

/-! The AUDIO_THREAD_DUMP_THREAD_INFO handler: which devices and streams it writes into the
controller's `struct audio_debug_info`, and where. -/
namespace CrasAudio

/-! ## Entries written into the debug arrays -/

/-- `slots` with the entries `xs` written from index `i` on. -/
def writeSlots {α : Type} (slots : Nat → Option α) (i : Nat) : List α → Nat → Option α
  | [] => slots
  | x :: xs => writeSlots (Function.update slots i (some x)) (i + 1) xs

section WriteSlots

variable {α : Type}

theorem writeSlots_append (xs ys : List α) : ∀ (slots : Nat → Option α) i,
    writeSlots slots i (xs ++ ys) = writeSlots (writeSlots slots i xs) (i + xs.length) ys := by
  induction xs with
  | nil => exact fun _ _ => rfl
  | cons x xs ih =>
    intro slots i
    rw [List.cons_append, writeSlots, writeSlots, ih, List.length_cons, Nat.add_right_comm,
      Nat.add_assoc]

theorem writeSlots_apply (xs : List α) : ∀ (slots : Nat → Option α) i k,
    writeSlots slots i xs k = if i ≤ k ∧ k < i + xs.length then xs[k - i]? else slots k := by
  induction xs with
  | nil => intro slots i k; rw [if_neg (by simp)]; rfl
  | cons x xs ih =>
    intro slots i k
    rw [writeSlots, ih]
    rcases lt_trichotomy k i with hk | rfl | hk
    · simp [Function.update_noteq hk.ne, show ¬i ≤ k by omega, show ¬i + 1 ≤ k by omega]
    · simp
    · have hsub : k - i = k - (i + 1) + 1 := by omega
      simp [hsub, Function.update_noteq hk.ne', show i + 1 ≤ k by omega, hk.le,
        Nat.add_right_comm i 1, ← Nat.add_assoc]

end WriteSlots

/-- The entry `append_stream_dump_info` writes for `stream` on the device of index `devIdx`. -/
def streamDumpEntry (env : Env) (stream : DevStream) (devIdx : Nat) : AudioStreamDebugInfo :=
  { streamId := stream.stream.streamId, devIdx, direction := stream.stream.direction,
    streamType := stream.stream.streamType, bufferFrames := stream.stream.bufferFrames,
    cbThreshold := stream.stream.cbThreshold, frameRate := stream.stream.format.frameRate,
    numChannels := stream.stream.format.numChannels,
    channelLayout := stream.stream.format.channelLayout,
    longestFetch := env.longestFetch stream.stream,
    numOverruns := env.numOverruns stream.stream, effects := env.effects stream.stream }

/-- The entries for the streams `l` of the device of index `devIdx`, in list order. -/
def streamDumpEntries (env : Env) (devIdx : Nat) (l : List DevStream) :
    List AudioStreamDebugInfo :=
  l.map fun s => streamDumpEntry env s devIdx

/-- The entries for the streams of the devices `l`, device after device. -/
def devStreamDumpEntries (env : Env) (devStreams : CrasIodev → List DevStream)
    (l : List OpenDev) : List AudioStreamDebugInfo :=
  l.flatMap fun adev => streamDumpEntries env adev.dev.idx (devStreams adev.dev)

/-- `t` with the dump's entries written; writing a stream entry resets `longest_wake`. -/
def AudioThread.withDump (t : AudioThread) (nd : Nat) (devs : List AudioDevDebugInfo) (ns : Nat)
    (streams : List AudioStreamDebugInfo) : AudioThread :=
  { t with
    debugInfo := { t.debugInfo with
      devs := writeSlots t.debugInfo.devs nd devs,
      streams := writeSlots t.debugInfo.streams ns streams },
    longestWake := if streams.isEmpty then t.longestWake else Timespec.zero }

namespace AudioThread

variable (t : AudioThread) (nd ns : Nat)

@[simp] theorem withDump_devStreams (d s) : (t.withDump nd d ns s).devStreams = t.devStreams :=
  rfl

theorem withDump_withDump (d₁ d₂ s₁ s₂) :
    (t.withDump nd d₁ ns s₁).withDump (nd + d₁.length) d₂ (ns + s₁.length) s₂ =
      t.withDump nd (d₁ ++ d₂) ns (s₁ ++ s₂) := by
  cases s₁ <;> cases s₂ <;> simp only [withDump, writeSlots_append] <;> rfl

theorem writeDevDumpInfo_eq (di : AudioDevDebugInfo) :
    t.writeDevDumpInfo nd di = t.withDump nd [di] ns [] := rfl

theorem appendStreamDumpInfo_eq (env : Env) (stream : DevStream) (devIdx : Nat) :
    appendStreamDumpInfo env t stream devIdx ns =
      t.withDump nd [] ns [streamDumpEntry env stream devIdx] :=
  rfl

end AudioThread

/-! ## The dump loops -/

/-- The output devices whose streams the dump walks, stopping at `MAX_DEBUG_DEVS`. -/
def walkedOutputDevs (maxDevs numDevs : Nat) (outs : List OpenDev) : List OpenDev :=
  if maxDevs - numDevs ≤ outs.length then outs.take (maxDevs - numDevs - 1) else outs

section Loops

variable (env : Env)

theorem dumpDevStreams_eq (devIdx : Nat) (l : List DevStream) : ∀ ns t nd,
    ns ≤ env.maxDebugStreams →
      dumpDevStreams env devIdx l ns t =
        (ns + ((streamDumpEntries env devIdx l).take (env.maxDebugStreams - ns)).length,
          t.withDump nd [] ns
            ((streamDumpEntries env devIdx l).take (env.maxDebugStreams - ns))) := by
  induction l with
  | nil =>
    intro ns t nd _
    simp only [streamDumpEntries, List.map_nil, List.take_nil]
    rfl
  | cons s l ih =>
    intro ns t nd hns
    unfold dumpDevStreams
    by_cases hS : ns = env.maxDebugStreams
    · rw [if_pos hS, hS, Nat.sub_self]
      rfl
    · have hk : env.maxDebugStreams - ns = env.maxDebugStreams - (ns + 1) + 1 := by omega
      rw [if_neg hS, ih _ _ nd (by omega), AudioThread.appendStreamDumpInfo_eq _ nd, hk]
      simp only [streamDumpEntries, List.map_cons, List.take_succ_cons, List.length_cons]
      exact Prod.ext (by omega) (AudioThread.withDump_withDump _ _ _ [] [] [_] _)

theorem dumpDevStreams_writeDevDumpInfo (adev : OpenDev) (t : AudioThread) (nd ns : Nat)
    (hns : ns ≤ env.maxDebugStreams) :
    dumpDevStreams env adev.dev.idx
        ((t.writeDevDumpInfo nd (appendDevDumpInfo env adev)).devStreams adev.dev) ns
        (t.writeDevDumpInfo nd (appendDevDumpInfo env adev)) =
      (ns + ((devStreamDumpEntries env t.devStreams [adev]).take (env.maxDebugStreams - ns)).length,
        t.withDump nd [appendDevDumpInfo env adev] ns
          ((devStreamDumpEntries env t.devStreams [adev]).take (env.maxDebugStreams - ns))) := by
  rw [dumpDevStreams_eq env _ _ _ _ (nd + 1) hns, AudioThread.writeDevDumpInfo_eq _ _ ns]
  simp only [devStreamDumpEntries, List.flatMap_cons, List.flatMap_nil, List.append_nil]
  exact Prod.ext rfl (AudioThread.withDump_withDump _ _ _ [_] [] [] _)

theorem devStreamDumpEntries_append_take (devStreams : CrasIodev → List DevStream)
    (l₁ l₂ : List OpenDev) (n : Nat) :
    (devStreamDumpEntries env devStreams (l₁ ++ l₂)).take n =
      (devStreamDumpEntries env devStreams l₁).take n ++
        (devStreamDumpEntries env devStreams l₂).take
          (n - ((devStreamDumpEntries env devStreams l₁).take n).length) := by
  simp only [devStreamDumpEntries, List.flatMap_append, List.take_append_eq_append_take,
    List.length_take]
  congr 2
  omega

theorem devStreamDumpEntries_cons_take (devStreams : CrasIodev → List DevStream)
    (adev : OpenDev) (l : List OpenDev) (n ns : Nat) :
    (devStreamDumpEntries env devStreams (adev :: l)).take (n - ns) =
      (devStreamDumpEntries env devStreams [adev]).take (n - ns) ++
        (devStreamDumpEntries env devStreams l).take
          (n - (ns + ((devStreamDumpEntries env devStreams [adev]).take (n - ns)).length)) := by
  rw [← Nat.sub_sub]
  exact devStreamDumpEntries_append_take env devStreams [adev] l (n - ns)

theorem walkedOutputDevs_cons (adev : OpenDev) (outs : List OpenDev) {numDevs : Nat}
    (h : numDevs + 1 < env.maxDebugDevs) :
    walkedOutputDevs env.maxDebugDevs numDevs (adev :: outs) =
      adev :: walkedOutputDevs env.maxDebugDevs (numDevs + 1) outs := by
  obtain ⟨k, hk⟩ : ∃ k, env.maxDebugDevs - numDevs = k + 2 :=
    ⟨env.maxDebugDevs - numDevs - 2, by omega⟩
  have hk' : env.maxDebugDevs - (numDevs + 1) = k + 1 := by omega
  unfold walkedOutputDevs
  rw [hk, hk']
  by_cases hl : k + 1 ≤ outs.length <;> simp [hl]

theorem dumpOutputDevs_eq (outs : List OpenDev) : ∀ nd ns t,
    nd < env.maxDebugDevs → ns ≤ env.maxDebugStreams →
      dumpOutputDevs env outs nd ns t =
        (nd + (outs.take (env.maxDebugDevs - nd)).length,
          ns + ((devStreamDumpEntries env t.devStreams
            (walkedOutputDevs env.maxDebugDevs nd outs)).take (env.maxDebugStreams - ns)).length,
          t.withDump nd ((outs.take (env.maxDebugDevs - nd)).map (appendDevDumpInfo env)) ns
            ((devStreamDumpEntries env t.devStreams
              (walkedOutputDevs env.maxDebugDevs nd outs)).take (env.maxDebugStreams - ns))) := by
  induction outs with
  | nil =>
    intro nd ns t _ _
    simp only [walkedOutputDevs, List.take_nil, ite_self, devStreamDumpEntries, List.flatMap_nil]
    rfl
  | cons adev outs ih =>
    intro nd ns t hnd hns
    unfold dumpOutputDevs
    dsimp only
    by_cases hlast : nd + 1 = env.maxDebugDevs
    · have h1 : env.maxDebugDevs - nd = 0 + 1 := by omega
      rw [if_pos hlast, AudioThread.writeDevDumpInfo_eq _ _ ns, walkedOutputDevs, h1,
        if_pos (by simp), Nat.add_sub_cancel, List.take_zero]
      simp only [List.take_succ_cons, List.take_zero, List.map_cons, List.map_nil,
        devStreamDumpEntries, List.flatMap_nil, List.take_nil]
      rfl
    · have hk : env.maxDebugDevs - nd = env.maxDebugDevs - (nd + 1) + 1 := by omega
      rw [if_neg hlast, dumpDevStreams_writeDevDumpInfo env adev t nd ns hns]
      dsimp only
      rw [ih _ _ _ (by omega) (by rw [List.length_take]; omega),
        walkedOutputDevs_cons env adev outs (by omega), devStreamDumpEntries_cons_take env
          t.devStreams adev (walkedOutputDevs env.maxDebugDevs (nd + 1) outs), hk,
        List.take_succ_cons]
      refine Prod.ext (by simp only [List.length_cons]; omega) (Prod.ext ?_ ?_)
      · simp only [List.length_append, AudioThread.withDump_devStreams]
        omega
      · exact AudioThread.withDump_withDump _ _ _ [_] _ _ _

theorem dumpInputDevs_eq (ins : List OpenDev) : ∀ nd ns t,
    nd ≤ env.maxDebugDevs → ns ≤ env.maxDebugStreams →
      dumpInputDevs env ins nd ns t =
        (nd + (ins.take (env.maxDebugDevs - nd)).length,
          ns + ((devStreamDumpEntries env t.devStreams
            (ins.take (env.maxDebugDevs - nd))).take (env.maxDebugStreams - ns)).length,
          t.withDump nd ((ins.take (env.maxDebugDevs - nd)).map (appendDevDumpInfo env)) ns
            ((devStreamDumpEntries env t.devStreams
              (ins.take (env.maxDebugDevs - nd))).take (env.maxDebugStreams - ns))) := by
  induction ins with
  | nil =>
    intro nd ns t _ _
    simp only [List.take_nil, devStreamDumpEntries, List.flatMap_nil]
    rfl
  | cons adev ins ih =>
    intro nd ns t hnd hns
    unfold dumpInputDevs
    by_cases hfull : nd = env.maxDebugDevs
    · rw [if_pos hfull, hfull, Nat.sub_self, List.take_zero]
      simp only [devStreamDumpEntries, List.flatMap_nil, List.take_nil]
      rfl
    · have hk : env.maxDebugDevs - nd = env.maxDebugDevs - (nd + 1) + 1 := by omega
      rw [if_neg hfull]
      dsimp only
      rw [dumpDevStreams_writeDevDumpInfo env adev t nd ns hns]
      dsimp only
      rw [ih _ _ _ (by omega) (by rw [List.length_take]; omega), hk, List.take_succ_cons,
        devStreamDumpEntries_cons_take env t.devStreams adev
          (ins.take (env.maxDebugDevs - (nd + 1)))]
      refine Prod.ext (by simp only [List.length_cons]; omega) (Prod.ext ?_ ?_)
      · simp only [List.length_append, AudioThread.withDump_devStreams]
        omega
      · exact AudioThread.withDump_withDump _ _ _ [_] _ _ _

end Loops

/-! ## The whole dump -/

/-- The last line of the dump: `info->num_devs` and `info->num_streams`. -/
def AudioThread.setDumpCounts (t : AudioThread) (numDevs numStreams : Nat) : AudioThread :=
  { t with debugInfo := { t.debugInfo with numDevs, numStreams } }

/-- The devices the dump lists: outputs then inputs, the first `MAX_DEBUG_DEVS`. -/
def dumpedDevs (env : Env) (t : AudioThread) : List OpenDev :=
  (t.openDevs .output ++ t.openDevs .input).take env.maxDebugDevs

/-- The listed devices less the output device that reaches `MAX_DEBUG_DEVS`. -/
def streamWalkedDevs (env : Env) (t : AudioThread) : List OpenDev :=
  walkedOutputDevs env.maxDebugDevs 0 (t.openDevs .output) ++
    (t.openDevs .input).take (env.maxDebugDevs - (t.openDevs .output).length)

/-- The stream entries of the walked devices, the first `MAX_DEBUG_STREAMS`. -/
def dumpedStreams (env : Env) (t : AudioThread) : List AudioStreamDebugInfo :=
  (devStreamDumpEntries env t.devStreams (streamWalkedDevs env t)).take env.maxDebugStreams

theorem dumpThreadInfo_eq (env : Env) (t : AudioThread) (hd : 0 < env.maxDebugDevs) :
    dumpThreadInfo env t =
      (t.withDump 0 ((dumpedDevs env t).map (appendDevDumpInfo env)) 0
        (dumpedStreams env t)).setDumpCounts (dumpedDevs env t).length
          (dumpedStreams env t).length := by
  have hins : env.maxDebugDevs - (t.openDevs .output).length =
      env.maxDebugDevs - ((t.openDevs .output).take env.maxDebugDevs).length := by
    rw [List.length_take]
    omega
  have hdevs : dumpedDevs env t = (t.openDevs .output).take env.maxDebugDevs ++
      (t.openDevs .input).take (env.maxDebugDevs - (t.openDevs .output).length) := by
    rw [dumpedDevs, List.take_append_eq_append_take]
  unfold dumpThreadInfo
  rw [dumpOutputDevs_eq env _ 0 0 t hd (Nat.zero_le _)]
  dsimp only
  simp only [Nat.sub_zero, Nat.zero_add]
  rw [dumpInputDevs_eq env _ _ _ _ (by rw [List.length_take]; omega)
    (by rw [List.length_take]; omega)]
  rw [dumpedStreams, streamWalkedDevs, devStreamDumpEntries_append_take, hdevs, hins,
    List.map_append, ← AudioThread.withDump_withDump]
  simp only [List.length_append, List.length_map, Nat.zero_add]
  rfl

/-- Four open output devices, the fourth carrying one stream, for the concrete runs. -/
def fourOutputsThread : AudioThread :=
  (AudioThread.init.setOpenDevs .output
      ((List.range 4).map fun k => ⟨CrasIodev.plain (k + 1) .output, Timespec.zero⟩)).setDevStreams
    (CrasIodev.plain 4 .output) [⟨0, CrasRstream.plain 9 .output, 4, none, 4, Timespec.zero⟩]

/-- The dump writes the listed devices' and the dumped streams' entries from index 0 with their
counts, resets `longest_wake` once a stream is dumped, and changes nothing else. -/
theorem dump_thread_info_layout (env : Env) (t : AudioThread) (hd : 0 < env.maxDebugDevs) :
    (dumpThreadInfo env t).debugInfo.numDevs = (dumpedDevs env t).length ∧
    (dumpThreadInfo env t).debugInfo.devs =
      writeSlots t.debugInfo.devs 0 ((dumpedDevs env t).map (appendDevDumpInfo env)) ∧
    (dumpThreadInfo env t).debugInfo.numStreams = (dumpedStreams env t).length ∧
    (dumpThreadInfo env t).debugInfo.streams =
      writeSlots t.debugInfo.streams 0 (dumpedStreams env t) ∧
    (dumpThreadInfo env t).longestWake =
      (if (dumpedStreams env t).isEmpty then t.longestWake else Timespec.zero) ∧
    { dumpThreadInfo env t with debugInfo := t.debugInfo, longestWake := t.longestWake } = t := by
  rw [dumpThreadInfo_eq env t hd]
  exact ⟨rfl, rfl, rfl, rfl, rfl, rfl⟩

theorem dump_thread_info_layout_of_four_outputs :
    0 < Env.nominal.maxDebugDevs ∧
    (dumpThreadInfo Env.nominal fourOutputsThread).debugInfo.numDevs =
      (dumpedDevs Env.nominal fourOutputsThread).length ∧
    (dumpThreadInfo Env.nominal fourOutputsThread).debugInfo.devs =
      writeSlots fourOutputsThread.debugInfo.devs 0
        ((dumpedDevs Env.nominal fourOutputsThread).map (appendDevDumpInfo Env.nominal)) ∧
    (dumpThreadInfo Env.nominal fourOutputsThread).debugInfo.numStreams =
      (dumpedStreams Env.nominal fourOutputsThread).length ∧
    (dumpThreadInfo Env.nominal fourOutputsThread).debugInfo.streams =
      writeSlots fourOutputsThread.debugInfo.streams 0
        (dumpedStreams Env.nominal fourOutputsThread) ∧
    (dumpThreadInfo Env.nominal fourOutputsThread).longestWake =
      (if (dumpedStreams Env.nominal fourOutputsThread).isEmpty then fourOutputsThread.longestWake
        else Timespec.zero) ∧
    { dumpThreadInfo Env.nominal fourOutputsThread with
        debugInfo := fourOutputsThread.debugInfo,
        longestWake := fourOutputsThread.longestWake } = fourOutputsThread :=
  ⟨by decide, dump_thread_info_layout Env.nominal fourOutputsThread (by decide)⟩

example : dumpedStreams Env.nominal fourOutputsThread = [] := by decide

/-- The fourth output device is listed, but its one stream is not dumped. -/
theorem dump_skips_streams_of_last_listed_output :
    (handleThreadMessage Env.nominal fourOutputsThread .dumpThreadInfo).1.debugInfo.numDevs = 4 ∧
    (handleThreadMessage Env.nominal fourOutputsThread .dumpThreadInfo).1.debugInfo.numStreams =
      0 ∧
    (fourOutputsThread.devStreams (CrasIodev.plain 4 .output)).length = 1 := by
  decide

/-- The dump writes no entry past `MAX_DEBUG_DEVS` devices or `MAX_DEBUG_STREAMS` streams. -/
theorem dump_thread_info_within_bounds (env : Env) (t : AudioThread)
    (hd : 0 < env.maxDebugDevs) :
    (dumpThreadInfo env t).debugInfo.numDevs ≤ env.maxDebugDevs ∧
    (dumpThreadInfo env t).debugInfo.numStreams ≤ env.maxDebugStreams ∧
    (∀ k, env.maxDebugDevs ≤ k →
      (dumpThreadInfo env t).debugInfo.devs k = t.debugInfo.devs k) ∧
    ∀ k, env.maxDebugStreams ≤ k →
      (dumpThreadInfo env t).debugInfo.streams k = t.debugInfo.streams k := by
  have hdevs : (dumpedDevs env t).length ≤ env.maxDebugDevs := by
    rw [dumpedDevs, List.length_take]
    omega
  have hstreams : (dumpedStreams env t).length ≤ env.maxDebugStreams := by
    rw [dumpedStreams, List.length_take]
    omega
  rw [dumpThreadInfo_eq env t hd]
  refine ⟨hdevs, hstreams, fun k hk => ?_, fun k hk => ?_⟩
  · exact (writeSlots_apply _ _ _ _).trans (if_neg (by rw [List.length_map]; omega))
  · exact (writeSlots_apply _ _ _ _).trans (if_neg (by omega))

theorem dump_thread_info_within_bounds_of_four_outputs :
    0 < Env.nominal.maxDebugDevs ∧
    (dumpThreadInfo Env.nominal fourOutputsThread).debugInfo.numDevs ≤
      Env.nominal.maxDebugDevs ∧
    (dumpThreadInfo Env.nominal fourOutputsThread).debugInfo.numStreams ≤
      Env.nominal.maxDebugStreams ∧
    (∀ k, Env.nominal.maxDebugDevs ≤ k →
      (dumpThreadInfo Env.nominal fourOutputsThread).debugInfo.devs k =
        fourOutputsThread.debugInfo.devs k) ∧
    ∀ k, Env.nominal.maxDebugStreams ≤ k →
      (dumpThreadInfo Env.nominal fourOutputsThread).debugInfo.streams k =
        fourOutputsThread.debugInfo.streams k :=
  ⟨by decide, dump_thread_info_within_bounds Env.nominal fourOutputsThread (by decide)⟩

end CrasAudio

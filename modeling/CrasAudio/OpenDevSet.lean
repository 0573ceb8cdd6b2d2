import CrasAudio.Lifecycle

/-! What the open-device lists are for: a set of open devices, which Add Open Dev grows, Rm Open
Dev shrinks and Is Dev Open reads. Every run of the command handlers refines this registry: the
devices open in their own direction are the set, and the three commands reply as the set says. -/
namespace CrasAudio

variable {t : AudioThread} {s : CrasIodev → Bool}

/-- The registry's step: the new set, and the reply of Add, Rm or Is Dev Open. -/
def openSetStep (s : CrasIodev → Bool) : AudioThreadMsg → (CrasIodev → Bool) × Option Int
  | .addOpenDev dev => if s dev then (s, some (-eexist)) else (Function.update s dev true, some 0)
  | .rmOpenDev dev => if s dev then (Function.update s dev false, some 0) else (s, some (-einval))
  | .isDevOpen dev => (s, some (if s dev then 1 else 0))
  | _ => (s, none)

/-- The registry after `msgs`, from the empty set of `audio_thread_create`. -/
def openSetRun (msgs : List AudioThreadMsg) : CrasIodev → Bool :=
  msgs.foldl (fun s msg => (openSetStep s msg).1) fun _ => false

/-- `s` is the set of devices open in their own direction in `t`. -/
def Abstracts (s : CrasIodev → Bool) (t : AudioThread) : Prop :=
  ∀ d, s d = true ↔ d ∈ (t.openDevs d.direction).map OpenDev.dev

theorem abstracts_init : Abstracts (fun _ => false) AudioThread.init := fun _ => by
  simp [AudioThread.init]

/-- Only Add Open Dev and Rm Open Dev touch the lists; AddStream's loop and rollback keep them. -/
theorem threadAddStream_openDevs (env : Env) (t : AudioThread) (stream : CrasRstream)
    (iodevs : List CrasIodev) : (threadAddStream env t stream iodevs).1.openDevs = t.openDevs := by
  have h : (threadAddStream env t stream iodevs).1 = (appendStream env t stream iodevs).1 := by
    unfold threadAddStream
    dsimp only
    split <;> rfl
  obtain ⟨hok, hfail⟩ := appendStream_effect env t stream iodevs
  rw [h]
  by_cases h0 : (appendStream env t stream iodevs).2 = 0
  · exact (hok h0).1
  · exact (hfail h0).1

theorem mem_map_erase_of_nodup {l : List OpenDev} {adev : OpenDev}
    (hn : (l.map OpenDev.dev).Nodup) (hmem : adev ∈ l) (d : CrasIodev) :
    d ∈ (l.erase adev).map OpenDev.dev ↔ d ≠ adev.dev ∧ d ∈ l.map OpenDev.dev := by
  constructor
  · intro h
    refine ⟨fun hd => dev_not_mem_erase hn hmem (hd ▸ h), ?_⟩
    obtain ⟨od, hod, rfl⟩ := List.mem_map.mp h
    exact List.mem_map_of_mem _ (List.mem_of_mem_erase hod)
  · rintro ⟨hne, h⟩
    obtain ⟨od, hod, rfl⟩ := List.mem_map.mp h
    exact List.mem_map_of_mem _
      ((List.mem_erase_of_ne fun he => hne (congrArg OpenDev.dev he)).mpr hod)

/-! ## One command refines one step of the registry -/

theorem Abstracts.addOpenDev (hs : Abstracts s t) (env : Env) (dev : CrasIodev) :
    Abstracts (openSetStep s (.addOpenDev dev)).1 (handleThreadMessage env t (.addOpenDev dev)).1 ∧
      ∀ r, (openSetStep s (.addOpenDev dev)).2 = some r →
        (handleThreadMessage env t (.addOpenDev dev)).2 = .rc r := by
  by_cases hd : s dev = true
  · have hf := findOpenDev_isSome.mpr ((hs dev).mp hd)
    simp only [openSetStep, hd, if_true, handleThreadMessage, threadAddOpenDev, hf]
    exact ⟨hs, fun r h => by cases h; rfl⟩
  · obtain ⟨t₀, ho, -, -, hadd⟩ := threadAddOpenDev_of_not_open (mt (hs dev).mpr hd)
    simp only [openSetStep, hd, Bool.false_eq_true, if_false, handleThreadMessage, hadd]
    refine ⟨fun d => ?_, fun r h => by cases h; rfl⟩
    by_cases hdd : d = dev
    · subst hdd
      simp
    · rw [Function.update_noteq hdd, hs d, AudioThread.setOpenDevs_openDevs]
      by_cases hdir : d.direction = dev.direction
      · rw [hdir, Function.update_same]
        simp [hdd]
      · rw [Function.update_noteq hdir, ho]

theorem Abstracts.rmOpenDev (hi : Invariant t) (hs : Abstracts s t) (env : Env)
    (dev : CrasIodev) :
    Abstracts (openSetStep s (.rmOpenDev dev)).1 (handleThreadMessage env t (.rmOpenDev dev)).1 ∧
      ∀ r, (openSetStep s (.rmOpenDev dev)).2 = some r →
        (handleThreadMessage env t (.rmOpenDev dev)).2 = .rc r := by
  by_cases hd : s dev = true
  · obtain ⟨adev, hf⟩ := Option.isSome_iff_exists.mp (findOpenDev_isSome.mpr ((hs dev).mp hd))
    have hmem : adev ∈ t.openDevs dev.direction := List.mem_of_find?_eq_some hf
    have hdev : adev.dev = dev := by simpa using List.find?_some hf
    simp only [openSetStep, hd, if_true, handleThreadMessage, threadRmOpenDev, hf]
    refine ⟨fun d => ?_, fun r h => by cases h; rfl⟩
    rw [devIoRmOpenDev_openDevs]
    by_cases hdir : d.direction = adev.dev.direction
    · rw [hdir, Function.update_same, mem_map_erase_of_nodup (hi.openDevs_nodup _) (hdev ▸ hmem),
        hdev]
      by_cases hdd : d = dev
      · subst hdd
        simp
      · simp [Function.update_noteq hdd, hdd, hs d, hdir, hdev]
    · have hdd : d ≠ dev := fun h => hdir (h ▸ hdev ▸ rfl)
      rw [Function.update_noteq hdir, Function.update_noteq hdd, hs d]
  · have hf : findOpenDev (t.openDevs dev.direction) dev = none :=
      Option.not_isSome_iff_eq_none.mp (mt findOpenDev_isSome.mp (mt (hs dev).mpr hd))
    simp only [openSetStep, hd, Bool.false_eq_true, if_false, handleThreadMessage, threadRmOpenDev,
      hf]
    exact ⟨hs, fun r h => by cases h; rfl⟩

theorem Abstracts.step (hi : Invariant t) (hs : Abstracts s t) (env : Env)
    (msg : AudioThreadMsg) :
    Abstracts (openSetStep s msg).1 (handleThreadMessage env t msg).1 ∧
      ∀ r, (openSetStep s msg).2 = some r → (handleThreadMessage env t msg).2 = .rc r := by
  /- The other commands leave the lists, and decide no reply of the registry. -/
  have other : ∀ t', t'.openDevs = t.openDevs → Abstracts s t' := fun t' h d => h ▸ hs d
  cases msg with
  | addOpenDev dev => exact hs.addOpenDev env dev
  | rmOpenDev dev => exact hs.rmOpenDev hi env dev
  | isDevOpen dev =>
    refine ⟨hs, fun r h => ?_⟩
    cases h
    simp only [handleThreadMessage, threadIsDevOpen, findOpenDev_isSome, ← hs dev]
  | addStream stream devs =>
    exact ⟨other _ (threadAddStream_openDevs env t stream devs), fun r h => by cases h⟩
  | disconnectStream stream dev =>
    exact ⟨other _ (unbinds_threadDisconnectStream t stream dev).1, fun r h => by cases h⟩
  | dumpThreadInfo => exact ⟨other _ (unbinds_dumpThreadInfo env t).1, fun r h => by cases h⟩
  | drainStream stream =>
    exact ⟨other _ (unbinds_threadDrainStream env t stream).1, fun r h => by cases h⟩
  | devStartRamp dev request =>
    exact ⟨other _ (unbinds_threadDevStartRamp env t dev request).1, fun r h => by cases h⟩
  | aecDump streamId start fd =>
    exact ⟨other _ (unbinds_threadSetAecDump env t streamId start fd).1, fun r h => by cases h⟩
  | stop | removeCallback | configGlobalRemix | unknown =>
    exact ⟨other _ rfl, fun r h => by cases h⟩

/-- A run of commands keeps the invariant and refines the registry run on them. -/
theorem Abstracts.foldl (steps : List (Env × AudioThreadMsg)) :
    ∀ t s, Invariant t → Abstracts s t →
      Invariant (steps.foldl (fun t p => (handleThreadMessage p.1 t p.2).1) t) ∧
      Abstracts ((steps.map Prod.snd).foldl (fun s msg => (openSetStep s msg).1) s)
        (steps.foldl (fun t p => (handleThreadMessage p.1 t p.2).1) t) := by
  induction steps with
  | nil => exact fun _ _ hi hs => ⟨hi, hs⟩
  | cons p steps ih =>
    intro t s hi hs
    exact ih _ _ (invariant_handleThreadMessage hi p.1 p.2) (hs.step hi p.1 p.2).1

/-- After any run of commands, the devices open in their own direction are the registry's set,
and the next Add, Rm or Is Dev Open replies as the registry does. -/
theorem open_devs_refine_open_set (steps : List (Env × AudioThreadMsg)) :
    Abstracts (openSetRun (steps.map Prod.snd))
      (steps.foldl (fun t p => (handleThreadMessage p.1 t p.2).1) AudioThread.init) ∧
    ∀ env msg r, (openSetStep (openSetRun (steps.map Prod.snd)) msg).2 = some r →
      (handleThreadMessage env
        (steps.foldl (fun t p => (handleThreadMessage p.1 t p.2).1) AudioThread.init) msg).2 =
        .rc r := by
  obtain ⟨hi, hs⟩ := Abstracts.foldl steps _ _ invariant_init abstracts_init
  exact ⟨hs, fun env msg => (hs.step hi env msg).2⟩

end CrasAudio

import CrasAudio.Ownership

/-! How the commands on streams and devices compose: what a successful AddStream attaches and
where `thread_find_stream` then finds the stream, and what RmOpenDev releases, with AddOpenDev
then RmOpenDev giving back the lists they started from. -/
namespace CrasAudio

variable {t : AudioThread}

/-! ## One step of `append_stream` -/

theorem appendStreamAttach_spec (env : Env) (stream : CrasRstream) (i : Nat) (dev : CrasIodev)
    (cb : Bool × Timespec) (t : AudioThread) :
    (∀ t' cb', appendStreamAttach env stream i dev cb t = .ok (t', cb') →
      t'.openDevs = t.openDevs ∧ ∃ out, out.stream = stream ∧
        t'.devStreams = Function.update t.devStreams dev (t.devStreams dev ++ [out]) ∧
        t'.liveDevStreams = t.liveDevStreams ++ [out]) ∧
    (∀ r, appendStreamAttach env stream i dev cb t = .error r →
      r.2 < 0 ∧ r.1.devStreams = t.devStreams ∧ t.liveDevStreams.Sublist r.1.liveDevStreams) := by
  unfold appendStreamAttach
  simp only
  split
  · generalize hout : t.createdDevStream stream dev _ = out
    obtain ⟨t₁, ht₁, hok | herr⟩ := appendStreamFlush_eq env stream i dev (t.devStreamCreate out)
    all_goals
      obtain ⟨hs, ho, hl⟩ : t₁.devStreams = t.devStreams ∧ t₁.openDevs = t.openDevs ∧
          t₁.liveDevStreams = t.liveDevStreams ++ [out] := by
        rcases ht₁ with rfl | rfl <;> exact ⟨rfl, rfl, rfl⟩
    · rw [hok]
      refine ⟨fun t' cb' h => ?_, fun r h => nomatch h⟩
      cases h
      refine ⟨by simp only [appendStreamAlign_openDevs, AudioThread.iodevAddStream_openDevs, ho],
        out, hout ▸ rfl, ?_, (appendStreamAlign_liveDevStreams _ _ _ _).trans hl⟩
      rw [appendStreamAlign_devStreams, AudioThread.iodevAddStream,
        AudioThread.setDevStreams_devStreams, hs]
    · rw [herr.1]
      refine ⟨fun t' cb' h => (nomatch h), fun r h => ?_⟩
      cases h
      exact ⟨herr.2, hs, hl ▸ List.sublist_append_left _ _⟩
  · refine ⟨fun t' cb' h => (nomatch h), fun r h => ?_⟩
    cases h
    exact ⟨show -einval < 0 by decide, rfl, List.Sublist.refl _⟩

theorem appendStreamLoop_rc_nonpos (env : Env) (stream : CrasRstream) (iodevs : List CrasIodev) :
    ∀ i cb t, (appendStreamLoop env stream i iodevs cb t).2 ≤ 0 := by
  induction iodevs with
  | nil => exact fun _ _ _ => le_refl 0
  | cons dev iodevs ih =>
    intro i cb t
    unfold appendStreamLoop
    split
    · split
      · exact ih _ _ _
      · rename_i r he
        exact ((appendStreamAttach_spec env stream i dev cb t).2 r he).1.le
    · exact ih _ _ _

theorem appendStreamLoop_cons_of_ok {env : Env} {stream : CrasRstream} {i : Nat}
    {dev : CrasIodev} {iodevs : List CrasIodev} {cb : Bool × Timespec}
    (h0 : (appendStreamLoop env stream i (dev :: iodevs) cb t).2 = 0) :
    (¬ ((findOpenDev (t.openDevs stream.direction) dev).isSome ∧
        findDevStream (t.devStreams dev) stream = none) ∧
      appendStreamLoop env stream i (dev :: iodevs) cb t =
        appendStreamLoop env stream (i + 1) iodevs cb t) ∨
    (dev ∈ (t.openDevs stream.direction).map OpenDev.dev ∧ ∃ t' cb',
      appendStreamAttach env stream i dev cb t = .ok (t', cb') ∧
      appendStreamLoop env stream i (dev :: iodevs) cb t =
        appendStreamLoop env stream (i + 1) iodevs cb' t') := by
  simp only [appendStreamLoop] at h0 ⊢
  by_cases hc : (findOpenDev (t.openDevs stream.direction) dev).isSome ∧
      findDevStream (t.devStreams dev) stream = none
  · rw [if_pos hc] at h0 ⊢
    cases he : appendStreamAttach env stream i dev cb t with
    | error r =>
      rw [he] at h0
      exact absurd h0 ((appendStreamAttach_spec env stream i dev cb t).2 r he).1.ne
    | ok p => exact .inr ⟨findOpenDev_isSome.mp hc.1, p.1, p.2, rfl, rfl⟩
  · rw [if_neg hc]
    exact .inl ⟨hc, rfl⟩

theorem appendStreamLoop_devStreams_of_not_mem (env : Env) (stream : CrasRstream)
    (iodevs : List CrasIodev) {d : CrasIodev} (hd : d ∉ iodevs) :
    ∀ i cb t, (appendStreamLoop env stream i iodevs cb t).1.devStreams d = t.devStreams d := by
  induction iodevs with
  | nil => exact fun _ _ _ => rfl
  | cons dev iodevs ih =>
    intro i cb t
    have hne : d ≠ dev := fun h => hd (h ▸ List.mem_cons_self _ _)
    have ih := ih fun h => hd (List.mem_cons_of_mem _ h)
    obtain ⟨hok, herr⟩ := appendStreamAttach_spec env stream i dev cb t
    unfold appendStreamLoop
    split
    · split
      · rename_i t' cb' he
        obtain ⟨-, out, -, hs, -⟩ := hok t' cb' he
        rw [ih, hs, Function.update_noteq hne]
      · rename_i r he
        rw [(herr r he).2.1]
    · exact ih _ _ _

theorem appendStreamLoop_attaches (env : Env) (stream : CrasRstream) (iodevs : List CrasIodev) :
    ∀ i cb t, (appendStreamLoop env stream i iodevs cb t).2 = 0 →
      ∀ dev ∈ iodevs, dev ∈ (t.openDevs stream.direction).map OpenDev.dev →
        stream ∈ ((appendStreamLoop env stream i iodevs cb t).1.devStreams dev).map
          DevStream.stream := by
  induction iodevs with
  | nil => exact fun _ _ _ _ dev h => absurd h (List.not_mem_nil _)
  | cons dev iodevs ih =>
    intro i cb t h0 d hd hopen
    /- `stream` on `d` before the rest of the loop stays on `d`. -/
    have keep : ∀ i' cb' t', stream ∈ (t'.devStreams d).map DevStream.stream →
        stream ∈ ((appendStreamLoop env stream i' iodevs cb' t').1.devStreams d).map
          DevStream.stream := fun i' cb' t' hs => by
      rcases (appendStreamLoop_attachesOnly env stream iodevs i' cb' t').2 d with
        he | ⟨_, _, _, _, he⟩
      · rwa [he]
      · rw [he, List.map_append]
        exact List.mem_append_left _ hs
    rcases appendStreamLoop_cons_of_ok h0 with ⟨hc, he⟩ | ⟨-, t', cb', ha, he⟩
    · rw [he] at h0 ⊢
      rcases List.mem_cons.mp hd with rfl | hd
      · apply keep
        by_contra hs
        exact hc ⟨findOpenDev_isSome.mpr hopen, findDevStream_eq_none.mpr hs⟩
      · exact ih _ _ _ h0 d hd hopen
    · rw [he] at h0 ⊢
      obtain ⟨ho, out, hout, hs, -⟩ := (appendStreamAttach_spec env stream i dev cb t).1 t' cb' ha
      rcases List.mem_cons.mp hd with rfl | hd
      · apply keep
        rw [hs, Function.update_same, List.map_append]
        exact List.mem_append_right _ (by simp [hout])
      · exact ih _ _ _ h0 d hd (ho ▸ hopen)

theorem appendStreamLoop_live_sublist (env : Env) (stream : CrasRstream)
    (iodevs : List CrasIodev) :
    ∀ i cb (t : AudioThread), t.liveDevStreams.Sublist
      (appendStreamLoop env stream i iodevs cb t).1.liveDevStreams := by
  induction iodevs with
  | nil => exact fun _ _ _ => List.Sublist.refl _
  | cons dev iodevs ih =>
    intro i cb t
    obtain ⟨hok, herr⟩ := appendStreamAttach_spec env stream i dev cb t
    unfold appendStreamLoop
    split
    · split
      · rename_i t' cb' he
        obtain ⟨-, out, -, -, hl⟩ := hok t' cb' he
        exact (hl ▸ List.sublist_append_left _ _).trans (ih _ _ _)
      · rename_i r he
        exact (herr r he).2.2
    · exact ih _ _ _

theorem newHeld_appendStreamLoop_of_ok (env : Env) (stream : CrasRstream) (t₀ : AudioThread)
    (iodevs : List CrasIodev) :
    ∀ i cb t, NewHeld stream t₀ t → (appendStreamLoop env stream i iodevs cb t).2 = 0 →
      NewHeld stream t₀ (appendStreamLoop env stream i iodevs cb t).1 := by
  induction iodevs with
  | nil => exact fun _ _ _ h _ => h
  | cons dev iodevs ih =>
    intro i cb t h h0
    rcases appendStreamLoop_cons_of_ok h0 with ⟨-, he⟩ | ⟨hod, t', cb', ha, he⟩
    · rw [he] at h0 ⊢
      exact ih _ _ _ h h0
    rw [he] at h0 ⊢
    obtain ⟨ho, out, hout, hs, hl⟩ := (appendStreamAttach_spec env stream i dev cb t).1 t' cb' ha
    refine ih _ _ _ (fun ds hds hnew => ?_) h0
    rw [ho, hs]
    rcases List.mem_append.mp (hl ▸ hds) with hds | hds
    · obtain ⟨hst, d, hd, hmem⟩ := h ds hds hnew
      refine ⟨hst, d, hd, ?_⟩
      by_cases hdd : d = dev
      · subst hdd
        simp [hmem]
      · rwa [Function.update_noteq hdd]
    · rw [List.mem_singleton.mp hds]
      exact ⟨hout, dev, hod, by simp⟩

theorem threadAddStream_of_rc_zero {env : Env} {stream : CrasRstream}
    {iodevs : List CrasIodev} (h0 : (threadAddStream env t stream iodevs).2 = 0) :
    (appendStreamLoop env stream 0 iodevs (false, Timespec.zero) t).2 = 0 ∧
      threadAddStream env t stream iodevs =
        appendStreamLoop env stream 0 iodevs (false, Timespec.zero) t := by
  generalize hr : appendStreamLoop env stream 0 iodevs (false, Timespec.zero) t = r
  have hneg : r.2 ≤ 0 := hr ▸ appendStreamLoop_rc_nonpos env stream iodevs 0 _ t
  have hr0 : r.2 = 0 := by
    by_contra hne
    have hrc : (threadAddStream env t stream iodevs).2 = r.2 := by
      simp only [threadAddStream, appendStream, hr, if_pos hne, if_pos (lt_of_le_of_ne hneg hne)]
    exact hne (hrc ▸ h0)
  refine ⟨hr0, ?_⟩
  simp only [threadAddStream, appendStream, hr, hr0, ne_eq, not_true_eq_false, if_false,
    lt_irrefl]
  exact Prod.ext rfl hr0.symm

/-! ## AddStream, then `thread_find_stream` -/

/-- A successful AddStream keeps the open devices, binds `s` to every listed open device of its
direction and leaves unlisted devices alone. -/
theorem add_stream_attaches_to_open_listed_devices (env : Env) (t : AudioThread)
    (stream : CrasRstream) (iodevs : List CrasIodev)
    (h0 : (threadAddStream env t stream iodevs).2 = 0) :
    (threadAddStream env t stream iodevs).1.openDevs = t.openDevs ∧
    (∀ dev ∈ iodevs, dev ∈ (t.openDevs stream.direction).map OpenDev.dev →
      stream ∈ ((threadAddStream env t stream iodevs).1.devStreams dev).map DevStream.stream) ∧
    (∀ dev, dev ∉ iodevs →
      (threadAddStream env t stream iodevs).1.devStreams dev = t.devStreams dev) ∧
    ((∃ dev ∈ iodevs, dev ∈ (t.openDevs stream.direction).map OpenDev.dev) →
      threadFindStream (threadAddStream env t stream iodevs).1 stream = true) := by
  obtain ⟨hr0, hadd⟩ := threadAddStream_of_rc_zero h0
  generalize hr : appendStreamLoop env stream 0 iodevs (false, Timespec.zero) t = r at hr0 hadd
  rw [hadd]
  have ho : r.1.openDevs = t.openDevs := hr ▸ (appendStreamLoop_attachesOnly env stream iodevs
    0 (false, Timespec.zero) t).1
  have hat : ∀ dev ∈ iodevs, dev ∈ (t.openDevs stream.direction).map OpenDev.dev →
      stream ∈ (r.1.devStreams dev).map DevStream.stream :=
    hr ▸ appendStreamLoop_attaches env stream iodevs 0 _ t (hr ▸ hr0)
  refine ⟨ho, hat, fun dev hd => hr ▸ appendStreamLoop_devStreams_of_not_mem env stream iodevs
    hd 0 _ t, fun ⟨dev, hd, hopen⟩ => ?_⟩
  obtain ⟨od, hod, rfl⟩ := List.mem_map.mp hopen
  obtain ⟨ds, hds, hst⟩ := List.mem_map.mp (hat _ hd hopen)
  simp only [threadFindStream, List.any_eq_true, decide_eq_true_eq, ho]
  exact ⟨od, hod, ds, hds, hst⟩

/-- One output device open, for the concrete runs. -/
def outputOpenRun : AudioThread :=
  runThread Env.nominal [.addOpenDev (CrasIodev.plain 1 .output)]

theorem add_stream_attaches_on_output_open_run :
    (threadAddStream Env.nominal outputOpenRun (CrasRstream.plain 2 .output)
        [CrasIodev.plain 1 .output]).2 = 0 ∧
      threadFindStream (threadAddStream Env.nominal outputOpenRun (CrasRstream.plain 2 .output)
        [CrasIodev.plain 1 .output]).1 (CrasRstream.plain 2 .output) = true :=
  have h0 : (threadAddStream Env.nominal outputOpenRun (CrasRstream.plain 2 .output)
      [CrasIodev.plain 1 .output]).2 = 0 := by decide
  ⟨h0, (add_stream_attaches_to_open_listed_devices Env.nominal outputOpenRun
    (CrasRstream.plain 2 .output) [CrasIodev.plain 1 .output] h0).2.2.2
    ⟨CrasIodev.plain 1 .output, List.mem_singleton_self _, by decide⟩⟩

/-- After a successful AddStream, the same AddStream returns 0 and changes nothing. -/
theorem add_stream_twice_is_once (env env' : Env) (t : AudioThread) (stream : CrasRstream)
    (iodevs : List CrasIodev) (h0 : (threadAddStream env t stream iodevs).2 = 0) :
    threadAddStream env' (threadAddStream env t stream iodevs).1 stream iodevs =
      ((threadAddStream env t stream iodevs).1, 0) := by
  obtain ⟨hr0, hadd⟩ := threadAddStream_of_rc_zero h0
  rw [hadd]
  set t₁ := (appendStreamLoop env stream 0 iodevs (false, Timespec.zero) t).1
  have ho : t₁.openDevs = t.openDevs :=
    (appendStreamLoop_attachesOnly env stream iodevs 0 (false, Timespec.zero) t).1
  have hskip : ∀ dev ∈ iodevs, dev ∉ (t₁.openDevs stream.direction).map OpenDev.dev ∨
      stream ∈ (t₁.devStreams dev).map DevStream.stream := fun dev hd => by
    by_cases hopen : dev ∈ (t.openDevs stream.direction).map OpenDev.dev
    · exact .inr (appendStreamLoop_attaches env stream iodevs 0 _ t hr0 dev hd hopen)
    · exact .inl (ho ▸ hopen)
  have hloop := appendStreamLoop_skip env' stream [] (false, Timespec.zero) t₁ iodevs hskip 0
  rw [List.append_nil] at hloop
  simp [threadAddStream, appendStream, hloop, appendStreamLoop]

theorem add_stream_twice_on_output_open_run :
    (threadAddStream Env.nominal outputOpenRun (CrasRstream.plain 2 .output)
      [CrasIodev.plain 1 .output]).2 = 0 ∧
    threadAddStream Env.nominal (threadAddStream Env.nominal outputOpenRun
        (CrasRstream.plain 2 .output) [CrasIodev.plain 1 .output]).1
        (CrasRstream.plain 2 .output) [CrasIodev.plain 1 .output] =
      ((threadAddStream Env.nominal outputOpenRun (CrasRstream.plain 2 .output)
        [CrasIodev.plain 1 .output]).1, 0) :=
  have h0 : (threadAddStream Env.nominal outputOpenRun (CrasRstream.plain 2 .output)
      [CrasIodev.plain 1 .output]).2 = 0 := by decide
  ⟨h0, add_stream_twice_is_once Env.nominal Env.nominal outputOpenRun _ _ h0⟩

/-! ## RmOpenDev, and AddOpenDev then RmOpenDev -/

@[simp] theorem foldl_devStreamDestroy_openDevs (l : List DevStream) : ∀ t : AudioThread,
    (l.foldl (fun t ds => t.devStreamDestroy ds) t).openDevs = t.openDevs := by
  induction l with
  | nil => exact fun _ => rfl
  | cons a l ih => exact fun t => ih (t.devStreamDestroy a)

theorem foldl_devStreamDestroy_frees (l : List DevStream) : ∀ t : AudioThread,
    t.liveDevStreams.Nodup → ∀ ds ∈ l,
      ds ∉ (l.foldl (fun t ds => t.devStreamDestroy ds) t).liveDevStreams := by
  induction l with
  | nil => exact fun _ _ _ h => absurd h (List.not_mem_nil _)
  | cons a l ih =>
    intro t hn ds hds
    rcases List.mem_cons.mp hds with rfl | hds
    · exact fun h => hn.not_mem_erase ((foldl_devStreamDestroy l _).2.2.1.subset h)
    · exact ih _ (hn.erase a) ds hds

@[simp] theorem devIoRmOpenDev_openDevs (t : AudioThread) (adev : OpenDev) :
    (devIoRmOpenDev t adev).openDevs = Function.update t.openDevs adev.dev.direction
      ((t.openDevs adev.dev.direction).erase adev) := by
  simp [devIoRmOpenDev]

@[simp] theorem devIoRmOpenDev_devStreams (t : AudioThread) (adev : OpenDev) :
    (devIoRmOpenDev t adev).devStreams = Function.update t.devStreams adev.dev [] := by
  simp [devIoRmOpenDev, (foldl_devStreamDestroy _ t).1]

@[simp] theorem devIoRmOpenDev_liveDevStreams (t : AudioThread) (adev : OpenDev) :
    (devIoRmOpenDev t adev).liveDevStreams =
      ((t.devStreams adev.dev).foldl (fun t ds => t.devStreamDestroy ds) t).liveDevStreams :=
  rfl

theorem dev_not_mem_erase {l : List OpenDev} {adev : OpenDev} (hn : (l.map OpenDev.dev).Nodup)
    (hmem : adev ∈ l) : adev.dev ∉ (l.erase adev).map OpenDev.dev := fun h => by
  obtain ⟨od, hod, hdev⟩ := List.mem_map.mp h
  have hod' : od = adev := List.inj_on_of_nodup_map hn (List.mem_of_mem_erase hod) hmem hdev
  exact (hn.of_map _).not_mem_erase (hod' ▸ hod)

/-- RmOpenDev of an open device returns 0, closes it, empties its list and destroys exactly the
`dev_stream`s it held; every other list is kept. -/
theorem rm_open_dev_releases_device (t : AudioThread) (hi : Invariant t) (ho : Owned t)
    (d : CrasIodev) (hd : d ∈ (t.openDevs d.direction).map OpenDev.dev) :
    (threadRmOpenDev t d).2 = 0 ∧ threadIsDevOpen (threadRmOpenDev t d).1 d = 0 ∧
    (threadRmOpenDev t d).1.devStreams d = [] ∧
    (∀ dev, dev ≠ d → (threadRmOpenDev t d).1.devStreams dev = t.devStreams dev) ∧
    ∀ ds ∈ t.liveDevStreams,
      (ds ∈ (threadRmOpenDev t d).1.liveDevStreams ↔ ds ∉ t.devStreams d) := by
  obtain ⟨adev, hf⟩ := Option.isSome_iff_exists.mp (findOpenDev_isSome.mpr hd)
  have hmem : adev ∈ t.openDevs d.direction := List.mem_of_find?_eq_some hf
  have hdev : adev.dev = d := by simpa using List.find?_some hf
  have hrm : threadRmOpenDev t d = (devIoRmOpenDev t adev, 0) := by
    simp only [threadRmOpenDev, hf]
  subst hdev
  rw [hrm]
  obtain ⟨-, -, -, hm⟩ := foldl_devStreamDestroy (t.devStreams adev.dev) t
  refine ⟨rfl, ?_, by simp, fun dev hne => by simp [Function.update_noteq hne],
    fun ds hds => ⟨fun h hheld => ?_, hm ds hds⟩⟩
  · have hgone := dev_not_mem_erase (hi.openDevs_nodup _) hmem
    simp [threadIsDevOpen, findOpenDev_isSome, hgone]
  · exact foldl_devStreamDestroy_frees _ t ho.live_nodup ds hheld h

theorem rm_open_dev_releases_attached_output :
    Invariant outputAttachedRun ∧ Owned outputAttachedRun ∧
    CrasIodev.plain 1 .output ∈ (outputAttachedRun.openDevs .output).map OpenDev.dev ∧
    (threadRmOpenDev outputAttachedRun (CrasIodev.plain 1 .output)).2 = 0 ∧
    threadIsDevOpen (threadRmOpenDev outputAttachedRun (CrasIodev.plain 1 .output)).1
      (CrasIodev.plain 1 .output) = 0 := by
  have hi : Invariant outputAttachedRun := invariant_reachable (reachable_runThread _ _)
  have ho : Owned outputAttachedRun :=
    owned_handleThreadMessage (owned_handleThreadMessage owned_init _ _) _ _
  have hd : CrasIodev.plain 1 .output ∈ (outputAttachedRun.openDevs .output).map OpenDev.dev := by
    decide
  have h := rm_open_dev_releases_device outputAttachedRun hi ho _ hd
  exact ⟨hi, ho, hd, h.1, h.2.1⟩

theorem threadAddOpenDev_of_not_open {d : CrasIodev}
    (hn : d ∉ (t.openDevs d.direction).map OpenDev.dev) :
    ∃ t₀ : AudioThread, t₀.openDevs = t.openDevs ∧ t₀.devStreams = t.devStreams ∧
      t₀.liveDevStreams = t.liveDevStreams ∧
      threadAddOpenDev t d =
        (t₀.setOpenDevs d.direction (t.openDevs d.direction ++ [⟨d, Timespec.zero⟩]), 0) := by
  refine ⟨if d.direction = .output then t.call (.fillOdevZeros d d.minBufferLevel) else t,
    by split <;> rfl, by split <;> rfl, by split <;> rfl, ?_⟩
  rw [threadAddOpenDev, if_neg (mt findOpenDev_isSome.mp hn)]
  split <;> rfl

/-- AddOpenDev then RmOpenDev of a closed device restores the lists and live `dev_stream`s. -/
theorem add_then_rm_open_dev_round_trip (t : AudioThread) (hi : Invariant t) (d : CrasIodev)
    (hn : d ∉ (t.openDevs d.direction).map OpenDev.dev) :
    (threadAddOpenDev t d).2 = 0 ∧ threadIsDevOpen (threadAddOpenDev t d).1 d = 1 ∧
    (threadRmOpenDev (threadAddOpenDev t d).1 d).2 = 0 ∧
    threadIsDevOpen (threadRmOpenDev (threadAddOpenDev t d).1 d).1 d = 0 ∧
    (threadRmOpenDev (threadAddOpenDev t d).1 d).1.openDevs = t.openDevs ∧
    (threadRmOpenDev (threadAddOpenDev t d).1 d).1.devStreams = t.devStreams ∧
    (threadRmOpenDev (threadAddOpenDev t d).1 d).1.liveDevStreams = t.liveDevStreams := by
  obtain ⟨t₀, ho, hs, hl, hadd⟩ := threadAddOpenDev_of_not_open hn
  have he : t.devStreams d = [] := by
    by_contra h
    exact hn (hi.devStreams_open d h)
  have hx : (⟨d, Timespec.zero⟩ : OpenDev) ∉ t.openDevs d.direction :=
    fun h => hn (List.mem_map_of_mem OpenDev.dev h)
  have hf : findOpenDev (t.openDevs d.direction ++ [⟨d, Timespec.zero⟩]) d =
      some ⟨d, Timespec.zero⟩ := by
    have hnone := Option.not_isSome_iff_eq_none.mp (mt findOpenDev_isSome.mp hn)
    rw [findOpenDev] at hnone ⊢
    simp [List.find?_append, hnone]
  have hrm : threadRmOpenDev (threadAddOpenDev t d).1 d =
      (devIoRmOpenDev (threadAddOpenDev t d).1 ⟨d, Timespec.zero⟩, 0) := by
    simp only [threadRmOpenDev, hadd, AudioThread.setOpenDevs_openDevs, Function.update_same, ho,
      hf]
  have hopen : (threadRmOpenDev (threadAddOpenDev t d).1 d).1.openDevs = t.openDevs := by
    rw [hrm]
    simp [hadd, ho, List.erase_append_right _ hx]
  refine ⟨by rw [hadd], by simp [threadIsDevOpen, hadd, ho, hf], by rw [hrm],
    by simp [threadIsDevOpen, hopen, findOpenDev_isSome, hn], hopen, ?_, ?_⟩
  · rw [hrm]
    simp [hadd, hs, he]
  · rw [hrm]
    simpa [hadd, hs, he] using hl

theorem add_then_rm_input_round_trip_after_attach :
    Invariant outputAttachedRun ∧
    CrasIodev.plain 3 .input ∉ (outputAttachedRun.openDevs .input).map OpenDev.dev ∧
    (threadRmOpenDev (threadAddOpenDev outputAttachedRun (CrasIodev.plain 3 .input)).1
      (CrasIodev.plain 3 .input)).1.openDevs = outputAttachedRun.openDevs := by
  have hi : Invariant outputAttachedRun := invariant_reachable (reachable_runThread _ _)
  have hn : CrasIodev.plain 3 .input ∉ (outputAttachedRun.openDevs .input).map OpenDev.dev := by
    decide
  exact ⟨hi, hn, (add_then_rm_open_dev_round_trip outputAttachedRun hi _ hn).2.2.2.2.1⟩

/-! ## AddStream, then DisconnectStream -/

theorem detachStreamFromDevs_of_not_found (stream : CrasRstream) (ods : List OpenDev)
    (t : AudioThread)
    (hn : ∀ od ∈ ods, stream ∉ (t.devStreams od.dev).map DevStream.stream) :
    detachStreamFromDevs stream ods t = t := by
  induction ods with
  | nil => rfl
  | cons od ods ih =>
    have hd : detachStream t od.dev stream = t := by
      simp only [detachStream, findDevStream_eq_none.mpr (hn od (List.mem_cons_self _ _))]
    show detachStreamFromDevs stream ods (detachStream t od.dev stream) = t
    rw [hd]
    exact ih fun od' h => hn od' (List.mem_cons_of_mem _ h)

theorem threadDisconnectStream_none (t : AudioThread) (stream : CrasRstream) :
    threadDisconnectStream t stream none =
      (detachStreamFromDevs stream (t.openDevs stream.direction) t, 0) := by
  unfold threadDisconnectStream devIoRemoveStream
  split
  · rename_i hf
    rw [detachStreamFromDevs_of_not_found]
    intro od hod hs
    obtain ⟨ds, hds, hst⟩ := List.mem_map.mp hs
    simp only [threadFindStream, Bool.not_eq_true', List.any_eq_false, List.any_eq_true,
      decide_eq_true_eq] at hf
    exact hf od hod ⟨ds, hds, hst⟩
  · simp

theorem detachStreamFromDevs_keeps (stream : CrasRstream) (ods : List OpenDev)
    {l : List DevStream} (hl : ∀ ds ∈ l, ds.stream ≠ stream) :
    ∀ t : AudioThread, l.Sublist t.liveDevStreams →
      l.Sublist (detachStreamFromDevs stream ods t).liveDevStreams := by
  induction ods with
  | nil => exact fun _ h => h
  | cons od ods ih =>
    intro t h
    refine ih _ ?_
    show l.Sublist (detachStream t od.dev stream).liveDevStreams
    unfold detachStream
    split
    · rename_i out hf
      have hout : out ∉ l := fun hm => hl out hm (findDevStream_some hf).2
      have he := h.erase out
      rwa [List.erase_of_not_mem hout] at he
    · exact h

/-- A successful AddStream of a fresh stream, then DisconnectStream from every device, restores
the lists and the live `dev_stream`s. -/
theorem add_then_disconnect_stream_round_trip (env : Env) (t : AudioThread)
    (stream : CrasRstream) (iodevs : List CrasIodev) (hi : Invariant t) (ho : Owned t)
    (hs : ∀ ds ∈ t.liveDevStreams, ds.stream ≠ stream)
    (h0 : (threadAddStream env t stream iodevs).2 = 0) :
    (threadDisconnectStream (threadAddStream env t stream iodevs).1 stream none).2 = 0 ∧
    (threadDisconnectStream (threadAddStream env t stream iodevs).1 stream none).1.openDevs =
      t.openDevs ∧
    (threadDisconnectStream (threadAddStream env t stream iodevs).1 stream none).1.devStreams =
      t.devStreams ∧
    (threadDisconnectStream (threadAddStream env t stream iodevs).1 stream none).1.liveDevStreams =
      t.liveDevStreams := by
  obtain ⟨hr0, hadd⟩ := threadAddStream_of_rc_zero h0
  rw [hadd, threadDisconnectStream_none]
  set t₁ := (appendStreamLoop env stream 0 iodevs (false, Timespec.zero) t).1
  have hat : AttachesOnly stream t t₁ := appendStreamLoop_attachesOnly env stream iodevs 0 _ t
  have ho₁ : Owned t₁ := owned_appendStreamLoop env stream iodevs 0 _ t ho
  have hnew : NewHeld stream t t₁ :=
    newHeld_appendStreamLoop_of_ok env stream t iodevs 0 _ t (fun _ h h' => absurd h h') hr0
  have hrel := releases_detachStreamFromDevs ho₁ stream (t₁.openDevs stream.direction)
  /- No device carries `stream` before AddStream. -/
  have hkeep : ∀ dev, (t.devStreams dev).filter (fun ds => ds.stream ≠ stream) =
      t.devStreams dev := fun dev => List.filter_eq_self.mpr fun ds hds =>
    decide_eq_true (hs ds (ho.held_live dev ds hds))
  refine ⟨rfl, (detachStreamFromDevs_openDevs _ _ _).trans hat.1, funext fun dev => ?_, ?_⟩
  · rw [detachStreamFromDevs_devStreams]
    rcases hat.2 dev with he | ⟨out, hout, -, hdev, he⟩
    · rw [he]
      split_ifs
      · exact hkeep dev
      · rfl
    · rw [if_pos (hat.1 ▸ hdev), he, List.filter_append, hkeep]
      simp [hout]
  · have hsub : t.liveDevStreams.Sublist
        (detachStreamFromDevs stream (t₁.openDevs stream.direction) t₁).liveDevStreams :=
      detachStreamFromDevs_keeps stream _ hs t₁
        (appendStreamLoop_live_sublist env stream iodevs 0 _ t)
    have hback : (detachStreamFromDevs stream (t₁.openDevs stream.direction) t₁).liveDevStreams ⊆
        t.liveDevStreams := fun ds hds => by
      by_contra hold
      obtain ⟨hst, dev, hdev, hmem⟩ := hnew ds (hrel.live.subset hds) hold
      exact detachStreamFromDevs_destroys stream _ hdev hst t₁ ho₁
        ((hi.attachesOnly hat).devStreams_nodup dev) hmem hds
    exact (hsub.eq_of_length_le
      (List.subperm_of_subset (ho₁.releases hrel).live_nodup hback).length_le).symm

theorem add_then_disconnect_round_trip_on_output_open_run :
    Invariant outputOpenRun ∧ Owned outputOpenRun ∧
    (∀ ds ∈ outputOpenRun.liveDevStreams, ds.stream ≠ CrasRstream.plain 2 .output) ∧
    (threadAddStream Env.nominal outputOpenRun (CrasRstream.plain 2 .output)
      [CrasIodev.plain 1 .output]).2 = 0 ∧
    (threadDisconnectStream (threadAddStream Env.nominal outputOpenRun
      (CrasRstream.plain 2 .output) [CrasIodev.plain 1 .output]).1
        (CrasRstream.plain 2 .output) none).1.devStreams = outputOpenRun.devStreams := by
  have hi : Invariant outputOpenRun := invariant_reachable (reachable_runThread _ _)
  have ho : Owned outputOpenRun := owned_handleThreadMessage owned_init _ _
  have hs : ∀ ds ∈ outputOpenRun.liveDevStreams, ds.stream ≠ CrasRstream.plain 2 .output := by
    decide
  have h0 : (threadAddStream Env.nominal outputOpenRun (CrasRstream.plain 2 .output)
      [CrasIodev.plain 1 .output]).2 = 0 := by decide
  exact ⟨hi, ho, hs, h0,
    (add_then_disconnect_stream_round_trip Env.nominal outputOpenRun _ _ hi ho hs h0).2.2.1⟩

end CrasAudio

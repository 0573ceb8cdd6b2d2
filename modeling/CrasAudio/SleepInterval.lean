import CrasAudio.Dispatch
import Mathlib.Order.Lattice

/-! The wake planner: how long the thread may sleep, and how many deadlines it waits on. -/
namespace CrasAudio

/-- What the clock and the device and stream layers answer while the thread plans its sleep. -/
structure WakeEnv where
  now : Timespec
  nextCbTs : DevStream → Option Timespec
  canFetch : DevStream → Bool
  playbackFrames : DevStream → Int
  odevShouldWake : CrasIodev → Bool
  nextInputWake : List OpenDev → Option Timespec × Nat

/-- `*min_ts = *ts` when `min_ts` is after `ts`. -/
def earlier (minTs ts : Timespec) : Timespec := if timespecAfter minTs ts then ts else minTs

/-- `get_next_stream_wake_from_list`: lower `min_ts` to each waiting stream's, and count them. -/
def getNextStreamWakeFromList (env : WakeEnv) (draining : CrasRstream → Bool) :
    List DevStream → Timespec → Timespec × Nat
  | [], minTs => (minTs, 0)
  | ds :: streams, minTs =>
    if draining ds.stream ∧ env.playbackFrames ds ≤ 0 then
      getNextStreamWakeFromList env draining streams minTs
    else if !env.canFetch ds then getNextStreamWakeFromList env draining streams minTs
    else match env.nextCbTs ds with
      | none => getNextStreamWakeFromList env draining streams minTs
      | some nextCbTs =>
        let r := getNextStreamWakeFromList env draining streams (earlier minTs nextCbTs)
        (r.1, r.2 + 1)

/-- `get_next_output_wake`: the output devices' streams, then their hardware clocks. -/
def getNextOutputWake (env : WakeEnv) (t : AudioThread) (odevs : List OpenDev)
    (minTs : Timespec) : Timespec × Nat :=
  let r := odevs.foldl (fun (acc : Timespec × Nat) adev =>
    let r := getNextStreamWakeFromList env t.draining (t.devStreams adev.dev) acc.1
    (r.1, acc.2 + r.2)) (minTs, 0)
  odevs.foldl (fun (acc : Timespec × Nat) adev =>
    if !env.odevShouldWake adev.dev then acc else (earlier acc.1 adev.wakeTs, acc.2 + 1)) r

/-- Modelled from the spec (§4.3): `dev_io_next_input_wake` lowers `min_ts`, and counts. -/
def devIoNextInputWake (env : WakeEnv) (idevs : List OpenDev) (minTs : Timespec) :
    Timespec × Nat :=
  ((env.nextInputWake idevs).1.elim minTs (earlier minTs), (env.nextInputWake idevs).2)

/-- `fill_next_sleep_interval`: the count of deadlines, and the sleep, at most 20 s. -/
def fillNextSleepInterval (env : WakeEnv) (t : AudioThread) : Nat × Timespec :=
  let minTs := addTimespecs (Timespec.ofSec 20) env.now
  let r := getNextOutputWake env t (t.openDevs .output) minTs
  let r' := devIoNextInputWake env (t.openDevs .input) r.1
  (r.2 + r'.2,
    if timespecAfter r'.1 env.now then subtractTimespecs r'.1 env.now else Timespec.zero)

/-! ## The planner's deadlines, stated once -/

/-- The output `dev_stream`s the planner waits on. -/
def waitsOn (env : WakeEnv) (t : AudioThread) (ds : DevStream) : Bool :=
  !(t.draining ds.stream && decide (env.playbackFrames ds ≤ 0)) && env.canFetch ds &&
    (env.nextCbTs ds).isSome

def wakeStreams (env : WakeEnv) (t : AudioThread) : List DevStream :=
  (t.openDevs .output).flatMap fun od => (t.devStreams od.dev).filter (waitsOn env t)

def wakeDevs (env : WakeEnv) (t : AudioThread) : List OpenDev :=
  (t.openDevs .output).filter fun od => env.odevShouldWake od.dev

/-- Every deadline the planner takes the minimum of, besides the 20 s cap. -/
def wakeDeadlines (env : WakeEnv) (t : AudioThread) : List Timespec :=
  (wakeStreams env t).filterMap env.nextCbTs ++ (wakeDevs env t).map OpenDev.wakeTs ++
    (env.nextInputWake (t.openDevs .input)).1.toList

theorem toNs_earlier (minTs ts : Timespec) :
    (earlier minTs ts).toNs = min minTs.toNs ts.toNs := by
  unfold earlier
  split
  · rename_i h
    rw [timespecAfter_iff] at h
    omega
  · rename_i h
    rw [timespecAfter_iff] at h
    omega

theorem foldr_min_init (m a : Int) (l : List Int) : l.foldr min (min m a) = min a (l.foldr min m) := by
  induction l with
  | nil => exact min_comm m a
  | cons b l ih => rw [List.foldr_cons, List.foldr_cons, ih, min_left_comm]

theorem foldr_min_append (m : Int) (l₁ l₂ : List Int) :
    (l₁ ++ l₂).foldr min m = l₂.foldr min (l₁.foldr min m) := by
  induction l₁ with
  | nil => rfl
  | cons a l ih =>
    rw [List.cons_append, List.foldr_cons, ih, List.foldr_cons, min_comm a (l.foldr min m),
      foldr_min_init]

theorem getNextStreamWakeFromList_spec (env : WakeEnv) (t : AudioThread) (l : List DevStream)
    (minTs : Timespec) :
    (getNextStreamWakeFromList env t.draining l minTs).1.toNs =
      (((l.filter (waitsOn env t)).filterMap env.nextCbTs).map Timespec.toNs).foldr min
        minTs.toNs ∧
    (getNextStreamWakeFromList env t.draining l minTs).2 = (l.filter (waitsOn env t)).length := by
  induction l generalizing minTs with
  | nil => exact ⟨rfl, rfl⟩
  | cons ds l ih =>
    unfold getNextStreamWakeFromList
    by_cases hd : t.draining ds.stream = true ∧ env.playbackFrames ds ≤ 0
    · rw [if_pos hd, List.filter_cons_of_neg (by simp [waitsOn, hd.1, hd.2])]
      exact ih minTs
    rw [if_neg hd]
    by_cases hf : env.canFetch ds = false
    · rw [if_pos (by simp [hf]), List.filter_cons_of_neg (by simp [waitsOn, hf])]
      exact ih minTs
    rw [if_neg (by simpa using hf)]
    cases hn : env.nextCbTs ds with
    | none =>
      rw [List.filter_cons_of_neg (by simp [waitsOn, hn])]
      exact ih minTs
    | some ts =>
      have hw : waitsOn env t ds = true := by
        simp only [Bool.not_eq_false] at hf
        simp only [not_and, not_le] at hd
        by_cases hdr : t.draining ds.stream = true <;> simp_all [waitsOn]
      obtain ⟨ih1, ih2⟩ := ih (earlier minTs ts)
      simp only [List.filter_cons_of_pos hw, List.filterMap_cons, hn, List.map_cons,
        List.foldr_cons, List.length_cons, ih1, ih2, toNs_earlier, foldr_min_init, and_true]

theorem getNextOutputWake_streams (env : WakeEnv) (t : AudioThread) (odevs : List OpenDev)
    (acc : Timespec × Nat) :
    let r := odevs.foldl (fun (acc : Timespec × Nat) adev =>
      let r := getNextStreamWakeFromList env t.draining (t.devStreams adev.dev) acc.1
      (r.1, acc.2 + r.2)) acc
    let l := odevs.flatMap fun od => (t.devStreams od.dev).filter (waitsOn env t)
    r.1.toNs = ((l.filterMap env.nextCbTs).map Timespec.toNs).foldr min acc.1.toNs ∧
      r.2 = acc.2 + l.length := by
  induction odevs generalizing acc with
  | nil => exact ⟨rfl, rfl⟩
  | cons od odevs ih =>
    obtain ⟨h1, h2⟩ := getNextStreamWakeFromList_spec env t (t.devStreams od.dev) acc.1
    obtain ⟨ih1, ih2⟩ := ih (_, acc.2 + (getNextStreamWakeFromList env t.draining
      (t.devStreams od.dev) acc.1).2)
    simp only [List.foldl_cons, List.flatMap_cons, List.filterMap_append, List.map_append,
      foldr_min_append, List.length_append] at ih1 ih2 ⊢
    rw [ih1, h1, ih2, h2]
    exact ⟨rfl, by omega⟩

theorem getNextOutputWake_devs (env : WakeEnv) (odevs : List OpenDev) (acc : Timespec × Nat) :
    let r := odevs.foldl (fun (acc : Timespec × Nat) adev =>
      if !env.odevShouldWake adev.dev then acc else (earlier acc.1 adev.wakeTs, acc.2 + 1)) acc
    let l := odevs.filter fun od => env.odevShouldWake od.dev
    r.1.toNs = ((l.map OpenDev.wakeTs).map Timespec.toNs).foldr min acc.1.toNs ∧
      r.2 = acc.2 + l.length := by
  induction odevs generalizing acc with
  | nil => exact ⟨rfl, rfl⟩
  | cons od odevs ih =>
    simp only [List.foldl_cons]
    by_cases hw : env.odevShouldWake od.dev = true
    · obtain ⟨ih1, ih2⟩ := ih (earlier acc.1 od.wakeTs, acc.2 + 1)
      simp only [hw, Bool.not_true, Bool.false_eq_true, if_false, List.filter_cons, if_true,
        List.map_cons, List.foldr_cons, List.length_cons] at ih1 ih2 ⊢
      rw [ih1, ih2, toNs_earlier, foldr_min_init]
      exact ⟨rfl, by omega⟩
    · obtain ⟨ih1, ih2⟩ := ih acc
      simp only [hw, Bool.not_false, if_true, List.filter_cons, Bool.false_eq_true, if_false]
        at ih1 ih2 ⊢
      exact ⟨ih1, ih2⟩

theorem getNextOutputWake_spec (env : WakeEnv) (t : AudioThread) (minTs : Timespec) :
    (getNextOutputWake env t (t.openDevs .output) minTs).1.toNs =
      ((((wakeStreams env t).filterMap env.nextCbTs ++ (wakeDevs env t).map OpenDev.wakeTs)).map
        Timespec.toNs).foldr min minTs.toNs ∧
    (getNextOutputWake env t (t.openDevs .output) minTs).2 =
      (wakeStreams env t).length + (wakeDevs env t).length := by
  obtain ⟨hs1, hs2⟩ := getNextOutputWake_streams env t (t.openDevs .output) (minTs, 0)
  obtain ⟨hd1, hd2⟩ := getNextOutputWake_devs env (t.openDevs .output)
    ((t.openDevs .output).foldl (fun (acc : Timespec × Nat) adev =>
      let r := getNextStreamWakeFromList env t.draining (t.devStreams adev.dev) acc.1
      (r.1, acc.2 + r.2)) (minTs, 0))
  refine ⟨?_, ?_⟩
  · rw [getNextOutputWake, hd1, hs1, List.map_append, foldr_min_append]
    rfl
  · rw [getNextOutputWake, hd2, hs2]
    simp [wakeStreams, wakeDevs]

theorem foldr_min_le_init (m : Int) (l : List Int) : l.foldr min m ≤ m := by
  induction l with
  | nil => exact le_refl m
  | cons a l ih => exact (min_le_right a _).trans ih

/-- The count is the output streams, output devices and input helper waited on; the sleep is
`max(0, m - now)` for the earliest deadline `m`, capped at 20 s and normalised. -/
theorem fill_next_sleep_interval_spec (env : WakeEnv) (t : AudioThread) :
    (fillNextSleepInterval env t).1 = (wakeStreams env t).length + (wakeDevs env t).length +
      (env.nextInputWake (t.openDevs .input)).2 ∧
    (fillNextSleepInterval env t).2.toNs =
      max 0 (((wakeDeadlines env t).map Timespec.toNs).foldr min (env.now.toNs + 20000000000) -
        env.now.toNs) ∧
    0 ≤ (fillNextSleepInterval env t).2.toNs ∧
    (fillNextSleepInterval env t).2.toNs ≤ 20000000000 ∧
    (fillNextSleepInterval env t).2.tvNsec < 1000000000 := by
  obtain ⟨ho1, ho2⟩ := getNextOutputWake_spec env t (addTimespecs (Timespec.ofSec 20) env.now)
  have hm : (devIoNextInputWake env (t.openDevs .input)
      (getNextOutputWake env t (t.openDevs .output) (addTimespecs (Timespec.ofSec 20) env.now)).1).1.toNs =
      ((wakeDeadlines env t).map Timespec.toNs).foldr min (env.now.toNs + 20000000000) := by
    have h20 : (addTimespecs (Timespec.ofSec 20) env.now).toNs = env.now.toNs + 20000000000 := by
      rw [toNs_addTimespecs]; simp only [Timespec.ofSec, Timespec.toNs]; omega
    unfold devIoNextInputWake wakeDeadlines
    rw [List.map_append, foldr_min_append, ← h20, ← ho1]
    cases (env.nextInputWake (t.openDevs .input)).1 with
    | none => rfl
    | some d => exact (toNs_earlier _ d).trans (Int.min_comm _ _)
  have hle := foldr_min_le_init (env.now.toNs + 20000000000) ((wakeDeadlines env t).map Timespec.toNs)
  have hts : (fillNextSleepInterval env t).2.toNs =
      max 0 (((wakeDeadlines env t).map Timespec.toNs).foldr min (env.now.toNs + 20000000000) -
        env.now.toNs) := by
    unfold fillNextSleepInterval
    dsimp only
    split
    · rename_i h
      rw [timespecAfter_iff, hm] at h
      rw [toNs_subtractTimespecs, hm]
      omega
    · rename_i h
      rw [timespecAfter_iff, hm] at h
      rw [Timespec.toNs_zero]
      omega
  refine ⟨?_, hts, by omega, by omega, (fillNextSleepInterval env t).2.tvNsec_lt⟩
  unfold fillNextSleepInterval devIoNextInputWake
  dsimp only
  rw [ho2]

end CrasAudio

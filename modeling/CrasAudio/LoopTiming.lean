import CrasAudio.PollLoop

/-! What the loop of `audio_io_thread` carries from one iteration to the next before `ppoll`:
the count of zero waits behind `check_busyloop`, and `longest_wake` with its reset by a dump. -/
namespace CrasAudio

/-! ## The busy-loop count over a run of waits -/

/-- The zero waits since the last non-zero one; a NULL wait neither counts nor ends them. -/
def zeroStreak (n : Nat) : List (Option Timespec) → Nat
  | [] => n
  | none :: ws => zeroStreak n ws
  | some ts :: ws => zeroStreak (if ts.tvSec = 0 ∧ ts.tvNsec = 0 then n + 1 else 0) ws

/-- The zero waits of a run at which the streak reaches 2 modulo 2^32. -/
def busyloopFirings (n : Nat) : List (Option Timespec) → Nat
  | [] => 0
  | none :: ws => busyloopFirings n ws
  | some ts :: ws =>
    (if ts.tvSec = 0 ∧ ts.tvNsec = 0 ∧ (n + 1) % 4294967296 = 2 then 1 else 0) +
      busyloopFirings (if ts.tvSec = 0 ∧ ts.tvNsec = 0 then n + 1 else 0) ws

theorem zeroStreak_append (n : Nat) (xs ys : List (Option Timespec)) :
    zeroStreak n (xs ++ ys) = zeroStreak (zeroStreak n xs) ys := by
  induction xs generalizing n with
  | nil => rfl
  | cons w xs ih => cases w <;> exact ih _

theorem busyloopFirings_append (n : Nat) (xs ys : List (Option Timespec)) :
    busyloopFirings n (xs ++ ys) = busyloopFirings n xs + busyloopFirings (zeroStreak n xs) ys := by
  induction xs generalizing n with
  | nil => simp [busyloopFirings, zeroStreak]
  | cons w xs ih =>
    cases w with
    | none => exact ih n
    | some ts =>
      rw [List.cons_append, busyloopFirings, busyloopFirings, ih, zeroStreak]
      omega

theorem int32_int32_add_one (n : Int) : int32 (int32 n + 1) = int32 (n + 1) := by
  unfold int32
  omega

namespace AudioThread

variable (t : AudioThread) (now : Timespec)

theorem measureWake_busy : (t.measureWake now).continuousZeroSleepCount =
    t.continuousZeroSleepCount ∧ (t.measureWake now).calls = t.calls := by
  unfold measureWake
  split
  · dsimp only
    split <;> exact ⟨rfl, rfl⟩
  · exact ⟨rfl, rfl⟩

theorem prePoll_busy {n : Nat} (hn : t.continuousZeroSleepCount = int32 n)
    (w : Option Timespec) :
    (t.prePoll now w).continuousZeroSleepCount = int32 (zeroStreak n [w]) ∧
    (t.prePoll now w).calls =
      t.calls ++ List.replicate (busyloopFirings n [w]) .audioThreadBusyloop := by
  obtain ⟨hc, hl⟩ := t.measureWake_busy now
  cases w with
  | none =>
    have hp : t.prePoll now none = t.measureWake now := rfl
    rw [hp, hc, hl, hn]
    simp [zeroStreak, busyloopFirings]
  | some ts =>
    have hp : t.prePoll now (some ts) = (t.measureWake now).checkBusyloop ts := rfl
    have h2 : int32 ((n : Int) + 1) = 2 ↔ (n + 1) % 4294967296 = 2 := by
      unfold int32
      omega
    obtain ⟨hc', hl'⟩ := (t.measureWake now).checkBusyloop_spec ts
    rw [hp, hc', hl', hc, hn, hl, int32_int32_add_one, maxContinuousZeroSleepCount]
    simp only [zeroStreak, busyloopFirings, ← and_assoc]
    by_cases hz : ts.tvSec = 0 ∧ ts.tvNsec = 0
    · by_cases hf : (n + 1) % 4294967296 = 2 <;> simp [hz, hf, h2]
    · simp [hz, int32]

end AudioThread

/-- Over a run of waits the count is the int of the streak, with one call per firing. -/
theorem prePoll_run_busy (ws : List (Timespec × Option Timespec)) :
    ∀ (t : AudioThread) (n : Nat), t.continuousZeroSleepCount = int32 n →
      (ws.foldl (fun t w => t.prePoll w.1 w.2) t).continuousZeroSleepCount =
        int32 (zeroStreak n (ws.map Prod.snd)) ∧
      (ws.foldl (fun t w => t.prePoll w.1 w.2) t).calls =
        t.calls ++ List.replicate (busyloopFirings n (ws.map Prod.snd)) .audioThreadBusyloop := by
  induction ws with
  | nil => exact fun t n hn => ⟨hn, by simp [busyloopFirings]⟩
  | cons w ws ih =>
    intro t n hn
    obtain ⟨hc, hl⟩ := t.prePoll_busy w.1 hn w.2
    obtain ⟨hc', hl'⟩ := ih _ _ hc
    refine ⟨by rw [List.foldl_cons, hc', ← zeroStreak_append]; rfl, ?_⟩
    rw [List.foldl_cons, hl', hl, List.append_assoc, ← List.replicate_add,
      ← busyloopFirings_append]
    rfl

/-- Before each iteration the count is the int of the zero-wait streak, which NULL waits skip; the
iteration calls `cras_audio_thread_busyloop` once exactly when a zero wait brings it to 2 mod 2^32. -/
theorem busyloop_called_when_streak_reaches_two (t : AudioThread) (n : Nat)
    (hn : t.continuousZeroSleepCount = int32 n) (pre : List (Timespec × Option Timespec))
    (now : Timespec) (w : Option Timespec) :
    (pre.foldl (fun t w => t.prePoll w.1 w.2) t).continuousZeroSleepCount =
        int32 (zeroStreak n (pre.map Prod.snd)) ∧
      ((pre.foldl (fun t w => t.prePoll w.1 w.2) t).prePoll now w).calls =
        (pre.foldl (fun t w => t.prePoll w.1 w.2) t).calls ++
          match w with
          | some ts =>
            if ts.tvSec = 0 ∧ ts.tvNsec = 0 ∧
                (zeroStreak n (pre.map Prod.snd) + 1) % 4294967296 = 2
            then [.audioThreadBusyloop] else []
          | none => [] := by
  obtain ⟨hc, -⟩ := prePoll_run_busy pre t n hn
  refine ⟨hc, ?_⟩
  rw [((pre.foldl (fun t w => t.prePoll w.1 w.2) t).prePoll_busy now hc w).2]
  cases w with
  | none => rfl
  | some ts => simp only [busyloopFirings, Nat.add_zero]; split <;> rfl

theorem busyloop_called_at_second_zero_wait :
    ((([(Timespec.zero, some Timespec.zero)] : List (Timespec × Option Timespec)).foldl
      (fun t w => t.prePoll w.1 w.2) AudioThread.init).prePoll Timespec.zero
        (some Timespec.zero)).calls = [.audioThreadBusyloop] := by
  obtain ⟨-, h⟩ := busyloop_called_when_streak_reaches_two AudioThread.init 0 (by decide)
    [(Timespec.zero, some Timespec.zero)] Timespec.zero (some Timespec.zero)
  rw [h]
  decide

theorem zeroStreak_replicate (n m : Nat) :
    zeroStreak n (List.replicate m (some Timespec.zero)) = n + m := by
  induction m generalizing n with
  | zero => rfl
  | succ m ih =>
    rw [List.replicate_succ, zeroStreak, if_pos ⟨rfl, rfl⟩, ih]
    omega

theorem busyloopFirings_replicate_eq_zero {n m : Nat}
    (h : ∀ k < m, (n + k + 1) % 4294967296 ≠ 2) :
    busyloopFirings n (List.replicate m (some Timespec.zero)) = 0 := by
  induction m generalizing n with
  | zero => rfl
  | succ m ih =>
    rw [List.replicate_succ, busyloopFirings, if_neg fun hz => h 0 (by omega) hz.2.2,
      if_pos ⟨rfl, rfl⟩, ih fun k hk => by have := h (k + 1) (by omega); omega]

/-- A NULL wait does not end a streak and the count wraps: zero, NULL, zero calls
`cras_audio_thread_busyloop`, and 2^32 + 2 zero waits call it twice. -/
theorem busyloop_across_null_wait_and_after_wrap :
    (([(Timespec.zero, some Timespec.zero), (Timespec.zero, none),
        (Timespec.zero, some Timespec.zero)] : List (Timespec × Option Timespec)).foldl
      (fun t w => t.prePoll w.1 w.2) AudioThread.init).calls = [.audioThreadBusyloop] ∧
    ((List.replicate 4294967298 (Timespec.zero, some Timespec.zero)).foldl
      (fun t w => t.prePoll w.1 w.2) AudioThread.init).calls.count .audioThreadBusyloop = 2 := by
  refine ⟨by decide, ?_⟩
  have h₁ : busyloopFirings 0 (List.replicate 2 (some Timespec.zero)) = 1 := rfl
  have h₂ : busyloopFirings 2 (List.replicate 4294967295 (some Timespec.zero)) = 0 :=
    busyloopFirings_replicate_eq_zero fun k hk => by omega
  have h₃ : busyloopFirings 4294967297 (List.replicate 1 (some Timespec.zero)) = 1 := by
    rw [List.replicate_one, busyloopFirings, busyloopFirings,
      if_pos ⟨rfl, rfl, show (4294967297 + 1) % 4294967296 = 2 from rfl⟩]
  have hfire : busyloopFirings 0 (List.replicate 4294967298 (some Timespec.zero)) = 2 := by
    rw [show 4294967298 = 2 + 4294967295 + 1 from rfl, List.replicate_add, List.replicate_add,
      busyloopFirings_append, busyloopFirings_append, zeroStreak_append, zeroStreak_replicate,
      zeroStreak_replicate, show 0 + 2 = 2 from rfl, show 2 + 4294967295 = 4294967297 from rfl,
      h₁, h₂, h₃]
  rw [(prePoll_run_busy _ AudioThread.init 0 (by decide)).2, List.map_replicate, hfire]
  decide

/-! ## `longest_wake` and the dump -/

/-- Three idle iterations on pipe 3: wakes of 5 s then 1 s, a Dump Thread Info between. -/
def idleDumpEnvs : List PollEnv :=
  [{ ops := [], streamFd := fun _ => -1, pollFails := false, revents := fun _ _ => 0,
     msg := none, msgEnv := Env.nominal, plan := WakeEnv.idle,
     beforePoll := Timespec.zero, afterPoll := Timespec.ofSec 10 },
   { ops := [], streamFd := fun _ => -1, pollFails := false,
     revents := fun fd _ => if fd = 3 then pollin else 0,
     msg := some .dumpThreadInfo, msgEnv := Env.nominal, plan := WakeEnv.idle,
     beforePoll := Timespec.ofSec 15, afterPoll := Timespec.ofSec 20 },
   { ops := [], streamFd := fun _ => -1, pollFails := false, revents := fun _ _ => 0,
     msg := none, msgEnv := Env.nominal, plan := WakeEnv.idle,
     beforePoll := Timespec.ofSec 21, afterPoll := Timespec.ofSec 22 }]

/-- A dump without streams resets nothing: `longest_wake` keeps the 5 s wake. -/
theorem longest_wake_kept_across_idle_dump :
    ((audioIoThread 3 1 idleDumpEnvs AudioThread.init).map fun trace =>
      trace.map fun p => p.1.longestWake) =
      some [Timespec.zero, Timespec.ofSec 5, Timespec.ofSec 5] ∧
    subtractTimespecs (Timespec.ofSec 21) (Timespec.ofSec 20) = Timespec.ofSec 1 := by
  decide

end CrasAudio

import CrasAudio.SleepInterval
import CrasAudio.Invariant

/-! The loop of `audio_io_thread`: the sleep it plans, the poll set it builds from the registry
and the streams, the wake measurement and busy-loop check before `ppoll`, `ppoll`, the command
it handles and the callbacks it dispatches. -/
namespace CrasAudio

/-- `MAX_CONTINUOUS_ZERO_SLEEP_COUNT`. -/
def maxContinuousZeroSleepCount : Int := 2

/-- `wait_ts`: the planned sleep when there is a deadline, NULL when there is none. -/
def sleepWait (env : WakeEnv) (t : AudioThread) : Option Timespec :=
  let r := fillNextSleepInterval env t
  if r.1 = 0 then none else some r.2

namespace AudioThread

/-- `add_pollfd`: append an entry; when the array fills, double it and return NULL. -/
def addPollfd (t : AudioThread) (fd : Int) (isWrite : Bool) : AudioThread × Option Nat :=
  let t' := { t with
    pollfds := Function.update t.pollfds t.numPollfds
      { t.pollfds t.numPollfds with fd := fd, events := if isWrite then pollout else pollin }
    numPollfds := t.numPollfds + 1 }
  if t'.pollfdsSize ≤ t'.numPollfds then ({ t' with pollfdsSize := t'.pollfdsSize * 2 }, none)
  else (t', some t.numPollfds)

/-- Before the loop: `pollfds[0]` watches the pipe, and the wake bookkeeping is cleared. -/
def startPoll (t : AudioThread) (msgFd : Int) : AudioThread :=
  { t with
    pollfds := Function.update t.pollfds 0 { t.pollfds 0 with fd := msgFd, events := pollin }
    lastWake := Timespec.zero
    longestWake := Timespec.zero }

/-- The registry after the calls `ops`. -/
def applyCallbackOps (t : AudioThread) (ops : List CallbackOp) : AudioThread :=
  { t with iodevCallbacks := ops.foldl (fun cbs op => op.apply cbs) t.iodevCallbacks }

/-- Once a wake happened, the time since `last_wake` raises `longest_wake` when longer. -/
def measureWake (t : AudioThread) (now : Timespec) : AudioThread :=
  if t.lastWake.tvSec ≠ 0 then
    let thisWake := subtractTimespecs now t.lastWake
    if timespecAfter thisWake t.longestWake then { t with longestWake := thisWake } else t
  else t

/-- `check_busyloop(wait_ts)`: a zero wait counts, and reaching the maximum calls
`cras_audio_thread_busyloop()`; any other wait clears the 32-bit count. -/
def checkBusyloop (t : AudioThread) (waitTs : Timespec) : AudioThread :=
  if waitTs.tvSec = 0 ∧ waitTs.tvNsec = 0 then
    let count := int32 (t.continuousZeroSleepCount + 1)
    let t := { t with continuousZeroSleepCount := count }
    if count = maxContinuousZeroSleepCount then t.call .audioThreadBusyloop else t
  else { t with continuousZeroSleepCount := 0 }

/-- Between the poll-set build and `ppoll`: the wake measurement, then `check_busyloop`. -/
def prePoll (t : AudioThread) (now : Timespec) (waitTs : Option Timespec) : AudioThread :=
  let t := t.measureWake now
  match waitTs with
  | some ts => t.checkBusyloop ts
  | none => t

variable (t : AudioThread) (fd : Int) (isWrite : Bool)

@[simp] theorem addPollfd_pollfds : (t.addPollfd fd isWrite).1.pollfds =
    Function.update t.pollfds t.numPollfds
      { t.pollfds t.numPollfds with fd := fd, events := if isWrite then pollout else pollin } := by
  unfold addPollfd; dsimp only; split_ifs <;> rfl

@[simp] theorem addPollfd_numPollfds :
    (t.addPollfd fd isWrite).1.numPollfds = t.numPollfds + 1 := by
  unfold addPollfd; dsimp only; split_ifs <;> rfl

@[simp] theorem addPollfd_iodevCallbacks :
    (t.addPollfd fd isWrite).1.iodevCallbacks = t.iodevCallbacks := by
  unfold addPollfd; dsimp only; split_ifs <;> rfl

theorem addPollfd_snd {i : Nat} (h : (t.addPollfd fd isWrite).2 = some i) : i = t.numPollfds := by
  unfold addPollfd at h; dsimp only at h; split_ifs at h <;> cases h <;> rfl

variable (now : Timespec) (waitTs : Option Timespec)

theorem prePoll_eq : ∃ lw count calls, t.prePoll now waitTs =
    { t with longestWake := lw, continuousZeroSleepCount := count, calls := calls } := by
  obtain ⟨lw, hw⟩ : ∃ lw, t.measureWake now = { t with longestWake := lw } := by
    unfold measureWake
    split
    · dsimp only
      split <;> exact ⟨_, rfl⟩
    · exact ⟨_, rfl⟩
  unfold prePoll
  rw [hw]
  cases waitTs with
  | none => exact ⟨lw, _, _, rfl⟩
  | some ts =>
    unfold checkBusyloop call
    dsimp only
    split
    · split <;> exact ⟨lw, _, _, rfl⟩
    · exact ⟨lw, _, _, rfl⟩

@[simp] theorem prePoll_pollfds : (t.prePoll now waitTs).pollfds = t.pollfds := by
  obtain ⟨_, _, _, h⟩ := prePoll_eq t now waitTs
  rw [h]

@[simp] theorem prePoll_numPollfds : (t.prePoll now waitTs).numPollfds = t.numPollfds := by
  obtain ⟨_, _, _, h⟩ := prePoll_eq t now waitTs
  rw [h]

@[simp] theorem prePoll_iodevCallbacks :
    (t.prePoll now waitTs).iodevCallbacks = t.iodevCallbacks := by
  obtain ⟨_, _, _, h⟩ := prePoll_eq t now waitTs
  rw [h]

theorem measureWake_longestWake : (t.measureWake now).longestWake.toNs =
    if t.lastWake.tvSec ≠ 0 then max t.longestWake.toNs (now.toNs - t.lastWake.toNs)
    else t.longestWake.toNs := by
  unfold measureWake
  dsimp only
  split_ifs with h1 h2
  · simp only [timespecAfter_iff, toNs_subtractTimespecs] at h2 ⊢
    omega
  · simp only [timespecAfter_iff, toNs_subtractTimespecs, not_lt] at h2
    omega
  · rfl

theorem checkBusyloop_spec (ts : Timespec) :
    (t.checkBusyloop ts).continuousZeroSleepCount =
      (if ts.tvSec = 0 ∧ ts.tvNsec = 0 then int32 (t.continuousZeroSleepCount + 1) else 0) ∧
    (t.checkBusyloop ts).calls = t.calls ++
      (if ts.tvSec = 0 ∧ ts.tvNsec = 0 ∧
          int32 (t.continuousZeroSleepCount + 1) = maxContinuousZeroSleepCount
        then [.audioThreadBusyloop] else []) := by
  unfold checkBusyloop
  split_ifs <;> simp_all [call]

end AudioThread

/-! ## Building the poll set -/

/-- The pass over `iodev_callbacks`: each enabled record gets an entry; a NULL ends it. -/
def pollCallbacks : List IodevCallback → AudioThread → AudioThread × List IodevCallback × Bool
  | [], t => (t, [], true)
  | c :: cs, t =>
    if !c.enabled then
      let r := pollCallbacks cs t
      (r.1, c :: r.2.1, r.2.2)
    else
      let a := t.addPollfd c.fd c.isWrite
      match a.2 with
      | none => (a.1, { c with pollfd := none } :: cs, false)
      | some i =>
        let r := pollCallbacks cs a.1
        (r.1, { c with pollfd := some i } :: r.2.1, r.2.2)

/-- The passes over the output, then the input devices' stream descriptors. -/
def pollStreamFds : List Int → AudioThread → AudioThread × Bool
  | [], t => (t, true)
  | fd :: fds, t =>
    if fd < 0 then pollStreamFds fds t
    else
      let a := t.addPollfd fd false
      if a.2.isNone then (a.1, false) else pollStreamFds fds a.1

/-- The descriptors of the streams of the open devices, output devices first. -/
def streamPollFds (streamFd : DevStream → Int) (t : AudioThread) : List Int :=
  (t.openDevs .output ++ t.openDevs .input).flatMap fun adev =>
    (t.devStreams adev.dev).map streamFd

/-- One pass from `restart_poll_loop`; `false` when it ended on a NULL. -/
def buildPollSetPass (streamFd : DevStream → Int) (t : AudioThread) : AudioThread × Bool :=
  let r := pollCallbacks t.iodevCallbacks { t with numPollfds := 1 }
  let t := { r.1 with iodevCallbacks := r.2.1 }
  if r.2.2 then pollStreamFds (streamPollFds streamFd t) t else (t, false)

/-- The passes of `goto restart_poll_loop`, at most `fuel` of them. -/
def buildPollSet (streamFd : DevStream → Int) : Nat → AudioThread → Option AudioThread
  | 0, _ => none
  | fuel + 1, t =>
    let r := buildPollSetPass streamFd t
    if r.2 then some r.1 else buildPollSet streamFd fuel r.1

/-! ## One iteration -/

/-- What the other threads and the kernel do around one iteration of the loop. -/
structure PollEnv where
  /-- The registry calls made since the previous iteration, by other threads or by the
  previous iteration's handlers. -/
  ops : List CallbackOp
  /-- `dev_stream_poll_stream_fd`. -/
  streamFd : DevStream → Int
  /-- `ppoll` fails, with `EINTR` for instance. -/
  pollFails : Bool
  /-- The `revents` the kernel reports for a descriptor polled for `events`. -/
  revents : Int → Nat → Nat
  /-- The command `audio_thread_read_command` reads, when it succeeds. -/
  msg : Option AudioThreadMsg
  /-- What the external layers answer while that command is handled. -/
  msgEnv : Env
  /-- What `fill_next_sleep_interval` reads. -/
  plan : WakeEnv
  /-- The clock once the poll set is built. -/
  beforePoll : Timespec
  /-- The clock when `ppoll` returns: the next `last_wake`. -/
  afterPoll : Timespec

/-- `ppoll` over the first `num_pollfds` entries: their `revents` and the ready count, or -1. -/
def ppoll (env : PollEnv) (t : AudioThread) : AudioThread × Int :=
  if env.pollFails then (t, -1)
  else
    ({ t with pollfds := fun i => if i < t.numPollfds then
        { t.pollfds i with revents := env.revents (t.pollfds i).fd (t.pollfds i).events }
        else t.pollfds i },
      ((List.range t.numPollfds).filter fun i =>
        env.revents (t.pollfds i).fd (t.pollfds i).events ≠ 0).length)

/-- The records whose `cb(cb_data)` runs: `pollfd` set, `POLLIN` or `POLLOUT` reported. -/
def dispatchCallbacks (t : AudioThread) : List IodevCallback :=
  t.iodevCallbacks.filter fun c => match c.pollfd with
    | some i => (t.pollfds i).revents &&& (pollin ||| pollout) != 0
    | none => false

/-- How an iteration ends: on to the next, with the handlers run, or out after a Stop. -/
inductive LoopStep
  | next (t : AudioThread) (invoked : List IodevCallback)
  | exit (t : AudioThread)

/-- The state an iteration ends in. -/
def LoopStep.thread : LoopStep → AudioThread
  | .next t _ => t
  | .exit t => t

/-- One pass of the `while (1)` body of `audio_io_thread`; `dev_io_run` reaches the planner
through `env.plan`. `none` when the poll set is still being rebuilt after `fuel` passes. -/
def audioIoThreadIteration (env : PollEnv) (fuel : Nat) (t : AudioThread) : Option LoopStep :=
  let waitTs := sleepWait env.plan t
  (buildPollSet env.streamFd fuel t).map fun t =>
    let p := ppoll env (t.prePoll env.beforePoll waitTs)
    let t := { p.1 with lastWake := env.afterPoll }
    if p.2 ≤ 0 then .next t []
    else if (t.pollfds 0).revents &&& pollin = 0 then .next t (dispatchCallbacks t)
    else match env.msg with
      | none => .next t (dispatchCallbacks t)
      | some .stop => .exit t
      | some m =>
        let t := (handleThreadMessage env.msgEnv t m).1
        .next t (dispatchCallbacks t)

/-- The iterations of the loop, each after its registry calls, with the handlers run. -/
def audioIoThreadLoop (fuel : Nat) :
    List PollEnv → AudioThread → Option (List (AudioThread × List IodevCallback))
  | [], _ => some []
  | env :: envs, t =>
    match audioIoThreadIteration env fuel (t.applyCallbackOps env.ops) with
    | none => none
    | some (.exit t) => some [(t, [])]
    | some (.next t invoked) => (audioIoThreadLoop fuel envs t).map ((t, invoked) :: ·)

/-- `audio_io_thread` on the message pipe `msgFd`. -/
def audioIoThread (msgFd : Int) (fuel : Nat) (envs : List PollEnv) (t : AudioThread) :
    Option (List (AudioThread × List IodevCallback)) :=
  audioIoThreadLoop fuel envs (t.startPoll msgFd)

/-! ## What a built poll set holds -/

/-- Entry `i` of the poll set holds `c`'s descriptor and events. -/
def EntryFor (t : AudioThread) (c : IodevCallback) (i : Nat) : Prop :=
  i < t.numPollfds ∧ (t.pollfds i).fd = c.fd ∧
    (t.pollfds i).events = if c.isWrite then pollout else pollin

/-- `t'` keeps the entries of `t`, and may have more. -/
def KeepsEntries (t t' : AudioThread) : Prop :=
  t.numPollfds ≤ t'.numPollfds ∧ ∀ i < t.numPollfds, t'.pollfds i = t.pollfds i

namespace KeepsEntries

variable {t t' t'' : AudioThread}

theorem refl (t : AudioThread) : KeepsEntries t t := ⟨le_refl _, fun _ _ => rfl⟩

theorem trans (h : KeepsEntries t t') (h' : KeepsEntries t' t'') : KeepsEntries t t'' :=
  ⟨h.1.trans h'.1, fun i hi => (h'.2 i (lt_of_lt_of_le hi h.1)).trans (h.2 i hi)⟩

theorem entryFor {c : IodevCallback} {i : Nat} (h : KeepsEntries t t') (he : EntryFor t c i) :
    EntryFor t' c i := by
  obtain ⟨hi, hfd, hev⟩ := he
  exact ⟨lt_of_lt_of_le hi h.1, h.2 i hi ▸ hfd, h.2 i hi ▸ hev⟩

end KeepsEntries

theorem addPollfd_keepsEntries (t : AudioThread) (fd : Int) (isWrite : Bool) :
    KeepsEntries t (t.addPollfd fd isWrite).1 := by
  refine ⟨by simp, fun i hi => ?_⟩
  rw [AudioThread.addPollfd_pollfds, Function.update_noteq (Nat.ne_of_lt hi)]

theorem addPollfd_entryFor (t : AudioThread) (c : IodevCallback) :
    EntryFor (t.addPollfd c.fd c.isWrite).1 c t.numPollfds :=
  ⟨by simp, by simp, by simp⟩

section PollCallbacks

variable {c : IodevCallback} {cs : List IodevCallback} {t : AudioThread}

theorem pollCallbacks_cons_disabled (h : c.enabled = false) :
    pollCallbacks (c :: cs) t =
      ((pollCallbacks cs t).1, c :: (pollCallbacks cs t).2.1, (pollCallbacks cs t).2.2) := by
  simp [pollCallbacks, h]

theorem pollCallbacks_cons_null (h : c.enabled = true)
    (ha : (t.addPollfd c.fd c.isWrite).2 = none) :
    pollCallbacks (c :: cs) t =
      ((t.addPollfd c.fd c.isWrite).1, { c with pollfd := none } :: cs, false) := by
  simp [pollCallbacks, h, ha]

theorem pollCallbacks_cons_some {i : Nat} (h : c.enabled = true)
    (ha : (t.addPollfd c.fd c.isWrite).2 = some i) :
    pollCallbacks (c :: cs) t =
      ((pollCallbacks cs (t.addPollfd c.fd c.isWrite).1).1,
        { c with pollfd := some i } :: (pollCallbacks cs (t.addPollfd c.fd c.isWrite).1).2.1,
        (pollCallbacks cs (t.addPollfd c.fd c.isWrite).1).2.2) := by
  simp [pollCallbacks, h, ha]

end PollCallbacks

theorem pollCallbacks_keepsEntries (cs : List IodevCallback) :
    ∀ t, KeepsEntries t (pollCallbacks cs t).1 := by
  induction cs with
  | nil => exact KeepsEntries.refl
  | cons c cs ih =>
    intro t
    cases hen : c.enabled
    · rw [pollCallbacks_cons_disabled hen]
      exact ih t
    · cases ha : (t.addPollfd c.fd c.isWrite).2 with
      | none =>
        rw [pollCallbacks_cons_null hen ha]
        exact addPollfd_keepsEntries _ _ _
      | some i =>
        rw [pollCallbacks_cons_some hen ha]
        exact (addPollfd_keepsEntries _ _ _).trans (ih _)

theorem pollCallbacks_disabled (cs : List IodevCallback) :
    ∀ t, ∀ c ∈ (pollCallbacks cs t).2.1, c.enabled = false → c ∈ cs := by
  induction cs with
  | nil => intro t c hc; simp [pollCallbacks] at hc
  | cons c cs ih =>
    intro t c' hc' he
    cases hen : c.enabled
    · rw [pollCallbacks_cons_disabled hen] at hc'
      rcases List.mem_cons.mp hc' with rfl | hc'
      · exact List.mem_cons_self _ _
      · exact List.mem_cons_of_mem _ (ih t c' hc' he)
    · cases ha : (t.addPollfd c.fd c.isWrite).2 with
      | none =>
        rw [pollCallbacks_cons_null hen ha] at hc'
        rcases List.mem_cons.mp hc' with rfl | hc'
        · simp [hen] at he
        · exact List.mem_cons_of_mem _ hc'
      | some i =>
        rw [pollCallbacks_cons_some hen ha] at hc'
        rcases List.mem_cons.mp hc' with rfl | hc'
        · simp [hen] at he
        · exact List.mem_cons_of_mem _ (ih _ c' hc' he)

theorem pollCallbacks_enabled (cs : List IodevCallback) :
    ∀ t, (pollCallbacks cs t).2.2 = true → ∀ c ∈ (pollCallbacks cs t).2.1, c.enabled = true →
      ∃ i, c.pollfd = some i ∧ t.numPollfds ≤ i ∧ EntryFor (pollCallbacks cs t).1 c i := by
  induction cs with
  | nil => intro t _ c hc; simp [pollCallbacks] at hc
  | cons c cs ih =>
    intro t hok c' hc' he
    cases hen : c.enabled
    · rw [pollCallbacks_cons_disabled hen] at hok hc' ⊢
      rcases List.mem_cons.mp hc' with rfl | hc'
      · simp [hen] at he
      · exact ih t hok c' hc' he
    · cases ha : (t.addPollfd c.fd c.isWrite).2 with
      | none =>
        rw [pollCallbacks_cons_null hen ha] at hok
        cases hok
      | some i =>
        rw [pollCallbacks_cons_some hen ha] at hok hc' ⊢
        have hi := AudioThread.addPollfd_snd _ _ _ ha
        have hk := pollCallbacks_keepsEntries cs (t.addPollfd c.fd c.isWrite).1
        rcases List.mem_cons.mp hc' with rfl | hc'
        · exact ⟨i, rfl, hi.ge, hk.entryFor (hi ▸ addPollfd_entryFor t c)⟩
        · obtain ⟨j, hj, hle, hej⟩ := ih _ hok c' hc' he
          exact ⟨j, hj, by simp at hle; omega, hej⟩

theorem pollStreamFds_keepsEntries (fds : List Int) :
    ∀ t, KeepsEntries t (pollStreamFds fds t).1 ∧
      (pollStreamFds fds t).1.iodevCallbacks = t.iodevCallbacks := by
  induction fds with
  | nil => exact fun t => ⟨KeepsEntries.refl t, rfl⟩
  | cons fd fds ih =>
    intro t
    unfold pollStreamFds
    split
    · exact ih t
    · dsimp only
      split
      · exact ⟨addPollfd_keepsEntries _ _ _, by simp⟩
      · obtain ⟨hk, hc⟩ := ih (t.addPollfd fd false).1
        exact ⟨(addPollfd_keepsEntries _ _ _).trans hk, by simp [hc]⟩

theorem pollCallbacks_keys (cs : List IodevCallback) :
    ∀ t, (pollCallbacks cs t).2.1.map IodevCallback.key = cs.map IodevCallback.key := by
  induction cs with
  | nil => intro t; rfl
  | cons c cs ih =>
    intro t
    cases hen : c.enabled
    · rw [pollCallbacks_cons_disabled hen, List.map_cons, ih]
      rfl
    · cases ha : (t.addPollfd c.fd c.isWrite).2 with
      | none => rw [pollCallbacks_cons_null hen ha]; rfl
      | some i => rw [pollCallbacks_cons_some hen ha, List.map_cons, ih]; rfl

theorem buildPollSetPass_keys (streamFd : DevStream → Int) (t : AudioThread) :
    (buildPollSetPass streamFd t).1.iodevCallbacks.map IodevCallback.key =
      t.iodevCallbacks.map IodevCallback.key := by
  unfold buildPollSetPass
  dsimp only
  split
  · rw [(pollStreamFds_keepsEntries _ _).2]
    exact pollCallbacks_keys _ _
  · exact pollCallbacks_keys _ _

theorem buildPollSet_keys (streamFd : DevStream → Int) (fuel : Nat) :
    ∀ t t', buildPollSet streamFd fuel t = some t' →
      t'.iodevCallbacks.map IodevCallback.key = t.iodevCallbacks.map IodevCallback.key := by
  induction fuel with
  | zero => intro t t' h; cases h
  | succ fuel ih =>
    intro t t' h
    unfold buildPollSet at h
    dsimp only at h
    split at h
    · cases h
      exact buildPollSetPass_keys streamFd t
    · exact (ih _ _ h).trans (buildPollSetPass_keys streamFd t)

theorem buildPollSetPass_spec (streamFd : DevStream → Int) (t : AudioThread) :
    (∀ c ∈ (buildPollSetPass streamFd t).1.iodevCallbacks, c.enabled = false →
      c ∈ t.iodevCallbacks) ∧
    ((buildPollSetPass streamFd t).2 = true →
      ∀ c ∈ (buildPollSetPass streamFd t).1.iodevCallbacks, c.enabled = true →
        ∃ i, c.pollfd = some i ∧ 0 < i ∧ EntryFor (buildPollSetPass streamFd t).1 c i) := by
  have hd := pollCallbacks_disabled t.iodevCallbacks { t with numPollfds := 1 }
  have hen := pollCallbacks_enabled t.iodevCallbacks { t with numPollfds := 1 }
  unfold buildPollSetPass
  dsimp only
  split
  · rename_i hok
    obtain ⟨hk, hc⟩ := pollStreamFds_keepsEntries (streamPollFds streamFd
      { (pollCallbacks t.iodevCallbacks { t with numPollfds := 1 }).1 with
        iodevCallbacks := (pollCallbacks t.iodevCallbacks { t with numPollfds := 1 }).2.1 }) _
    rw [hc]
    refine ⟨hd, fun _ c hc he => ?_⟩
    obtain ⟨i, hi, hle, he⟩ := hen hok c hc he
    exact ⟨i, hi, hle, hk.entryFor he⟩
  · exact ⟨hd, fun h => absurd h Bool.false_ne_true⟩

theorem buildPollSet_spec (streamFd : DevStream → Int) (fuel : Nat) :
    ∀ t t', buildPollSet streamFd fuel t = some t' →
      (∀ c ∈ t'.iodevCallbacks, c.enabled = false → c ∈ t.iodevCallbacks) ∧
      (∀ c ∈ t'.iodevCallbacks, c.enabled = true → ∃ i, c.pollfd = some i ∧ 0 < i ∧
        EntryFor t' c i) := by
  induction fuel with
  | zero => intro t t' h; cases h
  | succ fuel ih =>
    intro t t' h
    have hp := buildPollSetPass_spec streamFd t
    unfold buildPollSet at h
    dsimp only at h
    split at h
    · rename_i hok
      cases h
      exact ⟨hp.1, hp.2 hok⟩
    · obtain ⟨hd, he⟩ := ih _ _ h
      exact ⟨fun c hc hf => hp.1 c (hd c hc hf) hf, he⟩

/-! ## What `ppoll` and the dispatch see -/

section Ppoll

variable (env : PollEnv) (t : AudioThread)

@[simp] theorem ppoll_numPollfds : (ppoll env t).1.numPollfds = t.numPollfds := by
  unfold ppoll; split <;> rfl

@[simp] theorem ppoll_iodevCallbacks : (ppoll env t).1.iodevCallbacks = t.iodevCallbacks := by
  unfold ppoll; split <;> rfl

theorem ppoll_entryFor {c : IodevCallback} {i : Nat} (h : EntryFor t c i) :
    EntryFor (ppoll env t).1 c i := by
  unfold ppoll
  split
  · exact h
  · obtain ⟨hi, hfd, hev⟩ := h
    exact ⟨hi, by simp [hi, hfd], by simp [hi, hev]⟩

theorem ppoll_revents (h : 0 < (ppoll env t).2) {i : Nat} (hi : i < t.numPollfds) :
    ((ppoll env t).1.pollfds i).revents = env.revents (t.pollfds i).fd (t.pollfds i).events := by
  unfold ppoll at h ⊢
  by_cases hf : env.pollFails
  · simp [hf] at h
  · simp [hf, hi]

end Ppoll

theorem mem_dispatchCallbacks {t : AudioThread} {c : IodevCallback} (h : c ∈ dispatchCallbacks t) :
    c ∈ t.iodevCallbacks ∧ ∃ i, c.pollfd = some i ∧
      (t.pollfds i).revents &&& (pollin ||| pollout) ≠ 0 := by
  unfold dispatchCallbacks at h
  rw [List.mem_filter] at h
  refine ⟨h.1, ?_⟩
  revert h
  cases c.pollfd with
  | none => simp
  | some i => simp

theorem dispatch_spec (env : PollEnv) (t t₁ t₂ : AudioThread)
    (hb : (∀ c ∈ t₁.iodevCallbacks, c.enabled = false → c ∈ t.iodevCallbacks) ∧
      (∀ c ∈ t₁.iodevCallbacks, c.enabled = true → ∃ i, c.pollfd = some i ∧ 0 < i ∧
        EntryFor t₁ c i))
    (hp : 0 < (ppoll env t₁).2) (hfd : t₂.pollfds = (ppoll env t₁).1.pollfds)
    (hn : t₂.numPollfds = t₁.numPollfds) (hs : t₂.iodevCallbacks.Sublist t₁.iodevCallbacks)
    (c : IodevCallback) (hc : c ∈ dispatchCallbacks t₂) :
    (c.enabled = true → ∃ i, c.pollfd = some i ∧ 0 < i ∧ EntryFor t₂ c i ∧
      (t₂.pollfds i).revents = env.revents c.fd (if c.isWrite then pollout else pollin) ∧
      (t₂.pollfds i).revents &&& (pollin ||| pollout) ≠ 0) ∧
    (c.enabled = false → c ∈ t.iodevCallbacks) := by
  obtain ⟨hc, j, hj, hrev⟩ := mem_dispatchCallbacks hc
  have hc₁ := hs.subset hc
  refine ⟨fun he => ?_, hb.1 c hc₁⟩
  obtain ⟨i, hi, hpos, hent⟩ := hb.2 c hc₁ he
  obtain rfl : j = i := Option.some_injective _ (hj.symm.trans hi)
  have hent₂ : EntryFor t₂ c j := by
    obtain ⟨hlt, hfd', hev⟩ := ppoll_entryFor env t₁ hent
    exact ⟨hn ▸ (ppoll_numPollfds env t₁).symm ▸ hlt, hfd ▸ hfd', hfd ▸ hev⟩
  refine ⟨j, hj, hpos, hent₂, ?_, hrev⟩
  rw [hfd, ppoll_revents env t₁ hp hent.1, hent.2.1, hent.2.2]

/-- A record whose handler runs was enabled, with its own entry reported ready, or was
disabled and is unchanged from the registry the iteration found. -/
theorem audioIoThreadIteration_dispatch (env : PollEnv) (fuel : Nat) (t t' : AudioThread)
    (invoked : List IodevCallback) (h : audioIoThreadIteration env fuel t = some (.next t' invoked))
    (c : IodevCallback) (hc : c ∈ invoked) :
    (c.enabled = true → ∃ i, c.pollfd = some i ∧ 0 < i ∧ EntryFor t' c i ∧
      (t'.pollfds i).revents = env.revents c.fd (if c.isWrite then pollout else pollin) ∧
      (t'.pollfds i).revents &&& (pollin ||| pollout) ≠ 0) ∧
    (c.enabled = false → c ∈ t.iodevCallbacks) := by
  unfold audioIoThreadIteration at h
  cases hb : buildPollSet env.streamFd fuel t with
  | none => simp [hb] at h
  | some t₁ =>
    have hs := buildPollSet_spec env.streamFd fuel t t₁ hb
    simp only [hb, Option.map_some', Option.some.injEq] at h
    generalize ht₂ : t₁.prePoll env.beforePoll (sleepWait env.plan t) = t₂ at h
    have hs₂ : (∀ c ∈ t₂.iodevCallbacks, c.enabled = false → c ∈ t.iodevCallbacks) ∧
        (∀ c ∈ t₂.iodevCallbacks, c.enabled = true → ∃ i, c.pollfd = some i ∧ 0 < i ∧
          EntryFor t₂ c i) := by
      subst ht₂
      simpa only [AudioThread.prePoll_iodevCallbacks, EntryFor, AudioThread.prePoll_pollfds,
        AudioThread.prePoll_numPollfds] using hs
    have hself := dispatch_spec env t t₂ { (ppoll env t₂).1 with lastWake := env.afterPoll } hs₂
    split at h
    · cases h; cases hc
    · rename_i hp
      have hp : 0 < (ppoll env t₂).2 := by omega
      have hkeep := hself hp rfl (ppoll_numPollfds env t₂) (by simp)
      split at h
      · cases h; exact hkeep c hc
      · split at h
        · cases h; exact hkeep c hc
        · cases h
        · cases h
          obtain ⟨h1, h2, h3⟩ := handleThreadMessage_pollSet env.msgEnv
            { (ppoll env t₂).1 with lastWake := env.afterPoll } _
          exact dispatch_spec env t t₂ _ hs₂ hp h1 (h2.trans (ppoll_numPollfds env t₂))
            (h3.trans (by simp)) c hc

/-- In iteration `k` of a run, a record whose handler runs while enabled has its own entry past
entry 0, with the `revents` that iteration's `ppoll` reported, `POLLIN` or `POLLOUT` among them. -/
theorem audioIoThreadLoop_enabled_dispatch (fuel : Nat) (envs : List PollEnv) :
    ∀ t tr, audioIoThreadLoop fuel envs t = some tr →
      ∀ (k : Nat) (p : AudioThread × List IodevCallback), tr[k]? = some p →
      ∃ env : PollEnv, envs[k]? = some env ∧ ∀ c ∈ p.2, c.enabled = true → ∃ i, c.pollfd = some i ∧
        0 < i ∧ EntryFor p.1 c i ∧
        (p.1.pollfds i).revents = env.revents c.fd (if c.isWrite then pollout else pollin) ∧
        (p.1.pollfds i).revents &&& (pollin ||| pollout) ≠ 0 := by
  induction envs with
  | nil => intro t tr h k p hp; cases h; cases hp
  | cons env envs ih =>
    intro t tr h k p hp
    unfold audioIoThreadLoop at h
    split at h
    · cases h
    · cases h
      cases k with
      | zero =>
        simp only [List.getElem?_cons_zero, Option.some.injEq] at hp
        subst hp
        exact ⟨env, List.getElem?_cons_zero, fun c hc => absurd hc (List.not_mem_nil _)⟩
      | succ k => simp at hp
    · rename_i t' invoked hit
      obtain ⟨trace', ht', rfl⟩ := Option.map_eq_some'.mp h
      cases k with
      | zero =>
        simp only [List.getElem?_cons_zero, Option.some.injEq] at hp
        subst hp
        exact ⟨env, List.getElem?_cons_zero,
          fun c hc => (audioIoThreadIteration_dispatch env fuel _ _ _ hit c hc).1⟩
      | succ k =>
        rw [List.getElem?_cons_succ] at hp ⊢
        exact ih t' trace' ht' k p hp

theorem audioIoThreadLoop_preserves (fuel : Nat) (P : AudioThread → Prop)
    (hstep : ∀ env t st, P t →
      audioIoThreadIteration env fuel (t.applyCallbackOps env.ops) = some st → P st.thread)
    (envs : List PollEnv) :
    ∀ t trace, P t → audioIoThreadLoop fuel envs t = some trace → ∀ p ∈ trace, P p.1 := by
  induction envs with
  | nil => intro _ _ _ h p hp; cases h; cases hp
  | cons env envs ih =>
    intro t trace hP h p hp
    unfold audioIoThreadLoop at h
    split at h
    · cases h
    · rename_i t' hit
      cases h
      rcases List.mem_singleton.mp hp with rfl
      exact hstep env t _ hP hit
    · rename_i t' invoked hit
      obtain ⟨trace', ht', rfl⟩ := Option.map_eq_some'.mp h
      have hP' : P t' := hstep env t _ hP hit
      rcases List.mem_cons.mp hp with rfl | hp
      · exact hP'
      · exact ih t' trace' hP' ht' p hp

theorem audioIoThreadIteration_keys (env : PollEnv) (fuel : Nat) (t : AudioThread)
    {st : LoopStep} (h : audioIoThreadIteration env fuel t = some st) :
    (st.thread.iodevCallbacks.map IodevCallback.key).Sublist
      (t.iodevCallbacks.map IodevCallback.key) := by
  unfold audioIoThreadIteration at h
  obtain ⟨t₁, hb, rfl⟩ := Option.map_eq_some'.mp h
  rw [← buildPollSet_keys env.streamFd fuel t t₁ hb]
  dsimp only
  split
  · simp [LoopStep.thread]
  · split
    · simp [LoopStep.thread]
    · split
      · simp [LoopStep.thread]
      · simp [LoopStep.thread]
      · obtain ⟨-, -, h3⟩ := handleThreadMessage_pollSet env.msgEnv
          { (ppoll env (t₁.prePoll env.beforePoll (sleepWait env.plan t))).1 with
            lastWake := env.afterPoll } _
        simpa [LoopStep.thread] using h3.map IodevCallback.key

/-- Over every run of the loop, no two records of the registry share an `(fd, data)` key. -/
theorem audioIoThreadLoop_keysUnique (fuel : Nat) (envs : List PollEnv) :
    ∀ t trace, CallbackKeysUnique t.iodevCallbacks → audioIoThreadLoop fuel envs t = some trace →
      ∀ p ∈ trace, CallbackKeysUnique p.1.iodevCallbacks :=
  audioIoThreadLoop_preserves fuel (fun t => CallbackKeysUnique t.iodevCallbacks)
    (fun env _ _ hu hit =>
      (foldl_callbackOps_keysUnique env.ops _ hu).sublist (audioIoThreadIteration_keys env fuel _ hit))
    envs

/-! ## The open-device and stream lists over a run -/

/-- The open-device and stream lists, which only the command handlers change. -/
def AudioThread.lists (t : AudioThread) :
    (CrasStreamDirection → List OpenDev) × (CrasIodev → List DevStream) :=
  (t.openDevs, t.devStreams)

theorem Invariant.of_lists {t t' : AudioThread} (hi : Invariant t) (h : t'.lists = t.lists) :
    Invariant t' :=
  hi.unbinds (Unbinds.of_eq (congrArg Prod.fst h) (congrArg Prod.snd h))

section Lists

variable (streamFd : DevStream → Int)

theorem addPollfd_lists (t : AudioThread) (fd : Int) (isWrite : Bool) :
    (t.addPollfd fd isWrite).1.lists = t.lists := by
  unfold AudioThread.addPollfd
  dsimp only
  split_ifs <;> rfl

theorem pollCallbacks_lists (cs : List IodevCallback) :
    ∀ t, (pollCallbacks cs t).1.lists = t.lists := by
  induction cs with
  | nil => exact fun _ => rfl
  | cons c cs ih =>
    intro t
    unfold pollCallbacks
    split
    · exact ih t
    · dsimp only
      split
      · exact addPollfd_lists _ _ _
      · exact (ih _).trans (addPollfd_lists _ _ _)

theorem pollStreamFds_lists (fds : List Int) : ∀ t, (pollStreamFds fds t).1.lists = t.lists := by
  induction fds with
  | nil => exact fun _ => rfl
  | cons fd fds ih =>
    intro t
    unfold pollStreamFds
    split
    · exact ih t
    · dsimp only
      split
      · exact addPollfd_lists _ _ _
      · exact (ih _).trans (addPollfd_lists _ _ _)

theorem buildPollSetPass_lists (t : AudioThread) :
    (buildPollSetPass streamFd t).1.lists = t.lists := by
  unfold buildPollSetPass
  dsimp only
  split
  · exact (pollStreamFds_lists _ _).trans (pollCallbacks_lists _ _)
  · exact pollCallbacks_lists _ _

theorem buildPollSet_lists (fuel : Nat) :
    ∀ t t', buildPollSet streamFd fuel t = some t' → t'.lists = t.lists := by
  induction fuel with
  | zero => intro t t' h; cases h
  | succ fuel ih =>
    intro t t' h
    unfold buildPollSet at h
    dsimp only at h
    split at h
    · cases h
      exact buildPollSetPass_lists streamFd t
    · exact (ih _ _ h).trans (buildPollSetPass_lists streamFd t)

end Lists

theorem prePoll_lists (t : AudioThread) (now : Timespec) (waitTs : Option Timespec) :
    (t.prePoll now waitTs).lists = t.lists := by
  obtain ⟨_, _, _, h⟩ := AudioThread.prePoll_eq t now waitTs
  rw [h]
  rfl

theorem ppoll_lists (env : PollEnv) (t : AudioThread) : (ppoll env t).1.lists = t.lists := by
  unfold ppoll
  split <;> rfl

theorem audioIoThreadIteration_invariant (env : PollEnv) (fuel : Nat) {t : AudioThread}
    {st : LoopStep} (h : audioIoThreadIteration env fuel t = some st) (hi : Invariant t) :
    Invariant st.thread := by
  unfold audioIoThreadIteration at h
  obtain ⟨t₁, hb, rfl⟩ := Option.map_eq_some'.mp h
  have hp : Invariant { (ppoll env (t₁.prePoll env.beforePoll (sleepWait env.plan t))).1 with
      lastWake := env.afterPoll } :=
    hi.of_lists ((ppoll_lists _ _).trans
      ((prePoll_lists _ _ _).trans (buildPollSet_lists _ _ _ _ hb)))
  dsimp only
  split
  · exact hp
  · split
    · exact hp
    · split
      · exact hp
      · exact hp
      · exact invariant_handleThreadMessage hp _ _

/-- Over every run of `audio_io_thread` from a state with the list invariant, every state the
loop reaches keeps it. -/
theorem audio_io_thread_keeps_invariant (msgFd : Int) (fuel : Nat) (envs : List PollEnv)
    (t : AudioThread) (trace : List (AudioThread × List IodevCallback)) (hi : Invariant t)
    (h : audioIoThread msgFd fuel envs t = some trace) : ∀ p ∈ trace, Invariant p.1 :=
  audioIoThreadLoop_preserves fuel Invariant
    (fun env _ _ hi hit => audioIoThreadIteration_invariant env fuel hit (hi.of_lists rfl)) envs
    (t.startPoll msgFd) trace (hi.of_lists rfl) h

/-- A planner that finds no deadline, on a clock at 0. -/
def WakeEnv.idle : WakeEnv :=
  ⟨Timespec.zero, fun _ => none, fun _ => false, fun _ => 0, fun _ => false, fun _ => (none, 0)⟩

/-- Two iterations on pipe 3: descriptor 7 registered and readable, then disabled. -/
def staleSlotEnvs : List PollEnv :=
  [{ ops := [.add 7 1 10], streamFd := fun _ => -1, pollFails := false,
     revents := fun fd _ => if fd = 7 then pollin else 0, msg := none, msgEnv := Env.nominal,
     plan := WakeEnv.idle, beforePoll := Timespec.zero, afterPoll := Timespec.zero },
   { ops := [.enable 7 0], streamFd := fun _ => -1, pollFails := false,
     revents := fun fd _ => if fd = 3 then pollin else 0,
     msg := some (.isDevOpen (CrasIodev.plain 1 .output)), msgEnv := Env.nominal,
     plan := WakeEnv.idle, beforePoll := Timespec.zero, afterPoll := Timespec.zero }]

/-- The second iteration runs the disabled record's handler through its stale entry 1. -/
theorem disabled_callback_dispatched_from_stale_slot :
    ((audioIoThread 3 1 staleSlotEnvs AudioThread.init).map fun trace =>
      trace.map fun p => (p.1.numPollfds, p.2)) =
    some [(2, [⟨7, false, true, 1, 10, some 1⟩]), (1, [⟨7, false, false, 1, 10, some 1⟩])] := by
  decide

theorem stale_slot_run_enabled_dispatch :
    ∃ tr, audioIoThreadLoop 1 staleSlotEnvs (AudioThread.init.startPoll 3) = some tr ∧
      ∀ (k : Nat) (p : AudioThread × List IodevCallback), tr[k]? = some p →
      ∃ env : PollEnv, staleSlotEnvs[k]? = some env ∧ ∀ c ∈ p.2,
        c.enabled = true → ∃ i, c.pollfd = some i ∧ 0 < i ∧ EntryFor p.1 c i ∧
          (p.1.pollfds i).revents = env.revents c.fd (if c.isWrite then pollout else pollin) ∧
          (p.1.pollfds i).revents &&& (pollin ||| pollout) ≠ 0 := by
  obtain ⟨trace, h⟩ := Option.isSome_iff_exists.mp
    (by decide : (audioIoThreadLoop 1 staleSlotEnvs (AudioThread.init.startPoll 3)).isSome)
  exact ⟨trace, h, audioIoThreadLoop_enabled_dispatch 1 staleSlotEnvs _ trace h⟩

/-- Records on 7 and 8, then 7 added again with the same and with new data. -/
def duplicateAddEnvs : List PollEnv :=
  [{ ops := [.add 7 2 10, .add 7 1 11], streamFd := fun _ => -1, pollFails := false,
     revents := fun fd _ => if fd = 7 ∨ fd = 8 then pollin else 0, msg := none,
     msgEnv := Env.nominal, plan := WakeEnv.idle, beforePoll := Timespec.zero,
     afterPoll := Timespec.zero }]

def twoCallbacksThread : AudioThread :=
  { AudioThread.init with iodevCallbacks := runCallbackOps [.add 7 1 10, .add 8 1 20] }

theorem duplicate_add_run_keys_unique :
    CallbackKeysUnique (twoCallbacksThread.startPoll 3).iodevCallbacks ∧
      ∃ trace, audioIoThreadLoop 1 duplicateAddEnvs (twoCallbacksThread.startPoll 3) = some trace ∧
        ∀ p ∈ trace, CallbackKeysUnique p.1.iodevCallbacks := by
  have hu : CallbackKeysUnique (twoCallbacksThread.startPoll 3).iodevCallbacks := by
    unfold CallbackKeysUnique
    decide
  obtain ⟨trace, h⟩ := Option.isSome_iff_exists.mp
    (by decide : (audioIoThreadLoop 1 duplicateAddEnvs (twoCallbacksThread.startPoll 3)).isSome)
  exact ⟨hu, trace, h, audioIoThreadLoop_keysUnique 1 duplicateAddEnvs _ trace hu h⟩

/-- One iteration on pipe 3 with Rm Open Dev of the device the stream is attached to. -/
def rmAttachedEnvs : List PollEnv :=
  [{ ops := [], streamFd := fun _ => -1, pollFails := false,
     revents := fun fd _ => if fd = 3 then pollin else 0,
     msg := some (.rmOpenDev (CrasIodev.plain 1 .output)), msgEnv := Env.nominal,
     plan := WakeEnv.idle, beforePoll := Timespec.zero, afterPoll := Timespec.zero }]

theorem rm_attached_run_keeps_invariant :
    Invariant outputAttachedRun ∧
    ((audioIoThread 3 1 rmAttachedEnvs outputAttachedRun).map fun trace =>
      trace.map fun p => ((p.1.openDevs .output).length,
        (p.1.devStreams (CrasIodev.plain 1 .output)).length)) = some [(0, 0)] ∧
    ∃ trace, audioIoThread 3 1 rmAttachedEnvs outputAttachedRun = some trace ∧
      ∀ p ∈ trace, Invariant p.1 := by
  have hi : Invariant outputAttachedRun := invariant_reachable (reachable_runThread _ _)
  obtain ⟨trace, h⟩ := Option.isSome_iff_exists.mp
    (by decide : (audioIoThread 3 1 rmAttachedEnvs outputAttachedRun).isSome)
  exact ⟨hi, by decide, trace, h,
    audio_io_thread_keeps_invariant 3 1 rmAttachedEnvs _ trace hi h⟩

end CrasAudio

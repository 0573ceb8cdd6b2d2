import CrasAudio.PollLoop

/-! The poll-set build of `audio_io_thread` for every registry and every set of open devices and
streams: what one pass from `restart_poll_loop` writes and where, how a pass that fills the
array leads to the next, and the set the build ends with. -/
namespace CrasAudio

/-! ## The poll set the build is meant to leave -/

/-- The descriptor and events of `c`'s entry. -/
def IodevCallback.entry (c : IodevCallback) : Int × Nat :=
  (c.fd, if c.isWrite then pollout else pollin)

/-- The entries of the enabled records, in insertion order. -/
def callbackEntries (cs : List IodevCallback) : List (Int × Nat) :=
  (cs.filter (·.enabled)).map IodevCallback.entry

/-- The entries of the stream descriptors that are not negative, for `POLLIN`. -/
def streamEntries (fds : List Int) : List (Int × Nat) :=
  (fds.filter fun fd => 0 ≤ fd).map fun fd => (fd, pollin)

/-- What should follow `pollfds[0]`: enabled records, then output, then input stream fds. -/
def pollSetLayout (streamFd : DevStream → Int) (t : AudioThread) : List (Int × Nat) :=
  callbackEntries t.iodevCallbacks ++ streamEntries (streamPollFds streamFd t)

/-- `pollfds` with the entries `es` written from index `i` on, each keeping its `revents`. -/
def writeEntries (pollfds : Nat → PollFd) (i : Nat) : List (Int × Nat) → Nat → PollFd
  | [] => pollfds
  | e :: es =>
    writeEntries (Function.update pollfds i { pollfds i with fd := e.1, events := e.2 }) (i + 1) es

/-- The records with the `pollfd`s a pass sets from entry `i` on. -/
def assignPollfds : Nat → List IodevCallback → List IodevCallback
  | _, [] => []
  | i, c :: cs =>
    if c.enabled then { c with pollfd := some i } :: assignPollfds (i + 1) cs
    else c :: assignPollfds i cs

/-- A record without what a pass sets: an enabled record loses its `pollfd`. -/
def IodevCallback.withoutPollfd (c : IodevCallback) : IodevCallback :=
  if c.enabled then { c with pollfd := none } else c

namespace AudioThread

/-- `t` with the three fields of its poll set replaced. -/
def withPollFields (t : AudioThread) (pollfds : Nat → PollFd) (numPollfds pollfdsSize : Nat) :
    AudioThread :=
  { t with pollfds, numPollfds, pollfdsSize }

/-- `t` with the poll set of `pollSetLayout` and each enabled record on its entry. -/
def withPollSet (streamFd : DevStream → Int) (t : AudioThread) : AudioThread :=
  { t.withPollFields (writeEntries t.pollfds 1 (pollSetLayout streamFd t))
      (1 + (pollSetLayout streamFd t).length) t.pollfdsSize with
    iodevCallbacks := assignPollfds 1 t.iodevCallbacks }

variable (t : AudioThread) (p : Nat → PollFd) (n s : Nat)

@[simp] theorem withPollFields_pollfds : (t.withPollFields p n s).pollfds = p := rfl

@[simp] theorem withPollFields_numPollfds : (t.withPollFields p n s).numPollfds = n := rfl

@[simp] theorem withPollFields_pollfdsSize : (t.withPollFields p n s).pollfdsSize = s := rfl

@[simp] theorem withPollFields_iodevCallbacks :
    (t.withPollFields p n s).iodevCallbacks = t.iodevCallbacks := rfl

@[simp] theorem withPollFields_withPollFields (p' : Nat → PollFd) (n' s' : Nat) :
    (t.withPollFields p n s).withPollFields p' n' s' = t.withPollFields p' n' s' := rfl

@[simp] theorem withPollFields_of_numPollfds (m : Nat) :
    ({ t with numPollfds := m } : AudioThread).withPollFields p n s = t.withPollFields p n s := rfl

end AudioThread

theorem streamPollFds_withPollFields (streamFd : DevStream → Int) (t : AudioThread)
    (p : Nat → PollFd) (n s : Nat) (cs : List IodevCallback) :
    streamPollFds streamFd { t.withPollFields p n s with iodevCallbacks := cs } =
      streamPollFds streamFd t := rfl

/-! ## Writing entries -/

section WriteEntries

variable (p : Nat → PollFd)

theorem writeEntries_append (i : Nat) (xs ys : List (Int × Nat)) :
    writeEntries p i (xs ++ ys) = writeEntries (writeEntries p i xs) (i + xs.length) ys := by
  induction xs generalizing p i with
  | nil => rfl
  | cons x xs ih =>
    rw [List.cons_append, writeEntries, writeEntries, ih, List.length_cons, Nat.add_right_comm,
      Nat.add_assoc]

theorem writeEntries_cons (i : Nat) (e : Int × Nat) (es : List (Int × Nat)) :
    writeEntries p i (e :: es) = writeEntries (writeEntries p i [e]) (i + 1) es := rfl

theorem writeEntries_of_not_mem (i : Nat) (es : List (Int × Nat)) {k : Nat}
    (h : k < i ∨ i + es.length ≤ k) : writeEntries p i es k = p k := by
  induction es generalizing p i with
  | nil => rfl
  | cons e es ih =>
    rw [writeEntries, ih _ _ (by simp at h; omega), Function.update_noteq (by simp at h; omega)]

theorem writeEntries_apply (i : Nat) (es : List (Int × Nat)) {j : Nat} (hj : j < es.length) :
    writeEntries p i es (i + j) = { p (i + j) with fd := es[j].1, events := es[j].2 } := by
  induction es generalizing p i j with
  | nil => cases hj
  | cons e es ih =>
    rw [writeEntries]
    cases j with
    | zero =>
      rw [writeEntries_of_not_mem _ _ _ (by omega), Nat.add_zero, Function.update_same]
      rfl
    | succ j =>
      rw [show i + (j + 1) = i + 1 + j by omega, ih _ _ (by simpa using hj),
        Function.update_noteq (by omega)]
      rfl

theorem writeEntries_take (es : List (Int × Nat)) (i m : Nat) :
    writeEntries (writeEntries p i (es.take m)) i es = writeEntries p i es := by
  induction es generalizing p i m with
  | nil => simp [writeEntries]
  | cons e es ih =>
    cases m with
    | zero => rfl
    | succ m =>
      have hi : writeEntries (Function.update p i { p i with fd := e.1, events := e.2 }) (i + 1)
          (es.take m) i = { p i with fd := e.1, events := e.2 } := by
        rw [writeEntries_of_not_mem _ _ _ (by omega), Function.update_same]
      have hW : ∀ W : Nat → PollFd, W i = { p i with fd := e.1, events := e.2 } →
          Function.update W i { W i with fd := e.1, events := e.2 } = W := by
        intro W hWi
        calc Function.update W i { W i with fd := e.1, events := e.2 }
            = Function.update W i (W i) := by rw [hWi]
          _ = W := Function.update_eq_self i W
      rw [List.take_succ_cons, writeEntries, writeEntries, writeEntries, hW _ hi, ih]

end WriteEntries

/-! ## Records and their entries -/

section Records

variable (i : Nat) (c : IodevCallback) (cs : List IodevCallback)

@[simp] theorem withoutPollfd_enabled : c.withoutPollfd.enabled = c.enabled := by
  unfold IodevCallback.withoutPollfd
  split <;> rfl

theorem callbackEntries_map_withoutPollfd :
    callbackEntries (cs.map IodevCallback.withoutPollfd) = callbackEntries cs := by
  induction cs with
  | nil => rfl
  | cons c cs ih =>
    by_cases h : c.enabled <;>
      simp_all [callbackEntries, IodevCallback.withoutPollfd, IodevCallback.entry]

theorem assignPollfds_map_withoutPollfd :
    assignPollfds i (cs.map IodevCallback.withoutPollfd) = assignPollfds i cs := by
  induction cs generalizing i with
  | nil => rfl
  | cons c cs ih =>
    by_cases h : c.enabled <;> simp_all [assignPollfds, IodevCallback.withoutPollfd]

theorem map_withoutPollfd_assignPollfds :
    (assignPollfds i cs).map IodevCallback.withoutPollfd = cs.map IodevCallback.withoutPollfd := by
  induction cs generalizing i with
  | nil => rfl
  | cons c cs ih =>
    by_cases h : c.enabled <;> simp_all [assignPollfds, IodevCallback.withoutPollfd]

end Records

/-! ## One pass -/

theorem addPollfd_eq (t : AudioThread) (fd : Int) (isWrite : Bool) :
    t.addPollfd fd isWrite =
      if t.pollfdsSize ≤ t.numPollfds + 1 then
        (t.withPollFields (writeEntries t.pollfds t.numPollfds
          [(fd, if isWrite then pollout else pollin)]) (t.numPollfds + 1) (t.pollfdsSize * 2), none)
      else
        (t.withPollFields (writeEntries t.pollfds t.numPollfds
          [(fd, if isWrite then pollout else pollin)]) (t.numPollfds + 1) t.pollfdsSize,
          some t.numPollfds) :=
  rfl

/-- The pass over the registry writes the layout's entries, or fills and doubles the array. -/
theorem pollCallbacks_eq (cs : List IodevCallback) :
    ∀ t : AudioThread, t.numPollfds < t.pollfdsSize →
      ∃ r, r.map IodevCallback.withoutPollfd = cs.map IodevCallback.withoutPollfd ∧
        pollCallbacks cs t =
          if t.numPollfds + (callbackEntries cs).length < t.pollfdsSize then
            (t.withPollFields (writeEntries t.pollfds t.numPollfds (callbackEntries cs))
              (t.numPollfds + (callbackEntries cs).length) t.pollfdsSize,
              assignPollfds t.numPollfds cs, true)
          else
            (t.withPollFields (writeEntries t.pollfds t.numPollfds
                ((callbackEntries cs).take (t.pollfdsSize - t.numPollfds)))
              t.pollfdsSize (t.pollfdsSize * 2), r, false) := by
  induction cs with
  | nil => exact fun t h => ⟨[], rfl, by rw [if_pos (by simpa [callbackEntries] using h)]; rfl⟩
  | cons c cs ih =>
    intro t h
    cases hen : c.enabled
    · obtain ⟨r, hr, heq⟩ := ih t h
      have he : callbackEntries (c :: cs) = callbackEntries cs := by simp [callbackEntries, hen]
      refine ⟨c :: r, by simp [hr, IodevCallback.withoutPollfd, hen], ?_⟩
      rw [pollCallbacks_cons_disabled hen, heq, he]
      simp only [assignPollfds, hen, Bool.false_eq_true, if_false]
      split_ifs <;> rfl
    · have he : callbackEntries (c :: cs) = c.entry :: callbackEntries cs := by
        simp [callbackEntries, hen]
      cases ha : (t.addPollfd c.fd c.isWrite).2 with
      | none =>
        have hfull : t.pollfdsSize = t.numPollfds + 1 := by
          by_contra hne
          rw [addPollfd_eq, if_neg (show ¬t.pollfdsSize ≤ t.numPollfds + 1 by omega)] at ha
          cases ha
        refine ⟨{ c with pollfd := none } :: cs,
          by simp [IodevCallback.withoutPollfd, hen], ?_⟩
        rw [pollCallbacks_cons_null hen ha, addPollfd_eq,
          if_pos (show t.pollfdsSize ≤ t.numPollfds + 1 by omega), he,
          if_neg (show ¬t.numPollfds + (c.entry :: callbackEntries cs).length < t.pollfdsSize by
            simp; omega),
          show t.pollfdsSize - t.numPollfds = 1 by omega, List.take_succ_cons, List.take_zero,
          hfull]
        rfl
      | some i =>
        have hi := AudioThread.addPollfd_snd _ _ _ ha
        subst hi
        have hroom : t.numPollfds + 1 < t.pollfdsSize := by
          by_contra hno
          rw [addPollfd_eq, if_pos (show t.pollfdsSize ≤ t.numPollfds + 1 by omega)] at ha
          cases ha
        have hadd : (t.addPollfd c.fd c.isWrite).1 = t.withPollFields
            (writeEntries t.pollfds t.numPollfds [c.entry]) (t.numPollfds + 1) t.pollfdsSize := by
          rw [addPollfd_eq, if_neg (show ¬t.pollfdsSize ≤ t.numPollfds + 1 by omega)]
          rfl
        obtain ⟨r, hr, heq⟩ := ih (t.withPollFields (writeEntries t.pollfds t.numPollfds [c.entry])
          (t.numPollfds + 1) t.pollfdsSize) hroom
        refine ⟨{ c with pollfd := some t.numPollfds } :: r,
          by simp [hr, IodevCallback.withoutPollfd, hen], ?_⟩
        rw [pollCallbacks_cons_some hen ha, hadd, heq, he]
        simp only [AudioThread.withPollFields_numPollfds, AudioThread.withPollFields_pollfdsSize,
          AudioThread.withPollFields_pollfds, AudioThread.withPollFields_withPollFields,
          List.length_cons, assignPollfds, hen, if_true]
        by_cases hlt : t.numPollfds + 1 + (callbackEntries cs).length < t.pollfdsSize
        · rw [if_pos hlt, if_pos (by omega), writeEntries_cons _ _ _ (callbackEntries cs),
            show t.numPollfds + 1 + (callbackEntries cs).length =
              t.numPollfds + ((callbackEntries cs).length + 1) by omega]
        · rw [if_neg hlt, if_neg (by omega),
            show t.pollfdsSize - t.numPollfds = t.pollfdsSize - (t.numPollfds + 1) + 1 by omega,
            List.take_succ_cons, writeEntries_cons _ _ _ (List.take _ (callbackEntries cs))]

theorem pollStreamFds_eq (fds : List Int) :
    ∀ t : AudioThread, t.numPollfds < t.pollfdsSize →
      pollStreamFds fds t =
        if t.numPollfds + (streamEntries fds).length < t.pollfdsSize then
          (t.withPollFields (writeEntries t.pollfds t.numPollfds (streamEntries fds))
            (t.numPollfds + (streamEntries fds).length) t.pollfdsSize, true)
        else
          (t.withPollFields (writeEntries t.pollfds t.numPollfds
              ((streamEntries fds).take (t.pollfdsSize - t.numPollfds)))
            t.pollfdsSize (t.pollfdsSize * 2), false) := by
  induction fds with
  | nil => exact fun t h => by rw [if_pos (by simpa [streamEntries] using h)]; rfl
  | cons fd fds ih =>
    intro t h
    unfold pollStreamFds
    by_cases hneg : fd < 0
    · have he : streamEntries (fd :: fds) = streamEntries fds := by
        simp [streamEntries, hneg]
      rw [if_pos hneg, he, ih t h]
    · have he : streamEntries (fd :: fds) = (fd, pollin) :: streamEntries fds := by
        simp [streamEntries, show 0 ≤ fd by omega]
      rw [if_neg hneg, he, addPollfd_eq]
      simp only [Bool.false_eq_true, if_false]
      by_cases hfull : t.pollfdsSize ≤ t.numPollfds + 1
      · rw [if_pos hfull]
        simp only [Option.isNone_none, if_true]
        rw [if_neg (show ¬t.numPollfds + ((fd, pollin) :: streamEntries fds).length <
            t.pollfdsSize by simp; omega),
          show t.pollfdsSize - t.numPollfds = 1 by omega, List.take_succ_cons, List.take_zero,
          show t.numPollfds + 1 = t.pollfdsSize by omega]
      · rw [if_neg hfull]
        simp only [Option.isNone_some, Bool.false_eq_true, if_false]
        rw [ih _ (by simp; omega)]
        simp only [AudioThread.withPollFields_numPollfds, AudioThread.withPollFields_pollfdsSize,
          AudioThread.withPollFields_pollfds, AudioThread.withPollFields_withPollFields,
          List.length_cons]
        by_cases hlt : t.numPollfds + 1 + (streamEntries fds).length < t.pollfdsSize
        · rw [if_pos hlt, if_pos (by omega), writeEntries_cons _ _ _ (streamEntries fds),
            show t.numPollfds + 1 + (streamEntries fds).length =
              t.numPollfds + ((streamEntries fds).length + 1) by omega]
        · rw [if_neg hlt, if_neg (by omega),
            show t.pollfdsSize - t.numPollfds = t.pollfdsSize - (t.numPollfds + 1) + 1 by omega,
            List.take_succ_cons, writeEntries_cons _ _ _ (List.take _ (streamEntries fds))]

/-! ## The passes of a build -/

section Build

variable (streamFd : DevStream → Int)

/-- One pass leaves `withPollSet` when the layout fits, or doubles the array. -/
theorem buildPollSetPass_eq (t : AudioThread) (hS : 2 ≤ t.pollfdsSize) :
    ∃ r, r.map IodevCallback.withoutPollfd = t.iodevCallbacks.map IodevCallback.withoutPollfd ∧
      buildPollSetPass streamFd t =
        if 1 + (pollSetLayout streamFd t).length < t.pollfdsSize then (t.withPollSet streamFd, true)
        else ({ t.withPollFields (writeEntries t.pollfds 1
            ((pollSetLayout streamFd t).take (t.pollfdsSize - 1))) t.pollfdsSize
            (t.pollfdsSize * 2) with iodevCallbacks := r }, false) := by
  obtain ⟨r, hr, hcb⟩ := pollCallbacks_eq t.iodevCallbacks { t with numPollfds := 1 } (by
    show 1 < t.pollfdsSize; omega)
  simp only [AudioThread.withPollFields_of_numPollfds] at hcb
  have hlen : (pollSetLayout streamFd t).length = (callbackEntries t.iodevCallbacks).length +
      (streamEntries (streamPollFds streamFd t)).length := List.length_append _ _
  unfold buildPollSetPass
  by_cases h1 : 1 + (callbackEntries t.iodevCallbacks).length < t.pollfdsSize
  · rw [if_pos h1] at hcb
    refine ⟨assignPollfds 1 t.iodevCallbacks, map_withoutPollfd_assignPollfds _ _, ?_⟩
    rw [hcb]
    dsimp only
    rw [if_pos rfl, streamPollFds_withPollFields, pollStreamFds_eq _ _ (by simpa using h1)]
    simp only [AudioThread.withPollFields_numPollfds, AudioThread.withPollFields_pollfdsSize,
      AudioThread.withPollFields_pollfds]
    by_cases h2 : 1 + (callbackEntries t.iodevCallbacks).length +
        (streamEntries (streamPollFds streamFd t)).length < t.pollfdsSize
    · rw [if_pos h2, if_pos (by omega), AudioThread.withPollSet, hlen, pollSetLayout,
        writeEntries_append, Nat.add_assoc]
      rfl
    · rw [if_neg h2, if_neg (by omega), pollSetLayout, List.take_append_eq_append_take,
        List.take_of_length_le (show (callbackEntries t.iodevCallbacks).length ≤
          t.pollfdsSize - 1 by omega), writeEntries_append,
        show t.pollfdsSize - 1 - (callbackEntries t.iodevCallbacks).length =
          t.pollfdsSize - (1 + (callbackEntries t.iodevCallbacks).length) by omega]
      rfl
  · rw [if_neg h1] at hcb
    refine ⟨r, hr, ?_⟩
    rw [hcb]
    dsimp only
    rw [if_neg Bool.false_ne_true, if_neg (by rw [hlen]; omega), pollSetLayout,
      List.take_append_of_le_length (show t.pollfdsSize - 1 ≤
        (callbackEntries t.iodevCallbacks).length by omega)]

theorem pollSetLayout_restart (t : AudioThread) (p : Nat → PollFd) (n s : Nat)
    {r : List IodevCallback}
    (hr : r.map IodevCallback.withoutPollfd = t.iodevCallbacks.map IodevCallback.withoutPollfd) :
    pollSetLayout streamFd { t.withPollFields p n s with iodevCallbacks := r } =
      pollSetLayout streamFd t := by
  rw [pollSetLayout, pollSetLayout, streamPollFds_withPollFields,
    ← callbackEntries_map_withoutPollfd r, hr, callbackEntries_map_withoutPollfd]

theorem withPollSet_restart (t : AudioThread) (m n s : Nat) {r : List IodevCallback}
    (hr : r.map IodevCallback.withoutPollfd = t.iodevCallbacks.map IodevCallback.withoutPollfd) :
    AudioThread.withPollSet streamFd { t.withPollFields
        (writeEntries t.pollfds 1 ((pollSetLayout streamFd t).take m)) n s with
        iodevCallbacks := r } =
      { t.withPollSet streamFd with pollfdsSize := s } := by
  rw [AudioThread.withPollSet, pollSetLayout_restart _ _ _ _ _ hr]
  simp only [AudioThread.withPollFields_pollfds, AudioThread.withPollFields_pollfdsSize,
    writeEntries_take]
  rw [← assignPollfds_map_withoutPollfd, hr, assignPollfds_map_withoutPollfd]
  rfl

theorem buildPollSet_of_fits (t : AudioThread) (hS : 2 ≤ t.pollfdsSize)
    (hfit : 1 + (pollSetLayout streamFd t).length < t.pollfdsSize) (fuel : Nat) :
    buildPollSet streamFd (fuel + 1) t = some (t.withPollSet streamFd) := by
  obtain ⟨r, -, hp⟩ := buildPollSetPass_eq streamFd t hS
  rw [buildPollSet, hp, if_pos hfit]
  rfl

/-- `fuel` restarts grow the array until the layout fits; the build ends on `withPollSet`. -/
theorem buildPollSet_eq (fuel : Nat) :
    ∀ t : AudioThread, 2 ≤ t.pollfdsSize →
      1 + (pollSetLayout streamFd t).length < t.pollfdsSize + fuel →
      ∃ S, t.pollfdsSize ≤ S ∧ 1 + (pollSetLayout streamFd t).length < S ∧
        buildPollSet streamFd (fuel + 1) t = some { t.withPollSet streamFd with pollfdsSize := S } := by
  induction fuel with
  | zero => exact fun t hS hfit => ⟨_, le_refl _, hfit, buildPollSet_of_fits streamFd t hS hfit 0⟩
  | succ fuel ih =>
    intro t hS hgrow
    by_cases hfit : 1 + (pollSetLayout streamFd t).length < t.pollfdsSize
    · exact ⟨_, le_refl _, hfit, buildPollSet_of_fits streamFd t hS hfit _⟩
    obtain ⟨r, hr, hp⟩ := buildPollSetPass_eq streamFd t hS
    obtain ⟨S, hle, hlt, hb⟩ := ih { t.withPollFields (writeEntries t.pollfds 1
        ((pollSetLayout streamFd t).take (t.pollfdsSize - 1))) t.pollfdsSize
        (t.pollfdsSize * 2) with iodevCallbacks := r }
      (by simp only [AudioThread.withPollFields_pollfdsSize]; omega)
      (by
        rw [pollSetLayout_restart _ _ _ _ _ hr]
        simp only [AudioThread.withPollFields_pollfdsSize]
        omega)
    rw [pollSetLayout_restart _ _ _ _ _ hr] at hlt
    refine ⟨S, by simp only [AudioThread.withPollFields_pollfdsSize] at hle; omega, hlt, ?_⟩
    rw [buildPollSet, hp, if_neg hfit]
    dsimp only
    rw [if_neg Bool.false_ne_true, hb, withPollSet_restart _ _ _ _ _ hr]

theorem buildPollSet_of_le {n m : Nat} (hnm : n ≤ m) :
    ∀ {t t' : AudioThread}, buildPollSet streamFd n t = some t' → buildPollSet streamFd m t = some t' := by
  induction n generalizing m with
  | zero => intro t t' h; cases h
  | succ n ih =>
    intro t t' h
    obtain ⟨m, rfl⟩ : ∃ k, m = k + 1 := ⟨m - 1, by omega⟩
    unfold buildPollSet at h ⊢
    dsimp only at h ⊢
    split at h
    · rwa [if_pos ‹_›]
    · rw [if_neg ‹_›]
      exact ih (by omega) h

theorem buildPollSetPass_pollfds_of_not_mem (t : AudioThread) (hS : 2 ≤ t.pollfdsSize) {i : Nat}
    (hi : i = 0 ∨ t.pollfdsSize ≤ i) :
    (buildPollSetPass streamFd t).1.pollfds i = t.pollfds i := by
  obtain ⟨r, -, hp⟩ := buildPollSetPass_eq streamFd t hS
  rw [hp]
  split
  · exact writeEntries_of_not_mem _ _ _ (by omega)
  · exact writeEntries_of_not_mem _ _ _ (by simp only [List.length_take]; omega)

end Build

/-! ## The build -/

/-- From an array of at least two entries the build ends, lays out the enabled records then the
output and input stream fds from index 1, and stores nowhere else. -/
theorem poll_set_build_layout (streamFd : DevStream → Int) (t : AudioThread)
    (hS : 2 ≤ t.pollfdsSize) :
    ∃ n t', (∀ fuel, n ≤ fuel → buildPollSet streamFd fuel t = some t') ∧
      t'.numPollfds = 1 + (pollSetLayout streamFd t).length ∧
      t'.numPollfds < t'.pollfdsSize ∧ t.pollfdsSize ≤ t'.pollfdsSize ∧
      t'.pollfds 0 = t.pollfds 0 ∧
      (∀ j (hj : j < (pollSetLayout streamFd t).length),
        (t'.pollfds (1 + j)).fd = ((pollSetLayout streamFd t)[j]).1 ∧
        (t'.pollfds (1 + j)).events = ((pollSetLayout streamFd t)[j]).2) ∧
      t'.iodevCallbacks = assignPollfds 1 t.iodevCallbacks ∧
      (∀ c ∈ t'.iodevCallbacks, c.enabled = true →
        ∃ i, c.pollfd = some i ∧ 0 < i ∧ EntryFor t' c i) ∧
      buildPollSetPass streamFd { t with pollfdsSize := t'.pollfdsSize } = (t', true) ∧
      ∀ s : AudioThread, 2 ≤ s.pollfdsSize → ∀ i, i = 0 ∨ s.pollfdsSize ≤ i →
        (buildPollSetPass streamFd s).1.pollfds i = s.pollfds i := by
  obtain ⟨S, hle, hlt, hb⟩ := buildPollSet_eq streamFd (pollSetLayout streamFd t).length t hS
    (by omega)
  refine ⟨_, _, fun fuel h => buildPollSet_of_le streamFd h hb, rfl, hlt, hle,
    writeEntries_of_not_mem _ _ _ (by omega), fun j hj => ?_, rfl,
    (buildPollSet_spec streamFd _ t _ hb).2, ?_,
    fun s hs i hi => buildPollSetPass_pollfds_of_not_mem streamFd s hs hi⟩
  · show (writeEntries t.pollfds 1 (pollSetLayout streamFd t) (1 + j)).fd = _ ∧
      (writeEntries t.pollfds 1 (pollSetLayout streamFd t) (1 + j)).events = _
    rw [writeEntries_apply _ _ _ hj]
    exact ⟨rfl, rfl⟩
  · obtain ⟨r, -, hp⟩ := buildPollSetPass_eq streamFd { t with pollfdsSize := S }
      (show 2 ≤ S by omega)
    rw [hp, if_pos (show 1 + (pollSetLayout streamFd { t with pollfdsSize := S }).length <
      ({ t with pollfdsSize := S } : AudioThread).pollfdsSize from hlt)]
    rfl

/-- Three enabled records from an array of two entries: the build restarts twice. -/
def threeCallbackThread : AudioThread :=
  { AudioThread.init with
    pollfdsSize := 2
    iodevCallbacks := [10, 11, 12].map fun fd =>
      { fd, isWrite := false, enabled := true, cb := 0, cbData := 0, pollfd := none } }

theorem poll_set_three_callbacks_from_two_entries :
    2 ≤ threeCallbackThread.pollfdsSize ∧
      ∃ n t', (∀ fuel, n ≤ fuel → buildPollSet (fun _ => -1) fuel threeCallbackThread = some t') ∧
        t'.numPollfds = 4 := by
  obtain ⟨n, t', hb, hn, -⟩ := poll_set_build_layout (fun _ => -1) threeCallbackThread (by decide)
  exact ⟨by decide, n, t', hb, hn.trans rfl⟩

end CrasAudio

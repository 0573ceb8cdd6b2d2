import CrasAudio.Basic

/-! The registry `iodev_callbacks` and the calls that add, remove and enable its records. -/
namespace CrasAudio

/-- A `struct iodev_callback_list` record; `pollfd` is the index of its entry, if any. -/
structure IodevCallback where
  fd : Int
  isWrite : Bool
  enabled : Bool
  cb : Nat
  cbData : Nat
  pollfd : Option Nat
  deriving DecidableEq, Repr

/-- `_audio_thread_add_callback`: append a new enabled record unless `(fd, data)` is there. -/
def _audioThreadAddCallback (fd : Int) (cb data : Nat) (isWrite : Bool)
    (cbs : List IodevCallback) : List IodevCallback :=
  if cbs.any (fun c => c.fd = fd ∧ c.cbData = data) then cbs
  else cbs ++ [{ fd, isWrite, enabled := true, cb, cbData := data, pollfd := none }]

def audioThreadAddCallback (fd : Int) (cb data : Nat) (cbs : List IodevCallback) :
    List IodevCallback :=
  _audioThreadAddCallback fd cb data false cbs

def audioThreadAddWriteCallback (fd : Int) (cb data : Nat) (cbs : List IodevCallback) :
    List IodevCallback :=
  _audioThreadAddCallback fd cb data true cbs

/-- `audio_thread_rm_callback`: the first record of `fd` is unlinked and freed. -/
def audioThreadRmCallback (fd : Int) (cbs : List IodevCallback) : List IodevCallback :=
  cbs.eraseP (fun c => c.fd = fd)

/-- `audio_thread_enable_callback`: the first record of `fd` gets `enabled = !!enabled`. -/
def audioThreadEnableCallback (fd : Int) (enabled : Int) :
    List IodevCallback → List IodevCallback
  | [] => []
  | c :: cs =>
    if c.fd = fd then { c with enabled := enabled ≠ 0 } :: cs
    else c :: audioThreadEnableCallback fd enabled cs

/-- The calls that change the registry between loop iterations. -/
inductive CallbackOp
  | add (fd : Int) (cb data : Nat)
  | addWrite (fd : Int) (cb data : Nat)
  | rm (fd : Int)
  | enable (fd : Int) (enabled : Int)
  deriving DecidableEq, Repr

def CallbackOp.apply : CallbackOp → List IodevCallback → List IodevCallback
  | .add fd cb data => audioThreadAddCallback fd cb data
  | .addWrite fd cb data => audioThreadAddWriteCallback fd cb data
  | .rm fd => audioThreadRmCallback fd
  | .enable fd enabled => audioThreadEnableCallback fd enabled

/-- The registry after a sequence of calls on the empty one. -/
def runCallbackOps (ops : List CallbackOp) : List IodevCallback :=
  ops.foldl (fun cbs op => op.apply cbs) []

/-- The key `_audio_thread_add_callback` deduplicates on. -/
def IodevCallback.key (c : IodevCallback) : Int × Nat := (c.fd, c.cbData)

/-- No two records share an `(fd, data)` key. -/
def CallbackKeysUnique (cbs : List IodevCallback) : Prop := (cbs.map IodevCallback.key).Nodup

theorem enableCallback_keys (fd enabled : Int) (cbs : List IodevCallback) :
    (audioThreadEnableCallback fd enabled cbs).map IodevCallback.key =
      cbs.map IodevCallback.key := by
  induction cbs with
  | nil => rfl
  | cons c cs ih =>
    unfold audioThreadEnableCallback
    split <;> simp [ih, IodevCallback.key]

theorem addCallback_keysUnique {fd : Int} {cb data : Nat} {isWrite : Bool}
    {cbs : List IodevCallback} (h : CallbackKeysUnique cbs) :
    CallbackKeysUnique (_audioThreadAddCallback fd cb data isWrite cbs) := by
  unfold _audioThreadAddCallback
  split
  · exact h
  · rename_i hnew
    simp only [List.any_eq_true, decide_eq_true_eq, not_exists, not_and] at hnew
    simp only [CallbackKeysUnique, List.map_append, List.nodup_append, List.map_cons,
      List.map_nil, List.nodup_cons, List.not_mem_nil, not_false_eq_true, List.nodup_nil,
      and_self, List.disjoint_singleton, List.mem_map, not_exists, not_and, true_and]
    refine ⟨h, fun c hc hk => ?_⟩
    simp only [IodevCallback.key, Prod.mk.injEq] at hk
    exact hnew c hc hk.1 hk.2

theorem callbackOp_keysUnique (op : CallbackOp) {cbs : List IodevCallback}
    (h : CallbackKeysUnique cbs) : CallbackKeysUnique (op.apply cbs) := by
  cases op with
  | add => exact addCallback_keysUnique h
  | addWrite => exact addCallback_keysUnique h
  | rm fd => exact h.sublist ((List.eraseP_sublist _).map _)
  | enable fd enabled =>
    unfold CallbackKeysUnique
    rw [CallbackOp.apply, enableCallback_keys]
    exact h

theorem foldl_callbackOps_keysUnique (ops : List CallbackOp) :
    ∀ cbs, CallbackKeysUnique cbs →
      CallbackKeysUnique (ops.foldl (fun cbs op => op.apply cbs) cbs) := by
  induction ops with
  | nil => exact fun _ h => h
  | cons op ops ih => exact fun cbs h => ih _ (callbackOp_keysUnique op h)

theorem runCallbackOps_keysUnique (ops : List CallbackOp) :
    CallbackKeysUnique (runCallbackOps ops) :=
  foldl_callbackOps_keysUnique ops [] List.nodup_nil

theorem rmCallback_filter_ne (fd : Int) (cbs : List IodevCallback) :
    (audioThreadRmCallback fd cbs).filter (fun c => c.fd ≠ fd) =
      cbs.filter (fun c => c.fd ≠ fd) := by
  induction cbs with
  | nil => rfl
  | cons c cs ih =>
    unfold audioThreadRmCallback at *
    by_cases hc : c.fd = fd
    · rw [List.eraseP_cons_of_pos (by simpa using hc)]
      simp [hc]
    · have hp : decide (c.fd ≠ fd) = true := by simpa using hc
      rw [List.eraseP_cons_of_neg (by simpa using hc)]
      simp only [List.filter_cons, hp, ite_true, ih]

theorem rmCallback_filter_eq (fd : Int) (cbs : List IodevCallback) :
    (audioThreadRmCallback fd cbs).filter (fun c => c.fd = fd) =
      (cbs.filter (fun c => c.fd = fd)).tail := by
  induction cbs with
  | nil => rfl
  | cons c cs ih =>
    unfold audioThreadRmCallback at *
    by_cases hc : c.fd = fd
    · rw [List.eraseP_cons_of_pos (by simpa using hc)]
      simp [hc]
    · rw [List.eraseP_cons_of_neg (by simpa using hc)]
      simp [hc, ih]

/-- Removing `fd` drops only its first record; the rest keep their order. -/
theorem rm_callback_drops_first_record (ops : List CallbackOp) (fd : Int) :
    (audioThreadRmCallback fd (runCallbackOps ops)).Sublist (runCallbackOps ops) ∧
    (audioThreadRmCallback fd (runCallbackOps ops)).filter (fun c => c.fd ≠ fd) =
      (runCallbackOps ops).filter (fun c => c.fd ≠ fd) ∧
    (audioThreadRmCallback fd (runCallbackOps ops)).filter (fun c => c.fd = fd) =
      ((runCallbackOps ops).filter (fun c => c.fd = fd)).tail ∧
    (((runCallbackOps ops).filter (fun c => c.fd = fd)).map IodevCallback.cbData).Nodup ∧
    ((∀ c ∈ audioThreadRmCallback fd (runCallbackOps ops), c.fd ≠ fd) ↔
      ((runCallbackOps ops).filter (fun c => c.fd = fd)).length ≤ 1) := by
  have heq := rmCallback_filter_eq fd (runCallbackOps ops)
  refine ⟨List.eraseP_sublist _, rmCallback_filter_ne fd _, heq, ?_, ?_⟩
  · have hf : ((runCallbackOps ops).filter (fun c => c.fd = fd)).Sublist (runCallbackOps ops) :=
      List.filter_sublist _
    have hk := (runCallbackOps_keysUnique ops).sublist (hf.map IodevCallback.key)
    refine List.Nodup.of_map (fun d => (fd, d)) ?_
    rw [List.map_map]
    refine (List.map_congr_left fun c hc => ?_).symm ▸ hk
    simp only [List.mem_filter, decide_eq_true_eq] at hc
    simp [IodevCallback.key, hc.2]
  · have hnil : (∀ c ∈ audioThreadRmCallback fd (runCallbackOps ops), c.fd ≠ fd) ↔
        (audioThreadRmCallback fd (runCallbackOps ops)).filter (fun c => c.fd = fd) = [] := by
      simp [List.filter_eq_nil_iff]
    rw [hnil, heq, ← List.length_eq_zero, List.length_tail]
    omega

/-- Two registrations of one `fd` with different data survive one removal of that `fd`. -/
theorem rm_callback_leaves_second_registration :
    (audioThreadRmCallback 5 (runCallbackOps [.add 5 1 10, .add 5 1 11])).any
      (fun c => c.fd = 5) = true := by
  decide

/-! ## A callback's life: added, toggled, removed -/

theorem enableCallback_append_of_not_mem {fd : Int} (enabled : Int) {cbs : List IodevCallback}
    (hn : ∀ c ∈ cbs, c.fd ≠ fd) (c : IodevCallback) (hc : c.fd = fd) :
    audioThreadEnableCallback fd enabled (cbs ++ [c]) =
      cbs ++ [{ c with enabled := enabled ≠ 0 }] := by
  induction cbs with
  | nil => simp [audioThreadEnableCallback, hc]
  | cons c' cs ih =>
    have hc' : c'.fd ≠ fd := hn c' (List.mem_cons_self _ _)
    simp [audioThreadEnableCallback, hc', ih fun c h => hn c (List.mem_cons_of_mem _ h)]

/-- Adding a new descriptor, enabling and disabling it, then removing it restores the registry. -/
theorem callback_add_enable_rm_round_trip (fd : Int) (cb data : Nat) (isWrite : Bool)
    (toggles : List Int) (cbs : List IodevCallback) (hn : ∀ c ∈ cbs, c.fd ≠ fd) :
    audioThreadRmCallback fd (toggles.foldl (fun cbs e => audioThreadEnableCallback fd e cbs)
      (_audioThreadAddCallback fd cb data isWrite cbs)) = cbs := by
  have hadd : _audioThreadAddCallback fd cb data isWrite cbs =
      cbs ++ [{ fd, isWrite, enabled := true, cb, cbData := data, pollfd := none }] := by
    rw [_audioThreadAddCallback, if_neg]
    simpa using fun c hc h _ => hn c hc h
  /- Each toggle rewrites the appended record and keeps its descriptor. -/
  have hfold : ∀ (es : List Int) (c : IodevCallback), c.fd = fd → ∃ c' : IodevCallback,
      c'.fd = fd ∧ es.foldl (fun cbs e => audioThreadEnableCallback fd e cbs) (cbs ++ [c]) =
        cbs ++ [c'] := by
    intro es
    induction es with
    | nil => exact fun c hc => ⟨c, hc, rfl⟩
    | cons e es ih =>
      intro c hc
      rw [List.foldl_cons, enableCallback_append_of_not_mem e hn c hc]
      exact ih _ hc
  obtain ⟨c', hc', he⟩ :=
    hfold toggles { fd, isWrite, enabled := true, cb, cbData := data, pollfd := none } rfl
  rw [hadd, he, audioThreadRmCallback,
    List.eraseP_append_right _ fun b hb => by simpa using hn b hb]
  simp [hc']

theorem callback_round_trip_beside_other_fd :
    (∀ c ∈ runCallbackOps [.add 3 1 10], c.fd ≠ 5) ∧
    audioThreadRmCallback 5 ([0, 1].foldl (fun cbs e => audioThreadEnableCallback 5 e cbs)
      (_audioThreadAddCallback 5 2 20 true (runCallbackOps [.add 3 1 10]))) =
      runCallbackOps [.add 3 1 10] :=
  have hn : ∀ c ∈ runCallbackOps [.add 3 1 10], c.fd ≠ 5 := by decide
  ⟨hn, callback_add_enable_rm_round_trip 5 2 20 true [0, 1] _ hn⟩

end CrasAudio

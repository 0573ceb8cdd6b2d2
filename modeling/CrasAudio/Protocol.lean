import CrasAudio.Codec
import CrasAudio.Dispatch
import CrasAudio.Ownership

/-! The synchronous protocol between the controller and the worker: the calls that post a
message on `to_thread_fds` and block on the reply, the worker's handling of each command, and
the remix converters whose ownership crosses the pipes. -/
namespace CrasAudio

/-! ## Replies -/

/-- The bytes the worker writes on `to_main_fds`. -/
def Reply.encode : Reply → List UInt8
  | .rc ret => leBytes (ret % 4294967296).toNat 4
  | .ptr conv => leBytes conv 8

/-- The number of bytes a reply takes on the pipe. -/
def Reply.width : Reply → Nat
  | .rc _ => 4
  | .ptr _ => 8

/-- `sizeof(rsp)` in the call blocked on the reply to `m`. -/
def WireMsg.replyWidth : WireMsg → Nat
  | .configGlobalRemix _ => 8
  | _ => 4

/-- The reply a call reads from the `width` bytes of its `rsp`. -/
def decodeReply (width : Nat) (bs : List UInt8) : Reply :=
  if width = 8 then .ptr (leValue bs) else .rc (int32 (leValue bs))

/-- A reply as the controller receives it. -/
def Reply.wire : Reply → Reply
  | .rc ret => .rc (int32 ret)
  | .ptr conv => .ptr (conv % 18446744073709551616)

/-- The converter a reply hands back, 0 for none. -/
def Reply.conv : Reply → Nat
  | .ptr conv => conv
  | .rc _ => 0

theorem Reply.conv_of_width {r : Reply} (h : r.width = 4) : r.conv = 0 := by
  cases r with
  | rc => rfl
  | ptr => cases h

theorem Reply.length_encode (r : Reply) : r.encode.length = r.width := by
  cases r <;> simp [Reply.encode, Reply.width]

theorem decodeReply_encode (r : Reply) : decodeReply r.width r.encode = r.wire := by
  cases r with
  | rc ret =>
    have h := Int.emod_nonneg ret (by decide : (4294967296 : Int) ≠ 0)
    simp only [decodeReply, Reply.width, Reply.encode, Reply.wire, leValue_leBytes,
      (by decide : (4 : Nat) ≠ 8), if_false, Reply.rc.injEq]
    unfold int32
    omega
  | ptr conv => simp [decodeReply, Reply.width, Reply.encode, Reply.wire, leValue_leBytes]

/-! ## Messages as the worker resolves them -/

/-- The controller's memory the worker reads through a message's pointers. -/
structure Heap where
  iodev : UInt64 → CrasIodev
  rstream : UInt64 → CrasRstream
  devArray : UInt64 → Nat → List UInt64

/-- The command `handle_playback_thread_message` runs for a message. -/
def WireMsg.resolve (heap : Heap) : WireMsg → AudioThreadMsg
  | .addOpenDev dev => .addOpenDev (heap.iodev dev)
  | .rmOpenDev dev => .rmOpenDev (heap.iodev dev)
  | .isDevOpen dev => .isDevOpen (heap.iodev dev)
  | .addStream stream devs numDevs =>
    .addStream (heap.rstream stream) ((heap.devArray devs numDevs.toNat).map heap.iodev)
  | .disconnectStream stream devs =>
    .disconnectStream (heap.rstream stream)
      (match heap.devArray devs 1 with
        | dev :: _ => if dev = 0 then none else some (heap.iodev dev)
        | [] => none)
  | .drainStream stream => .drainStream (heap.rstream stream)
  | .dumpThreadInfo _ => .dumpThreadInfo
  | .configGlobalRemix fmtConv => .configGlobalRemix fmtConv.toNat
  | .devStartRamp dev request => .devStartRamp (heap.iodev dev) request.toNat
  | .rmCallbackSync fd => .removeCallback fd.val
  | .setAecDump streamId start fd => .aecDump streamId.toNat start.toNat fd.val
  | .stop _ => .stop

def WireMsg.isStop : WireMsg → Bool
  | .stop _ => true
  | _ => false

/-- The messages of the calls that go through `audio_thread_post_message`. -/
def WireMsg.plainCall : WireMsg → Bool
  | .configGlobalRemix _ | .stop _ => false
  | _ => true

/-- The converter a message hands to the worker, 0 for none. -/
def WireMsg.conv : WireMsg → Nat
  | .configGlobalRemix fmtConv => fmtConv.toNat
  | _ => 0

/-! ## The identity check of `audio_thread_config_global_remix`

The coefficients are `float`s, which the check only compares with 1 and 0: the model takes them
in any type with a decidable equality, a 0 and a 1. -/

/-- The index `i * num_channels + j`, computed in `unsigned int`. -/
def coefficientIndex (numChannels i j : Nat) : Nat := (i * numChannels + j) % 4294967296

/-- The inner loop of the identity check, over `j` from `i + 1`. -/
def remixInnerLoop {α : Type} [DecidableEq α] [Zero α] (numChannels : Nat)
    (coefficient : Nat → α) (i : Nat) (identityRemix : Bool) : List Nat → Bool
  | [] => identityRemix
  | j :: js =>
    if coefficient (coefficientIndex numChannels i j) ≠ 0 ∨
        coefficient (coefficientIndex numChannels j i) ≠ 0 then false
    else remixInnerLoop numChannels coefficient i identityRemix js

/-- The outer loop of the identity check, over `i`. -/
def remixOuterLoop {α : Type} [DecidableEq α] [Zero α] [One α] (numChannels : Nat)
    (coefficient : Nat → α) (identityRemix : Bool) :
    List Nat → Bool
  | [] => identityRemix
  | i :: is =>
    if coefficient (coefficientIndex numChannels i i) ≠ 1 then false
    else remixOuterLoop numChannels coefficient
      (remixInnerLoop numChannels coefficient i identityRemix
        (List.range' (i + 1) (numChannels - (i + 1)))) is

/-- Whether `audio_thread_config_global_remix` takes `coefficient` for the identity. -/
def isIdentityRemix {α : Type} [DecidableEq α] [Zero α] [One α] (numChannels : Nat)
    (coefficient : Nat → α) : Bool :=
  remixOuterLoop numChannels coefficient true (List.range numChannels)

theorem coefficientIndex_of_le {n i j : Nat} (hn : n ≤ 65536) (hi : i < n) (hj : j < n) :
    coefficientIndex n i j = i * n + j := by
  apply Nat.mod_eq_of_lt
  calc i * n + j < (i + 1) * n := by rw [Nat.succ_mul]; omega
    _ ≤ n * n := Nat.mul_le_mul_right n hi
    _ ≤ 65536 * 65536 := Nat.mul_le_mul hn hn
    _ = 4294967296 := rfl

section IdentityCheck

variable {α : Type} [DecidableEq α] [Zero α] [One α] (n : Nat) (coef : Nat → α)

omit [One α] in
theorem remixInnerLoop_eq (i : Nat) (b : Bool) (js : List Nat) :
    remixInnerLoop n coef i b js = (b && js.all fun j =>
      coef (coefficientIndex n i j) = 0 ∧ coef (coefficientIndex n j i) = 0) := by
  induction js with
  | nil => simp [remixInnerLoop]
  | cons j js ih =>
    by_cases h : coef (coefficientIndex n i j) ≠ 0 ∨ coef (coefficientIndex n j i) ≠ 0
    · rw [remixInnerLoop, if_pos h]
      rcases h with h | h <;> simp [h]
    · rw [remixInnerLoop, if_neg h, ih]
      simp only [not_or, not_not] at h
      simp [h]

theorem remixOuterLoop_eq (b : Bool) (is : List Nat) :
    remixOuterLoop n coef b is = (b && is.all fun i => coef (coefficientIndex n i i) = 1 &&
      (List.range' (i + 1) (n - (i + 1))).all fun j =>
        coef (coefficientIndex n i j) = 0 ∧ coef (coefficientIndex n j i) = 0) := by
  induction is generalizing b with
  | nil => simp [remixOuterLoop]
  | cons i is ih =>
    by_cases h : coef (coefficientIndex n i i) ≠ 1
    · simp [remixOuterLoop, h]
    · rw [remixOuterLoop, if_neg h, ih, remixInnerLoop_eq]
      simp only [ne_eq, not_not] at h
      simp [h, Bool.and_assoc]

theorem isIdentityRemix_iff :
    isIdentityRemix n coef = true ↔
      ∀ i < n, ∀ j < n, coef (coefficientIndex n i j) = if i = j then 1 else 0 := by
  simp only [isIdentityRemix, remixOuterLoop_eq, Bool.true_and, List.all_eq_true, List.mem_range,
    List.mem_range'_1, Bool.and_eq_true, decide_eq_true_eq]
  constructor
  · intro h i hi j hj
    rcases lt_trichotomy i j with hij | rfl | hij
    · simpa [hij.ne] using ((h i hi).2 j ⟨by omega, by omega⟩).1
    · simpa using (h i hi).1
    · simpa [hij.ne'] using ((h j hj).2 i ⟨by omega, by omega⟩).2
  · intro h i hi
    refine ⟨by simpa using h i hi i hi, fun j hj => ⟨?_, ?_⟩⟩
    · simpa [show i ≠ j by omega] using h i hi j (by omega)
    · simpa [show j ≠ i by omega] using h j (by omega) i hi

/-- Up to 65536 channels the converter is left NULL exactly for the identity matrix. -/
theorem identity_remix_iff_identity_matrix (hn : n ≤ 65536) :
    isIdentityRemix n coef = true ↔
      ∀ i < n, ∀ j < n, coef (i * n + j) = if i = j then 1 else 0 := by
  rw [isIdentityRemix_iff]
  refine forall₂_congr fun i hi => forall₂_congr fun j hj => ?_
  rw [coefficientIndex_of_le hn hi hj]

example : isIdentityRemix 2 (fun k : Nat => if k = 0 ∨ k = 3 then (1 : Nat) else 0) = true := by
  decide

end IdentityCheck

/-- A coefficient as the check sees it: 0, 1, or any other value. -/
inductive Coefficient
  | zero
  | one
  | other
  deriving DecidableEq, Repr

instance : Zero Coefficient := ⟨.zero⟩

instance : One Coefficient := ⟨.one⟩

/-- The identity matrix of `n` channels, row by row. -/
def identityCoefficients (n : Nat) (k : Nat) : Coefficient := if k % (n + 1) = 0 then 1 else 0

/-- Two channels, the identity: no converter. -/
theorem identity_remix_of_two_channels : 2 ≤ 65536 ∧
    (isIdentityRemix 2 (identityCoefficients 2) = true ↔
      ∀ i < 2, ∀ j < 2, identityCoefficients 2 (i * 2 + j) = if i = j then 1 else 0) :=
  ⟨by decide, identity_remix_iff_identity_matrix 2 (identityCoefficients 2) (by decide)⟩

/-- At 65537 channels the diagonal index wraps, so the identity gets a converter. -/
theorem identity_remix_missed_at_65537_channels :
    (∀ i < 65537, ∀ j < 65537,
      identityCoefficients 65537 (i * 65537 + j) = if i = j then 1 else 0) ∧
    isIdentityRemix 65537 (identityCoefficients 65537) = false := by
  refine ⟨fun i hi j hj => ?_, ?_⟩
  · unfold identityCoefficients
    by_cases hij : i = j
    · rw [if_pos hij, if_pos (by subst hij; omega)]
    · rw [if_neg hij, if_neg (by omega)]
  · rw [Bool.eq_false_iff]
    intro h
    have hdiag := (isIdentityRemix_iff _ _).1 h 65536 (by decide) 65536 (by decide)
    have hidx : coefficientIndex 65537 65536 65536 = 131072 := by decide
    rw [hidx] at hdiag
    exact absurd hdiag (by decide)

/-! ## The two threads -/

/-- What the controller thread is doing. -/
inductive Ctrl
  | idle
  | waiting (m : WireMsg)
  | done
  deriving DecidableEq

/-- A returned `audio_thread_config_global_remix` call and the worker's converters. -/
structure RemixCall where
  identity : Bool
  created : Option Nat
  ret : Int
  slotBefore : Nat
  slotAfter : Nat
  deriving DecidableEq, Repr

/-- A started thread and its controller, with the histories the protocol is judged by: messages
posted, commands read with their replies, replies read, and converters. -/
structure System where
  worker : AudioThread
  running : Bool
  toThread : List UInt8
  toMain : List UInt8
  ctrl : Ctrl
  sent : List WireMsg
  handled : List (Option WireMsg × Reply)
  received : List Reply
  created : List Nat
  live : List Nat
  destroyed : List Nat
  faults : Bool
  remixLog : List RemixCall

namespace System

/-- The thread `audio_thread_start` leaves, before any call. -/
def init : System where
  worker := AudioThread.init
  running := true
  toThread := []
  toMain := []
  ctrl := .idle
  sent := []
  handled := []
  received := []
  created := []
  live := []
  destroyed := []
  faults := false
  remixLog := []

/-- A call writes its whole message in one `write()` and blocks on the reply. -/
def post (s : System) (m : WireMsg) : System :=
  { s with
    toThread := s.toThread ++ m.encode
    ctrl := .waiting m
    sent := s.sent ++ [m] }

/-- `cras_channel_remix_conv_create` returns `conv`, which the call then posts. -/
def createConv (s : System) (conv : UInt64) : System :=
  { s with created := s.created ++ [conv.toNat], live := s.live ++ [conv.toNat] }.post
    (.configGlobalRemix conv)

/-- `cras_channel_remix_conv_create` returns NULL: the call returns `-ENOMEM`. -/
def remixNoMem (s : System) : System :=
  { s with remixLog := s.remixLog ++
      [⟨false, none, -enomem, s.worker.remixConverter, s.worker.remixConverter⟩] }

/-- `cras_fmt_conv_destroy(conv)`. -/
def destroyConv (s : System) (conv : Nat) : System :=
  { s with
    live := s.live.erase conv
    destroyed := s.destroyed ++ [conv]
    faults := s.faults ||
      !(decide (conv ∈ s.live) && !(s.running && conv == s.worker.remixConverter)) }

/-- `if (conv) cras_fmt_conv_destroy(&conv)`. -/
def destroyIfSet (s : System) (conv : Nat) : System :=
  if conv = 0 then s else s.destroyConv conv

/-- `handle_playback_thread_message`: read one command, run it, write one reply. -/
def workerHandle (env : Env) (heap : Heap) (sched : List ReadOutcome) (buf : Nat → UInt8)
    (s : System) : System :=
  let r := audioThreadReadCommand ⟨s.toThread, sched⟩ buf 256
  if r.1 < 0 then { s with toThread := r.2.1.data }
  else
    let m := decodeBuf r.2.2
    let out := match m with
      | some m => handleThreadMessage env s.worker (m.resolve heap)
      | none => (s.worker, .rc (-einval))
    { s with
      worker := out.1
      toThread := r.2.1.data
      toMain := s.toMain ++ out.2.encode
      handled := s.handled ++ [(m, out.2)]
      running := !(m.map WireMsg.isStop).getD false }

/-- What a call does once it has its reply. -/
def finishCall (m : WireMsg) (reply : Reply) (s : System) : System :=
  let s := { s with received := s.received ++ [reply] }
  match m, reply with
  | .configGlobalRemix conv, .ptr old =>
    let s := s.destroyIfSet old
    { s with
      ctrl := .idle
      remixLog := s.remixLog ++
        [⟨conv = 0, if conv = 0 then none else some conv.toNat, 0, old, s.worker.remixConverter⟩] }
  | .stop _, _ =>
    let s := s.destroyIfSet s.worker.remixConverter
    { s with ctrl := .done }
  | _, _ => { s with ctrl := .idle }

/-- The blocked call reads its reply; a failed read makes it return the error. -/
def receive (sched : List ReadOutcome) (rsp : Nat → UInt8) (m : WireMsg) (s : System) : System :=
  let r := readUntilFinished ⟨s.toMain, sched⟩ rsp 0 m.replyWidth
  if r.1 < 0 then { s with toMain := r.2.1.data, ctrl := .idle }
  else finishCall m (decodeReply m.replyWidth ((List.range m.replyWidth).map r.2.2))
    { s with toMain := r.2.1.data }

/-- The steps of the controller and the worker, in any interleaving. -/
inductive Step : System → System → Prop
  /-- A call through `audio_thread_post_message`; `audio_thread_is_dev_open` with a NULL
  device returns 0 without posting. -/
  | call {s : System} (m : WireMsg) (hm : m.plainCall = true) (hdev : m ≠ .isDevOpen 0)
      (hc : s.ctrl = .idle) : Step s (s.post m)
  /-- `audio_thread_config_global_remix` with an identity matrix: `fmt_conv` stays NULL. -/
  | remixIdentity {s : System} {α : Type} [DecidableEq α] [Zero α] [One α] (numChannels : Nat)
      (coefficient : Nat → α) (hid : isIdentityRemix numChannels coefficient = true)
      (hc : s.ctrl = .idle) : Step s (s.post (.configGlobalRemix 0))
  /-- `audio_thread_config_global_remix` creates `conv`, a fresh allocation. -/
  | remixCreate {s : System} {α : Type} [DecidableEq α] [Zero α] [One α] (numChannels : Nat)
      (coefficient : Nat → α) (hid : isIdentityRemix numChannels coefficient = false)
      (conv : UInt64) (h0 : conv ≠ 0) (hf : conv.toNat ∉ s.live) (hc : s.ctrl = .idle) :
      Step s (s.createConv conv)
  /-- `audio_thread_config_global_remix` fails to create its converter. -/
  | remixNoMem {s : System} {α : Type} [DecidableEq α] [Zero α] [One α] (numChannels : Nat)
      (coefficient : Nat → α) (hid : isIdentityRemix numChannels coefficient = false)
      (hc : s.ctrl = .idle) : Step s s.remixNoMem
  /-- `audio_thread_destroy` posts Stop. -/
  | destroy {s : System} (padding : UInt32) (hc : s.ctrl = .idle) :
      Step s (s.post (.stop padding))
  /-- The worker finds the pipe readable and handles a command. -/
  | handle {s : System} (env : Env) (heap : Heap) (sched : List ReadOutcome)
      (buf : Nat → UInt8) (hr : s.running = true) (ht : s.toThread ≠ []) (hd : Delivers sched) :
      Step s (s.workerHandle env heap sched buf)
  /-- The blocked call reads its reply. -/
  | receive {s : System} (m : WireMsg) (sched : List ReadOutcome) (rsp : Nat → UInt8)
      (hc : s.ctrl = .waiting m) (ht : s.toMain ≠ []) (hd : Delivers sched) :
      Step s (s.receive sched rsp m)

/-- The states of a started thread and its controller, after any interleaving of steps. -/
inductive Reachable : System → Prop
  | init : Reachable init
  | step {s s' : System} : Reachable s → Step s s' → Reachable s'

end System

/-! ## What each step does -/

theorem handle_reply_width (env : Env) (heap : Heap) (t : AudioThread) (m : WireMsg) :
    (handleThreadMessage env t (m.resolve heap)).2.width = m.replyWidth := by
  cases m <;> simp [WireMsg.resolve, handleThreadMessage, Reply.width, WireMsg.replyWidth]

theorem handle_reply_conv (env : Env) (heap : Heap) (t : AudioThread) (m : WireMsg) :
    (handleThreadMessage env t (m.resolve heap)).2.conv =
      if m.conv = 0 ∧ m.replyWidth = 4 then 0 else t.remixConverter := by
  cases m <;> simp [WireMsg.resolve, handleThreadMessage, Reply.conv, WireMsg.conv,
    WireMsg.replyWidth]

theorem handle_remixConverter (env : Env) (heap : Heap) (t : AudioThread) (m : WireMsg) :
    (handleThreadMessage env t (m.resolve heap)).1.remixConverter =
      if m.replyWidth = 8 then m.conv else t.remixConverter := by
  rw [handleThreadMessage_remixConverter]
  cases m <;> rfl

namespace System

variable {s : System}

theorem workerHandle_encode (env : Env) (heap : Heap) {sched : List ReadOutcome}
    (hd : Delivers sched) (buf : Nat → UInt8) {m : WireMsg} (h : s.toThread = m.encode) :
    s.workerHandle env heap sched buf =
      { s with
        worker := (handleThreadMessage env s.worker (m.resolve heap)).1
        toThread := []
        toMain := s.toMain ++ (handleThreadMessage env s.worker (m.resolve heap)).2.encode
        handled := s.handled ++ [(some m, (handleThreadMessage env s.worker (m.resolve heap)).2)]
        running := !m.isStop } := by
  obtain ⟨sched', -, hr⟩ := audioThreadReadCommand_reads m [] sched hd buf
  rw [List.append_nil] at hr
  unfold workerHandle
  rw [h, hr]
  dsimp only
  rw [if_neg (Int.lt_irrefl 0), decodeBuf_writeBytes]
  rfl

theorem receive_encode {sched : List ReadOutcome} (hd : Delivers sched) (rsp : Nat → UInt8)
    {m : WireMsg} {r : Reply} (h : s.toMain = r.encode) (hw : r.width = m.replyWidth) :
    s.receive sched rsp m = finishCall m r.wire { s with toMain := [] } := by
  have hlen : r.encode.length < 2147483648 := by
    rw [Reply.length_encode]; cases r <;> simp [Reply.width]
  obtain ⟨sched', -, hr⟩ := readUntilFinished_reads 0 r.encode [] sched hd rsp hlen
  rw [List.append_nil, Reply.length_encode, hw] at hr
  unfold receive
  rw [h, hr]
  have hm := map_range_writeBytes rsp r.encode
  rw [Reply.length_encode, hw] at hm
  dsimp only
  rw [if_neg (by omega), hm, ← hw, decodeReply_encode]

end System

/-! ## The protocol invariant -/

/-- The converter a slot or a message holds, unless NULL. -/
def convList (conv : Nat) : List Nat := if conv = 0 then [] else [conv]

@[simp] theorem convList_zero : convList 0 = [] := rfl

/-- A returned config call installed its converter, NULL for the identity, or failed with
`-ENOMEM` and left the worker's converter. -/
def RemixCall.Sound (c : RemixCall) : Prop :=
  (c.ret = 0 ∧ (c.identity = true ↔ c.created = none) ∧ c.slotAfter = c.created.getD 0) ∨
  (c.ret = -enomem ∧ c.identity = false ∧ c.created = none ∧ c.slotAfter = c.slotBefore)

namespace System

/-- `m` is posted and the worker has not read it yet. -/
def Posted (s : System) (m : WireMsg) : Prop :=
  s.toThread = m.encode ∧ s.toMain = [] ∧ s.handled.length + 1 = s.sent.length ∧
    s.running = true ∧ s.live.Perm (convList s.worker.remixConverter ++ convList m.conv)

/-- The worker has handled `m`, and its reply `r` is on the pipe. -/
def Answered (s : System) (m : WireMsg) (r : Reply) : Prop :=
  s.toThread = [] ∧ s.toMain = r.encode ∧ s.handled.length = s.sent.length ∧
    s.handled.getLast? = some (some m, r) ∧ r.width = m.replyWidth ∧ s.running = !m.isStop ∧
    r.conv < 18446744073709551616 ∧
    s.live.Perm (convList s.worker.remixConverter ++ convList r.conv) ∧
    (m.replyWidth = 8 → s.worker.remixConverter = m.conv)

/-- What holds between steps, by what the controller is doing. -/
def PhaseInv (s : System) : Prop :=
  match s.ctrl with
  | .idle => s.toThread = [] ∧ s.toMain = [] ∧ s.handled.length = s.sent.length ∧
      s.received.length = s.sent.length ∧ s.running = true ∧
      s.live.Perm (convList s.worker.remixConverter)
  | .waiting m => s.sent.getLast? = some m ∧ s.received.length + 1 = s.sent.length ∧
      (s.Posted m ∨ ∃ r, s.Answered m r)
  | .done => s.toThread = [] ∧ s.toMain = [] ∧ s.handled.length = s.sent.length ∧
      s.received.length = s.sent.length ∧ s.running = false ∧ s.live = []

/-- The protocol invariant: the phase, the histories in order, and the converters' ownership. -/
structure Inv (s : System) : Prop where
  phase : s.PhaseInv
  handled_sent : (s.handled.map Prod.fst).IsPrefix (s.sent.map some)
  received_handled : s.received.IsPrefix (s.handled.map fun p => p.2.wire)
  reply_width : ∀ p ∈ s.handled, ∃ m, p.1 = some m ∧ p.2.width = m.replyWidth
  live_nodup : s.live.Nodup
  live_created : (s.destroyed ++ s.live).Perm s.created
  no_fault : s.faults = false
  slot_lt : s.worker.remixConverter < 18446744073709551616
  remix_log : ∀ c ∈ s.remixLog, c.Sound

variable {s : System}

theorem phaseInv_idle (hc : s.ctrl = .idle) :
    s.PhaseInv ↔ s.toThread = [] ∧ s.toMain = [] ∧ s.handled.length = s.sent.length ∧
      s.received.length = s.sent.length ∧ s.running = true ∧
      s.live.Perm (convList s.worker.remixConverter) := by
  simp only [PhaseInv, hc]

theorem phaseInv_waiting {m : WireMsg} (hc : s.ctrl = .waiting m) :
    s.PhaseInv ↔ s.sent.getLast? = some m ∧ s.received.length + 1 = s.sent.length ∧
      (s.Posted m ∨ ∃ r, s.Answered m r) := by
  simp only [PhaseInv, hc]

theorem phaseInv_done (hc : s.ctrl = .done) :
    s.PhaseInv ↔ s.toThread = [] ∧ s.toMain = [] ∧ s.handled.length = s.sent.length ∧
      s.received.length = s.sent.length ∧ s.running = false ∧ s.live = [] := by
  simp only [PhaseInv, hc]

theorem invariant_init : init.Inv where
  phase := (phaseInv_idle rfl).mpr ⟨rfl, rfl, rfl, rfl, rfl, by simp [convList, init, AudioThread.init]⟩
  handled_sent := List.nil_prefix
  received_handled := List.nil_prefix
  reply_width := by simp [init]
  live_nodup := List.nodup_nil
  live_created := List.Perm.refl _
  no_fault := rfl
  slot_lt := by decide
  remix_log := by simp [init]

end System

/-! ## Each step keeps the invariant -/

theorem prefix_append_getLast {α : Type} {l₁ l₂ : List α} {a : α} (hp : l₁.IsPrefix l₂)
    (hl : l₁.length + 1 = l₂.length) (ha : l₂.getLast? = some a) : l₁ ++ [a] = l₂ := by
  obtain ⟨t, rfl⟩ := hp
  rw [List.length_append] at hl
  obtain ⟨b, rfl⟩ := List.length_eq_one.mp (by omega : t.length = 1)
  simp only [List.getLast?_concat, Option.some.injEq] at ha
  rw [ha]

theorem WireMsg.conv_lt (m : WireMsg) : m.conv < 18446744073709551616 := by
  cases m <;> simp only [WireMsg.conv] <;> first | decide | exact UInt64.toNat_lt_size _

theorem WireMsg.replyWidth_cases (m : WireMsg) :
    m.replyWidth = 8 ∨ (m.replyWidth = 4 ∧ m.conv = 0) := by
  cases m <;> simp [WireMsg.replyWidth, WireMsg.conv]

namespace System

variable {s : System}

theorem Inv.workerHandle (hi : s.Inv) (env : Env) (heap : Heap) {sched : List ReadOutcome}
    (hd : Delivers sched) (buf : Nat → UInt8) (ht : s.toThread ≠ []) :
    (s.workerHandle env heap sched buf).Inv := by
  have hp := hi.phase
  cases hc : s.ctrl with
  | idle => exact absurd ((phaseInv_idle hc).mp hp).1 ht
  | done => exact absurd ((phaseInv_done hc).mp hp).1 ht
  | waiting m =>
    obtain ⟨hlast, hrec, hpa | ⟨r, hans⟩⟩ := (phaseInv_waiting hc).mp hp
    swap
    · exact absurd hans.1 ht
    obtain ⟨htt, htm, hlen, -, hlive⟩ := hpa
    rw [workerHandle_encode env heap hd buf htt]
    have hw := handle_reply_width env heap s.worker m
    have hcv := handle_reply_conv env heap s.worker m
    have hsl := handle_remixConverter env heap s.worker m
    generalize handleThreadMessage env s.worker (m.resolve heap) = out at hw hcv hsl ⊢
    have hlive' : s.live.Perm (convList out.1.remixConverter ++ convList out.2.conv) := by
      rw [hsl, hcv]
      rcases m.replyWidth_cases with h8 | ⟨h4, h0⟩
      · simpa [h8] using hlive.trans List.perm_append_comm
      · simpa [h4, h0] using hlive
    have hsent : (s.handled.map Prod.fst ++ [some m]) = s.sent.map some :=
      prefix_append_getLast hi.handled_sent (by simpa using hlen) (by simp [hlast])
    refine ⟨?_, ?_, ?_, ?_, hi.live_nodup, hi.live_created, hi.no_fault, ?_, hi.remix_log⟩
    · simp only [PhaseInv, hc]
      refine ⟨hlast, hrec, .inr ⟨out.2, rfl, by simp [htm], by simp; omega, by simp, hw, rfl,
        ?_, hlive', fun h8 => by simp [hsl, h8]⟩⟩
      rw [hcv]
      split
      · decide
      · exact hi.slot_lt
    · simp only [List.map_append, List.map_cons, List.map_nil, hsent]
      exact List.prefix_refl _
    · simp only [List.map_append]
      exact hi.received_handled.trans (List.prefix_append _ _)
    · intro p hp
      rcases List.mem_append.mp hp with hp | hp
      · exact hi.reply_width p hp
      · rw [List.mem_singleton.mp hp]
        exact ⟨m, rfl, hw⟩
    · rw [hsl]
      split
      · exact m.conv_lt
      · exact hi.slot_lt

end System

theorem prefix_getElem? {α : Type} {l₁ l₂ : List α} (h : l₁ <+: l₂) {i : Nat}
    (hi : i < l₁.length) : l₂[i]? = l₁[i]? := by
  obtain ⟨t, rfl⟩ := h
  exact List.getElem?_append_left hi

theorem WireMsg.plain_facts {m : WireMsg} (h : m.plainCall = true) :
    m.replyWidth = 4 ∧ m.isStop = false ∧ m.conv = 0 := by
  cases m <;> simp_all [WireMsg.plainCall, WireMsg.replyWidth, WireMsg.isStop, WireMsg.conv]

theorem WireMsg.trichotomy (m : WireMsg) :
    (∃ c, m = .configGlobalRemix c) ∨ (∃ p, m = .stop p) ∨ m.plainCall = true := by
  cases m <;> simp [WireMsg.plainCall]

namespace System

variable {s : System}

theorem finishCall_plain {m : WireMsg} (hm : m.plainCall = true) (reply : Reply) (s : System) :
    finishCall m reply s = { s with received := s.received ++ [reply], ctrl := .idle } := by
  cases m <;> simp_all [WireMsg.plainCall, finishCall]

theorem destroyIfSet_eq (conv : Nat) (hm : conv ≠ 0 → conv ∈ s.live)
    (hs : s.running = true → conv ≠ 0 → conv ≠ s.worker.remixConverter) (hn : s.live.Nodup)
    (hf : s.faults = false) :
    ∃ live destroyed, s.destroyIfSet conv = { s with live := live, destroyed := destroyed } ∧
      (live ++ convList conv).Perm s.live ∧ live.Nodup ∧
      (destroyed ++ live).Perm (s.destroyed ++ s.live) := by
  by_cases h0 : conv = 0
  · exact ⟨s.live, s.destroyed, by simp [destroyIfSet, h0], by simp [convList, h0], hn, .refl _⟩
  have hl := List.perm_cons_erase (hm h0)
  refine ⟨s.live.erase conv, s.destroyed ++ [conv], ?_, ?_, hn.erase conv, ?_⟩
  · have hnf : (s.running && conv == s.worker.remixConverter) = false := by
      cases hr : s.running
      · rfl
      · simpa using hs hr h0
    simp [destroyIfSet, destroyConv, h0, hm h0, hf, hnf]
  · simpa [convList, h0] using (List.perm_append_singleton _ _).trans hl.symm
  · simpa only [List.append_assoc, List.singleton_append] using hl.symm.append_left s.destroyed

theorem Inv.post (hi : s.Inv) (hc : s.ctrl = .idle) (m : WireMsg) (hm : m.conv = 0) :
    (s.post m).Inv := by
  obtain ⟨htt, htm, hlen, hrec, hrun, hlive⟩ := (phaseInv_idle hc).mp hi.phase
  refine ⟨?_, ?_, hi.received_handled, hi.reply_width, hi.live_nodup, hi.live_created,
    hi.no_fault, hi.slot_lt, hi.remix_log⟩
  · simp only [PhaseInv, System.post]
    exact ⟨by simp, by simp [hrec], .inl ⟨by simp [htt], htm, by simp [hlen], hrun,
      by simpa [hm, convList] using hlive⟩⟩
  · simp only [System.post, List.map_append]
    exact hi.handled_sent.trans (List.prefix_append _ _)

theorem Inv.createConv (hi : s.Inv) (hc : s.ctrl = .idle) (conv : UInt64) (h0 : conv ≠ 0)
    (hf : conv.toNat ∉ s.live) : (s.createConv conv).Inv := by
  obtain ⟨htt, htm, hlen, hrec, hrun, hlive⟩ := (phaseInv_idle hc).mp hi.phase
  have hne : conv.toNat ≠ 0 := fun h => h0 (UInt64.toNat.inj (h.trans UInt64.toNat_zero.symm))
  refine ⟨?_, ?_, hi.received_handled, hi.reply_width, ?_, ?_, hi.no_fault, hi.slot_lt,
    hi.remix_log⟩
  · simp only [PhaseInv, System.createConv, System.post]
    refine ⟨by simp, by simp [hrec], .inl ⟨by simp [htt], htm, by simp [hlen], hrun, ?_⟩⟩
    simpa [WireMsg.conv, convList, hne] using hlive.append_right [conv.toNat]
  · simp only [System.createConv, System.post, List.map_append]
    exact hi.handled_sent.trans (List.prefix_append _ _)
  · exact hi.live_nodup.append (List.nodup_singleton _) (List.disjoint_singleton.mpr hf)
  · simpa [System.createConv, System.post, ← List.append_assoc] using hi.live_created.append_right [conv.toNat]

theorem Inv.remixNoMem (hi : s.Inv) : s.remixNoMem.Inv where
  phase := hi.phase
  handled_sent := hi.handled_sent
  received_handled := hi.received_handled
  reply_width := hi.reply_width
  live_nodup := hi.live_nodup
  live_created := hi.live_created
  no_fault := hi.no_fault
  slot_lt := hi.slot_lt
  remix_log c hc := by
    rcases List.mem_append.mp hc with hc | hc
    · exact hi.remix_log c hc
    · rw [List.mem_singleton.mp hc]
      exact .inr ⟨rfl, rfl, rfl, rfl⟩

theorem Inv.receive (hi : s.Inv) {m : WireMsg} (hc : s.ctrl = .waiting m)
    {sched : List ReadOutcome} (hd : Delivers sched) (rsp : Nat → UInt8) (ht : s.toMain ≠ []) :
    (s.receive sched rsp m).Inv := by
  obtain ⟨-, hrec, hpa | ⟨r, htt, htm, hlen, hhl, hw, hrun, hconv, hlive, hslot⟩⟩ :=
    (phaseInv_waiting hc).mp hi.phase
  · exact absurd hpa.2.1 ht
  rw [receive_encode hd rsp htm hw]
  have hrecv : (s.received ++ [r.wire]).IsPrefix (s.handled.map fun p => p.2.wire) := by
    rw [prefix_append_getLast hi.received_handled (by simp; omega)
      (by simp [List.getLast?_map, hhl])]
  have hrl : (s.received ++ [r.wire]).length = s.sent.length := by simp; omega
  rcases m.trichotomy with ⟨c, rfl⟩ | ⟨pad, rfl⟩ | hplain
  · -- Config Global Remix: the reply hands back the old converter, which the call destroys.
    cases r with
    | rc ret => simp [Reply.width, WireMsg.replyWidth] at hw
    | ptr old =>
    simp only [Reply.conv] at hconv hlive
    have hwire : (Reply.ptr old).wire = .ptr old := by simp [Reply.wire, Nat.mod_eq_of_lt hconv]
    rw [hwire] at hrecv hrl ⊢
    simp only [WireMsg.isStop, Bool.not_false] at hrun
    have hslot' : s.worker.remixConverter = c.toNat := hslot rfl
    obtain ⟨live, dest, heq, hperm, hnd, hdl⟩ :=
      destroyIfSet_eq (s := { s with toMain := [], received := s.received ++ [.ptr old] }) old
        (fun h0 => hlive.mem_iff.mpr (by simp [convList, h0]))
        (fun _ h0 he => by
          have := hlive.nodup_iff.mp hi.live_nodup
          rw [show s.worker.remixConverter = old from he.symm] at this
          simp [convList, h0] at this)
        hi.live_nodup hi.no_fault
    dsimp only [finishCall]
    rw [heq]
    refine ⟨?_, hi.handled_sent, hrecv, hi.reply_width, hnd, hdl.trans hi.live_created,
      hi.no_fault, hi.slot_lt, ?_⟩
    · simp only [PhaseInv]
      exact ⟨htt, trivial, hlen, hrl, hrun, List.perm_append_right_iff _ |>.mp (hperm.trans hlive)⟩
    · intro e he
      rcases List.mem_append.mp he with he | he
      · exact hi.remix_log e he
      · rw [List.mem_singleton.mp he]
        refine .inl ⟨rfl, by by_cases h : c = 0 <;> simp [h], ?_⟩
        by_cases h : c = 0 <;> simp [h, hslot']
  · -- Stop: the worker has exited, and the caller destroys the converter it held.
    simp only [WireMsg.isStop, Bool.not_true] at hrun
    rw [Reply.conv_of_width hw, convList_zero, List.append_nil] at hlive
    obtain ⟨live, dest, heq, hperm, hnd, hdl⟩ :=
      destroyIfSet_eq (s := { s with toMain := [], received := s.received ++ [r.wire] })
        s.worker.remixConverter (fun h0 => hlive.mem_iff.mpr (by simp [convList, h0]))
        (fun h => absurd h (by simp [hrun])) hi.live_nodup hi.no_fault
    dsimp only [finishCall]
    rw [heq]
    refine ⟨?_, hi.handled_sent, hrecv, hi.reply_width, hnd, hdl.trans hi.live_created,
      hi.no_fault, hi.slot_lt, hi.remix_log⟩
    simp only [PhaseInv]
    refine ⟨htt, trivial, hlen, hrl, hrun, List.perm_nil.mp ?_⟩
    exact List.perm_append_right_iff _ |>.mp (by simpa using hperm.trans hlive)
  · -- The calls of audio_thread_post_message: an int comes back and nothing else changes.
    obtain ⟨h4, hstop, -⟩ := WireMsg.plain_facts hplain
    rw [Reply.conv_of_width (hw.trans h4), convList_zero, List.append_nil] at hlive
    rw [finishCall_plain hplain]
    refine ⟨?_, hi.handled_sent, hrecv, hi.reply_width, hi.live_nodup, hi.live_created,
      hi.no_fault, hi.slot_lt, hi.remix_log⟩
    simp only [PhaseInv]
    exact ⟨htt, trivial, hlen, hrl, by simpa [hstop] using hrun, hlive⟩

theorem Step.inv {s s' : System} (h : Step s s') (hi : s.Inv) : s'.Inv := by
  cases h with
  | call m hm _ hc => exact hi.post hc m (WireMsg.plain_facts hm).2.2
  | remixIdentity _ _ _ hc => exact hi.post hc _ (by decide)
  | remixCreate _ _ _ conv h0 hf hc => exact hi.createConv hc conv h0 hf
  | remixNoMem _ _ _ _ => exact hi.remixNoMem
  | destroy _ hc => exact hi.post hc _ rfl
  | handle env heap _ buf _ ht hd => exact hi.workerHandle env heap hd buf ht
  | receive _ _ rsp hc ht hd => exact hi.receive hc hd rsp ht

theorem Reachable.inv {s : System} (h : s.Reachable) : s.Inv := by
  induction h with
  | init => exact invariant_init
  | step _ hs ih => exact hs.inv ih

theorem Inv.sent_le (hi : s.Inv) : s.sent.length ≤ s.received.length + 1 := by
  cases hc : s.ctrl with
  | idle => exact ((phaseInv_idle hc).mp hi.phase).2.2.2.1.ge.trans (Nat.le_succ _)
  | waiting m => exact ((phaseInv_waiting hc).mp hi.phase).2.1.ge
  | done => exact ((phaseInv_done hc).mp hi.phase).2.2.2.1.ge.trans (Nat.le_succ _)

/-- A handled command not yet received is the last one handled, its reply on `to_main`. -/
theorem Inv.unreceived_on_pipe (hi : s.Inv) {i : Nat} {m : Option WireMsg} {r : Reply}
    (hr : s.received.length ≤ i) (hl : i < s.handled.length) (hp : s.handled[i]? = some (m, r)) :
    i = s.received.length ∧ s.toMain = r.encode := by
  cases hc : s.ctrl with
  | idle =>
    obtain ⟨-, -, hhs, hrs, -⟩ := (phaseInv_idle hc).mp hi.phase
    omega
  | done =>
    obtain ⟨-, -, hhs, hrs, -⟩ := (phaseInv_done hc).mp hi.phase
    omega
  | waiting m' =>
    obtain ⟨-, hrs, hpa | ⟨r', hans⟩⟩ := (phaseInv_waiting hc).mp hi.phase
    · have := hpa.2.2.1
      omega
    · have hhs := hans.2.2.1
      have hlast := hans.2.2.2.1
      rw [List.getLast?_eq_getElem?, show s.handled.length - 1 = i by omega, hp] at hlast
      cases hlast
      exact ⟨by omega, hans.2.1⟩

/-- The i-th command read is the i-th posted; its one reply, of its call's width, was received
by the i-th call or waits on `to_main`. -/
theorem calls_receive_replies_in_order {s : System} (h : s.Reachable) :
    s.received.length ≤ s.handled.length ∧ s.handled.length ≤ s.sent.length ∧
      s.sent.length ≤ s.received.length + 1 ∧
      ∀ i < s.handled.length, ∃ m r, s.sent[i]? = some m ∧ s.handled[i]? = some (some m, r) ∧
        r.width = m.replyWidth ∧
        (s.received[i]? = some r.wire ∨ i = s.received.length ∧ s.toMain = r.encode) := by
  have hi := h.inv
  have hhs := hi.handled_sent.length_le
  have hrh := hi.received_handled.length_le
  simp only [List.length_map] at hhs hrh
  refine ⟨hrh, hhs, hi.sent_le, fun i hl => ?_⟩
  obtain ⟨m, hm, hw⟩ := hi.reply_width _ (List.getElem_mem hl)
  have hget : s.handled[i]? = some (some m, s.handled[i].2) := by
    rw [List.getElem?_eq_getElem hl, ← hm]
  refine ⟨m, s.handled[i].2, ?_, hget, hw, ?_⟩
  · have hs := prefix_getElem? hi.handled_sent (by simpa using hl)
    rw [List.getElem?_map, List.getElem?_map, hget, Option.map_some', Option.map_eq_some'] at hs
    obtain ⟨a, ha, he⟩ := hs
    rw [ha, Option.some_inj.mp he]
  · by_cases hr : i < s.received.length
    · have hr := prefix_getElem? hi.received_handled hr
      rw [List.getElem?_map, hget] at hr
      exact .inl hr.symm
    · exact .inr (hi.unreceived_on_pipe (not_lt.mp hr) hl hget)

end System

/-! ## Every call returns -/

theorem WireMsg.encode_ne_nil (m : WireMsg) : m.encode ≠ [] := by
  obtain ⟨_, -, hl⟩ := encode_eq_length m
  have := (length_bounds m).1
  exact List.ne_nil_of_length_pos (by omega)

theorem Reply.encode_ne_nil (r : Reply) : r.encode ≠ [] := by
  apply List.ne_nil_of_length_pos
  rw [Reply.length_encode]
  cases r <;> simp [Reply.width]

namespace System

variable {s : System}

theorem finishCall_ctrl (m : WireMsg) (r : Reply) (s : System) :
    (finishCall m r s).ctrl = .idle ∨ (finishCall m r s).ctrl = .done := by
  unfold finishCall
  split <;> simp

theorem finishCall_sent (m : WireMsg) (r : Reply) (s : System) :
    (finishCall m r s).sent = s.sent := by
  have h (s : System) (conv : Nat) : (s.destroyIfSet conv).sent = s.sent := by
    unfold destroyIfSet; split <;> rfl
  unfold finishCall
  split <;> simp [h]

theorem Inv.received_settled (hi : s.Inv) (h : s.ctrl = .idle ∨ s.ctrl = .done) :
    s.received.length = s.sent.length := by
  rcases h with h | h
  · exact ((phaseInv_idle h).mp hi.phase).2.2.2.1
  · exact ((phaseInv_done h).mp hi.phase).2.2.2.1

theorem Inv.receive_returns (hi : s.Inv) {m : WireMsg} (hc : s.ctrl = .waiting m) {r : Reply}
    (hans : s.Answered m r) (rsp : Nat → UInt8) :
    ∃ s', Step s s' ∧ s'.sent = s.sent ∧ s'.received.length = s'.sent.length ∧
      (s'.ctrl = .idle ∨ s'.ctrl = .done) := by
  have hd : Delivers [] := by decide
  have hne : s.toMain ≠ [] := hans.2.1 ▸ r.encode_ne_nil
  have hst := Step.receive m [] rsp hc hne hd
  have hset := finishCall_ctrl m r.wire { s with toMain := [] }
  rw [receive_encode hd rsp hans.2.1 hans.2.2.2.2.1] at hst
  exact ⟨_, hst, finishCall_sent _ _ _, (hst.inv hi).received_settled hset, hset⟩

/-- An outstanding call returns in one or two steps, with every call answered and none posted
meanwhile. -/
theorem outstanding_call_returns {s : System} (h : s.Reachable) {m : WireMsg}
    (hc : s.ctrl = .waiting m) (env : Env) (heap : Heap) (buf rsp : Nat → UInt8) :
    ∃ s', (Step s s' ∨ ∃ s₁, Step s s₁ ∧ Step s₁ s') ∧ s'.sent = s.sent ∧
      s'.received.length = s'.sent.length ∧ (s'.ctrl = .idle ∨ s'.ctrl = .done) := by
  have hi := h.inv
  obtain ⟨-, -, hpa | ⟨r, hans⟩⟩ := (phaseInv_waiting hc).mp hi.phase
  · -- The worker has not read the message yet: it handles it first.
    have hst := Step.handle env heap [] buf hpa.2.2.2.1 (hpa.1 ▸ m.encode_ne_nil) (by decide)
    have hw := workerHandle_encode env heap (by decide : Delivers []) buf hpa.1
    have hc₁ : (s.workerHandle env heap [] buf).ctrl = .waiting m := by rw [hw]; exact hc
    obtain ⟨-, -, hpa₁ | ⟨r₁, hans₁⟩⟩ := (phaseInv_waiting hc₁).mp (hst.inv hi).phase
    · exact absurd (hpa₁.1.symm.trans (by rw [hw])) m.encode_ne_nil
    obtain ⟨s', hs', hsent, hdone⟩ := (hst.inv hi).receive_returns hc₁ hans₁ rsp
    exact ⟨s', .inr ⟨_, hst, hs'⟩, hsent.trans (by rw [hw]), hdone⟩
  · obtain ⟨s', hs', hdone⟩ := hi.receive_returns hc hans rsp
    exact ⟨s', .inl hs', hdone⟩

/-! ## A run -/

/-- A heap in which every handle names the same device and stream. -/
def Heap.uniform : Heap :=
  ⟨fun _ => CrasIodev.plain 1 .output, fun _ => CrasRstream.plain 2 .output, fun _ _ => []⟩

theorem createRun_reachable : (init.createConv 7).Reachable :=
  Reachable.init.step
    (Step.remixCreate 1 (fun _ => (2 : Nat)) (by decide) 7 (by decide) (by simp [init]) rfl)

theorem remix_call_returns : (init.createConv 7).Reachable ∧
    (init.createConv 7).ctrl = .waiting (.configGlobalRemix 7) ∧
    ∃ s', (Step (init.createConv 7) s' ∨ ∃ s₁, Step (init.createConv 7) s₁ ∧ Step s₁ s') ∧
      s'.sent = (init.createConv 7).sent ∧
      s'.received.length = s'.sent.length ∧ (s'.ctrl = .idle ∨ s'.ctrl = .done) :=
  ⟨createRun_reachable, rfl, outstanding_call_returns createRun_reachable rfl Env.nominal
    Heap.uniform (fun _ => 0) (fun _ => 0)⟩

/-- The first call: converter 7 installed, NULL handed back and read. -/
def installRun : System :=
  ((init.createConv 7).workerHandle Env.nominal Heap.uniform [] (fun _ => 0)).receive []
    (fun _ => 0) (.configGlobalRemix 7)

/-- The next call then fails to allocate its converter. -/
def remixEnomemRun : System := installRun.remixNoMem

theorem installRun_handle :
    (init.createConv 7).workerHandle Env.nominal Heap.uniform [] (fun _ => 0) =
      { init.createConv 7 with
        worker := { AudioThread.init with remixConverter := 7 }
        toThread := []
        toMain := (Reply.ptr 0).encode
        handled := [(some (.configGlobalRemix 7), .ptr 0)] } :=
  workerHandle_encode Env.nominal Heap.uniform (by decide : Delivers []) (fun _ => 0)
    (show (init.createConv 7).toThread = (WireMsg.configGlobalRemix 7).encode from rfl)

theorem installRun_eq : installRun.ctrl = .idle ∧ installRun.worker.remixConverter = 7 ∧
    installRun.remixLog = [⟨false, some 7, 0, 0, 7⟩] := by
  unfold installRun
  rw [installRun_handle, receive_encode (by decide : Delivers []) _
    (show _ = (Reply.ptr 0).encode from rfl)
    (show (Reply.ptr 0).width = (WireMsg.configGlobalRemix 7).replyWidth from rfl)]
  exact ⟨rfl, rfl, rfl⟩

theorem remixEnomemRun_reachable : remixEnomemRun.Reachable := by
  have h2 := createRun_reachable.step (Step.handle Env.nominal Heap.uniform [] (fun _ => 0) rfl
    (by decide) (by decide))
  have h3 := h2.step (Step.receive (.configGlobalRemix 7) [] (fun _ => 0)
    (by rw [installRun_handle]; rfl) (by rw [installRun_handle]; decide) (by decide))
  exact h3.step (Step.remixNoMem 1 (fun _ => (2 : Nat)) (by decide) installRun_eq.1)

theorem remix_run_replies_in_order : remixEnomemRun.Reachable ∧
    (remixEnomemRun.received.length ≤ remixEnomemRun.handled.length ∧
      remixEnomemRun.handled.length ≤ remixEnomemRun.sent.length ∧
      remixEnomemRun.sent.length ≤ remixEnomemRun.received.length + 1 ∧
      ∀ i < remixEnomemRun.handled.length, ∃ m r, remixEnomemRun.sent[i]? = some m ∧
        remixEnomemRun.handled[i]? = some (some m, r) ∧ r.width = m.replyWidth ∧
        (remixEnomemRun.received[i]? = some r.wire ∨
          i = remixEnomemRun.received.length ∧ remixEnomemRun.toMain = r.encode)) :=
  ⟨remixEnomemRun_reachable, calls_receive_replies_in_order remixEnomemRun_reachable⟩

theorem destroyIfSet_worker (s : System) (conv : Nat) : (s.destroyIfSet conv).worker = s.worker := by
  unfold destroyIfSet
  split <;> rfl

theorem finishCall_worker (m : WireMsg) (reply : Reply) (s : System) :
    (finishCall m reply s).worker = s.worker := by
  unfold finishCall
  split
  · exact destroyIfSet_worker _ _
  · exact destroyIfSet_worker _ _
  · rfl

theorem receive_worker (sched : List ReadOutcome) (rsp : Nat → UInt8) (m : WireMsg)
    (s : System) : (s.receive sched rsp m).worker = s.worker := by
  unfold receive
  dsimp only
  split
  · rfl
  · exact finishCall_worker _ _ _

/-- A system step keeps the worker's state or handles one command. -/
theorem Step.worker {s s' : System} (h : Step s s') :
    s'.worker = s.worker ∨ ∃ env msg, s'.worker = (handleThreadMessage env s.worker msg).1 := by
  cases h with
  | call | remixIdentity | remixCreate | remixNoMem | destroy => exact .inl rfl
  | handle env heap =>
    unfold workerHandle
    dsimp only
    split
    · exact .inl rfl
    · split
      · exact .inr ⟨env, _, rfl⟩
      · exact .inl rfl
  | receive m sched rsp => exact .inl (receive_worker _ _ _ _)

/-- Under every interleaving the worker's state is reachable by the handler machine, so it keeps
the list and ownership invariants. -/
theorem system_worker_runs_handler_machine {s : System} (h : s.Reachable) :
    CrasAudio.Reachable s.worker ∧ Invariant s.worker ∧ Owned s.worker := by
  have hw : CrasAudio.Reachable s.worker := by
    induction h with
    | init => exact .init
    | step _ hs ih =>
      rcases hs.worker with he | ⟨env, msg, he⟩
      · exact he ▸ ih
      · exact he ▸ ih.step env msg
  refine ⟨hw, invariant_reachable hw, ?_⟩
  clear h
  generalize s.worker = w at hw ⊢
  induction hw with
  | init => exact owned_init
  | step env msg _ ih => exact owned_handleThreadMessage ih env msg

theorem remix_run_worker_runs_handler_machine : remixEnomemRun.Reachable ∧
    (CrasAudio.Reachable remixEnomemRun.worker ∧ Invariant remixEnomemRun.worker ∧
      Owned remixEnomemRun.worker) :=
  ⟨remixEnomemRun_reachable, system_worker_runs_handler_machine remixEnomemRun_reachable⟩

end System

end CrasAudio

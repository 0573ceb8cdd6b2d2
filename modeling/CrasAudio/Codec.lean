import CrasAudio.Basic
import Mathlib.Data.UInt

/-! The command codec: the byte layout of the messages the controller writes to
`to_thread_fds`, and how the worker reads them back with `read_until_finished`. -/
namespace CrasAudio

/-! ## Little-endian fields -/

/-- The `w` bytes of `n`, least significant first, as a little-endian target stores them. -/
def leBytes (n : Nat) : Nat → List UInt8
  | 0 => []
  | w + 1 => (n % 256).toUInt8 :: leBytes (n / 256) w

/-- The number little-endian bytes stand for. -/
def leValue : List UInt8 → Nat
  | [] => 0
  | b :: bs => b.toNat + 256 * leValue bs

/-- Read a `w`-byte field off the front of `bs`. -/
def takeLE (w : Nat) (bs : List UInt8) : Nat × List UInt8 := (leValue (bs.take w), bs.drop w)

@[simp] theorem length_leBytes (n w : Nat) : (leBytes n w).length = w := by
  induction w generalizing n with
  | zero => rfl
  | succ w ih => simp [leBytes, ih]

theorem leValue_leBytes (n w : Nat) : leValue (leBytes n w) = n % 256 ^ w := by
  induction w generalizing n with
  | zero => simp [leBytes, leValue, Nat.mod_one]
  | succ w ih =>
    have hb : ((n % 256).toUInt8).toNat = n % 256 :=
      UInt8.toNat_ofNat_of_lt (Nat.mod_lt _ (by decide))
    rw [leBytes, leValue, hb, ih, pow_succ', ← Nat.mod_mul]

@[simp] theorem takeLE_leBytes (n w : Nat) (rest : List UInt8) :
    takeLE w (leBytes n w ++ rest) = (n % 256 ^ w, rest) := by
  simp only [takeLE, List.take_left' (length_leBytes n w), List.drop_left' (length_leBytes n w),
    leValue_leBytes]

/-- A C `int`: a 32-bit two's-complement value. -/
structure CInt where
  val : Int
  lo : -2147483648 ≤ val
  hi : val < 2147483648
  deriving DecidableEq

/-- The 32 bits of an `int`, as they sit in memory. -/
def CInt.bits (c : CInt) : Nat := (c.val % 4294967296).toNat

theorem int32_ge (n : Int) : -2147483648 ≤ int32 n := by
  have := Int.emod_nonneg (n + 2147483648) (by decide : (4294967296 : Int) ≠ 0)
  unfold int32
  omega

/-- The `int` whose bits are those of `n`. -/
def CInt.ofBits (n : Nat) : CInt := ⟨int32 n, int32_ge n, int32_lt n⟩

@[simp] theorem ofBits_bits (c : CInt) : CInt.ofBits (c.bits % 4294967296) = c := by
  have h0 := c.lo
  have h1 := c.hi
  have hb : ((c.bits % 4294967296 : Nat) : Int) = c.val % 4294967296 := by
    have := Int.emod_nonneg c.val (by decide : (4294967296 : Int) ≠ 0)
    unfold CInt.bits
    omega
  cases c
  simp only [CInt.ofBits, CInt.mk.injEq, hb]
  unfold int32
  omega

@[simp] theorem uint64_ofNat_toNat (x : UInt64) :
    UInt64.ofNat (x.toNat % 18446744073709551616) = x := by
  have h : x.toNat < 18446744073709551616 := x.toNat_lt_size
  exact UInt64.toNat.inj (by rw [Nat.mod_eq_of_lt h]; exact UInt64.toNat_ofNat_of_lt h)

@[simp] theorem uint32_ofNat_toNat (x : UInt32) : UInt32.ofNat (x.toNat % 4294967296) = x := by
  have h : x.toNat < 4294967296 := x.toNat_lt_size
  exact UInt32.toNat.inj (by rw [Nat.mod_eq_of_lt h]; exact UInt32.toNat_ofNat_of_lt h)

/-! ## The messages -/

/-- `enum AUDIO_THREAD_COMMAND`. -/
inductive AudioThreadCommand
  | addOpenDev
  | rmOpenDev
  | isDevOpen
  | addStream
  | disconnectStream
  | stop
  | dumpThreadInfo
  | drainStream
  | configGlobalRemix
  | devStartRamp
  | removeCallback
  | aecDump
  deriving DecidableEq, Repr

/-- The value of each enumerator, in declaration order. -/
def AudioThreadCommand.toNat : AudioThreadCommand → Nat
  | .addOpenDev => 0
  | .rmOpenDev => 1
  | .isDevOpen => 2
  | .addStream => 3
  | .disconnectStream => 4
  | .stop => 5
  | .dumpThreadInfo => 6
  | .drainStream => 7
  | .configGlobalRemix => 8
  | .devStartRamp => 9
  | .removeCallback => 10
  | .aecDump => 11

/-- `struct audio_thread_msg` on LP64: length, id, and four bytes of padding. -/
def msgHeader (length : Nat) (id : AudioThreadCommand) (padding : Nat) : List UInt8 :=
  leBytes length 8 ++ leBytes id.toNat 4 ++ leBytes padding 4

/-- `init_open_device_msg`: a 24-byte `struct audio_thread_open_device_msg`, zeroed first. -/
def initOpenDeviceMsg (id : AudioThreadCommand) (dev : UInt64) : List UInt8 :=
  msgHeader 24 id 0 ++ leBytes dev.toNat 8

/-- `init_add_rm_stream_msg`: a zeroed 40-byte `struct audio_thread_add_rm_stream_msg`. -/
def initAddRmStreamMsg (id : AudioThreadCommand) (stream devs : UInt64) (numDevs : UInt32) :
    List UInt8 :=
  msgHeader 40 id 0 ++ leBytes stream.toNat 8 ++ leBytes devs.toNat 8 ++
    leBytes numDevs.toNat 4 ++ leBytes 0 4

/-- `init_dump_debug_info_msg`: a 24-byte `struct audio_thread_dump_debug_info_msg`. -/
def initDumpDebugInfoMsg (info : UInt64) : List UInt8 :=
  msgHeader 24 .dumpThreadInfo 0 ++ leBytes info.toNat 8

/-- `init_config_global_remix_msg`: 24 bytes, with the `fmt_conv` the call then stores. -/
def initConfigGlobalRemixMsg (fmtConv : UInt64) : List UInt8 :=
  msgHeader 24 .configGlobalRemix 0 ++ leBytes fmtConv.toNat 8

/-- `init_device_start_ramp_msg`: a 32-byte `struct audio_thread_dev_start_ramp_msg`. -/
def initDeviceStartRampMsg (id : AudioThreadCommand) (dev : UInt64) (request : UInt32) :
    List UInt8 :=
  msgHeader 32 id 0 ++ leBytes dev.toNat 8 ++ leBytes request.toNat 4 ++ leBytes 0 4

/-- The 32-byte `struct audio_thread_aec_dump_msg` of `audio_thread_set_aec_dump`. -/
def aecDumpMsg (streamId start : UInt32) (fd : CInt) : List UInt8 :=
  msgHeader 32 .aecDump 0 ++ leBytes streamId.toNat 4 ++ leBytes start.toNat 4 ++
    leBytes fd.bits 4 ++ leBytes 0 4

/-- The 24-byte `struct audio_thread_rm_callback_msg` of `audio_thread_rm_callback_sync`. -/
def rmCallbackMsg (fd : CInt) : List UInt8 :=
  msgHeader 24 .removeCallback 0 ++ leBytes fd.bits 4 ++ leBytes 0 4

/-- The Stop of `audio_thread_destroy`: 16 bytes, not zeroed, so its padding is arbitrary. -/
def stopMsg (padding : UInt32) : List UInt8 :=
  msgHeader 16 .stop padding.toNat

/-- A message as the controller side builds it, named by the call that posts it. -/
inductive WireMsg
  | addOpenDev (dev : UInt64)
  | rmOpenDev (dev : UInt64)
  | isDevOpen (dev : UInt64)
  | addStream (stream devs : UInt64) (numDevs : UInt32)
  | disconnectStream (stream devs : UInt64)
  | drainStream (stream : UInt64)
  | dumpThreadInfo (info : UInt64)
  | configGlobalRemix (fmtConv : UInt64)
  | devStartRamp (dev : UInt64) (request : UInt32)
  | rmCallbackSync (fd : CInt)
  | setAecDump (streamId start : UInt32) (fd : CInt)
  | stop (padding : UInt32)
  deriving DecidableEq

/-- The bytes each controller call writes. -/
def WireMsg.encode : WireMsg → List UInt8
  | .addOpenDev dev => initOpenDeviceMsg .addOpenDev dev
  | .rmOpenDev dev => initOpenDeviceMsg .rmOpenDev dev
  | .isDevOpen dev => initOpenDeviceMsg .isDevOpen dev
  | .addStream stream devs numDevs => initAddRmStreamMsg .addStream stream devs numDevs
  | .disconnectStream stream devs => initAddRmStreamMsg .disconnectStream stream devs 0
  | .drainStream stream => initAddRmStreamMsg .drainStream stream 0 0
  | .dumpThreadInfo info => initDumpDebugInfoMsg info
  | .configGlobalRemix fmtConv => initConfigGlobalRemixMsg fmtConv
  | .devStartRamp dev request => initDeviceStartRampMsg .devStartRamp dev request
  | .rmCallbackSync fd => rmCallbackMsg fd
  | .setAecDump streamId start fd => aecDumpMsg streamId start fd
  | .stop padding => stopMsg padding

/-- The message the worker finds at the start of `bs`. -/
def decodeMsg (bs : List UInt8) : Option WireMsg :=
  let bs := (takeLE 8 bs).2
  let id := takeLE 4 bs
  let padding := takeLE 4 id.2
  let bs := padding.2
  let f8 := takeLE 8 bs
  let f8' := takeLE 8 f8.2
  match id.1 with
  | 0 => some (.addOpenDev (UInt64.ofNat f8.1))
  | 1 => some (.rmOpenDev (UInt64.ofNat f8.1))
  | 2 => some (.isDevOpen (UInt64.ofNat f8.1))
  | 3 => some (.addStream (UInt64.ofNat f8.1) (UInt64.ofNat f8'.1)
      (UInt32.ofNat (takeLE 4 f8'.2).1))
  | 4 => some (.disconnectStream (UInt64.ofNat f8.1) (UInt64.ofNat f8'.1))
  | 5 => some (.stop (UInt32.ofNat padding.1))
  | 6 => some (.dumpThreadInfo (UInt64.ofNat f8.1))
  | 7 => some (.drainStream (UInt64.ofNat f8.1))
  | 8 => some (.configGlobalRemix (UInt64.ofNat f8.1))
  | 9 => some (.devStartRamp (UInt64.ofNat f8.1) (UInt32.ofNat (takeLE 4 f8.2).1))
  | 10 => some (.rmCallbackSync (CInt.ofBits (takeLE 4 bs).1))
  | 11 =>
    let sid := takeLE 4 bs
    let start := takeLE 4 sid.2
    some (.setAecDump (UInt32.ofNat sid.1) (UInt32.ofNat start.1)
      (CInt.ofBits (takeLE 4 start.2).1))
  | _ => none

/-- The `length` field each message carries. -/
def WireMsg.length : WireMsg → Nat
  | .addOpenDev _ | .rmOpenDev _ | .isDevOpen _ | .dumpThreadInfo _ | .configGlobalRemix _
  | .rmCallbackSync _ => 24
  | .addStream .. | .disconnectStream .. | .drainStream _ => 40
  | .devStartRamp .. | .setAecDump .. => 32
  | .stop _ => 16

theorem encode_eq_length (m : WireMsg) :
    ∃ tail, m.encode = leBytes m.length 8 ++ tail ∧ m.encode.length = m.length := by
  cases m <;> exact ⟨_, by simp only [WireMsg.encode, initOpenDeviceMsg, initAddRmStreamMsg,
    initDumpDebugInfoMsg, initConfigGlobalRemixMsg, initDeviceStartRampMsg, aecDumpMsg,
    rmCallbackMsg, stopMsg, msgHeader, List.append_assoc]; rfl, by
    simp [WireMsg.encode, initOpenDeviceMsg, initAddRmStreamMsg, initDumpDebugInfoMsg,
      initConfigGlobalRemixMsg, initDeviceStartRampMsg, aecDumpMsg, rmCallbackMsg, stopMsg,
      msgHeader, WireMsg.length]⟩

theorem length_bounds (m : WireMsg) : 16 ≤ m.length ∧ m.length ≤ 40 := by
  cases m <;> simp [WireMsg.length]

theorem decodeMsg_encode (m : WireMsg) (rest : List UInt8) :
    decodeMsg (m.encode ++ rest) = some m := by
  cases m <;> simp [WireMsg.encode, initOpenDeviceMsg, initAddRmStreamMsg, initDumpDebugInfoMsg,
    initConfigGlobalRemixMsg, initDeviceStartRampMsg, aecDumpMsg, rmCallbackMsg, stopMsg,
    msgHeader, decodeMsg, AudioThreadCommand.toNat]

/-! ## Reading from the pipe -/

/-- What one `read()` on the pipe does: hand over some bytes, or fail with `errno`. -/
inductive ReadOutcome
  | chunk (n : Nat)
  | error (errno : Int)
  deriving DecidableEq, Repr

/-- The reading end of `to_thread_fds`: the unread bytes and how the next `read()`s go. -/
structure Pipe where
  data : List UInt8
  sched : List ReadOutcome

/-- One `read()` of at most `k` bytes: the bytes handed over, or the `errno` it fails with. -/
def Pipe.read (p : Pipe) (k : Nat) : Except Int (List UInt8) × Pipe :=
  match p.sched with
  | [] => (.ok (p.data.take k), ⟨p.data.drop k, []⟩)
  | .chunk n :: s => (.ok (p.data.take (min n k)), ⟨p.data.drop (min n k), s⟩)
  | .error errno :: s => (.error errno, ⟨p.data, s⟩)

/-- What is left to happen on the pipe, the measure of the read loop. -/
def Pipe.size (p : Pipe) : Nat := p.sched.length + p.data.length

theorem Pipe.read_error_size {p p' : Pipe} {k : Nat} {e : Int}
    (h : p.read k = (.error e, p')) : p'.size < p.size := by
  unfold Pipe.read at h
  split at h <;> cases h
  simp_all [Pipe.size]

theorem Pipe.read_ok_size {p p' : Pipe} {k : Nat} {bs : List UInt8}
    (h : p.read k = (.ok bs, p')) : p'.size + bs.length ≤ p.size := by
  unfold Pipe.read at h
  split at h <;> simp only [Prod.mk.injEq, Except.ok.injEq, reduceCtorEq, false_and] at h <;>
    obtain ⟨rfl, rfl⟩ := h <;>
    simp only [Pipe.size, List.length_take, List.length_drop, List.length_cons, *] <;> omega

/-- `buf` with `bs` written from offset `off` on. -/
def writeBytes (buf : Nat → UInt8) (off : Nat) : List UInt8 → Nat → UInt8
  | [] => buf
  | b :: bs => writeBytes (Function.update buf off b) (off + 1) bs

/-- The loop of `read_until_finished`, retrying on `EINTR`. -/
def readUntilFinishedLoop (count base : Nat) (countLeft : Int) (p : Pipe)
    (buf : Nat → UInt8) : Int × Pipe × (Nat → UInt8) :=
  if countLeft ≤ 0 then (int32 count, p, buf)
  else
    match h : p.read countLeft.toNat with
    | (.error errno, p') =>
      if errno = eintr then readUntilFinishedLoop count base countLeft p' buf else (-1, p', buf)
    | (.ok bs, p') =>
      if bs.length = 0 then (-epipe, p', buf)
      else readUntilFinishedLoop count base (countLeft - bs.length) p'
        (writeBytes buf (base + (count - countLeft).toNat) bs)
termination_by p.size
decreasing_by
  · exact Pipe.read_error_size h
  · have := Pipe.read_ok_size h
    omega

/-- `read_until_finished(fd, buf + base, count)`, with the `int` conversions of `count`. -/
def readUntilFinished (p : Pipe) (buf : Nat → UInt8) (base count : Nat) :
    Int × Pipe × (Nat → UInt8) :=
  readUntilFinishedLoop count base (int32 count) p buf

/-- `audio_thread_read_command`: the `size_t length`, then `length - 8` more bytes. -/
def audioThreadReadCommand (p : Pipe) (buf : Nat → UInt8) (maxLen : Nat) :
    Int × Pipe × (Nat → UInt8) :=
  let r := readUntilFinished p buf 0 8
  if r.1 < 0 then r
  else
    let length := leValue ((List.range 8).map r.2.2)
    if length > maxLen then (-enomem, r.2.1, r.2.2)
    else
      let toRead := int32 (((length : Int) - 8) % 18446744073709551616)
      let r := readUntilFinished r.2.1 r.2.2 8 (toRead % 18446744073709551616).toNat
      if r.1 < 0 then r else (0, r.2.1, r.2.2)

/-- `n` successive `audio_thread_read_command(thread, buf, 256)` calls. -/
def readCommands : Nat → Pipe → (Nat → UInt8) → List (Int × Pipe × (Nat → UInt8))
  | 0, _, _ => []
  | n + 1, p, buf =>
    let r := audioThreadReadCommand p buf 256
    r :: readCommands n r.2.1 r.2.2

/-- The message a `uint8_t buf[256]` holds. -/
def decodeBuf (buf : Nat → UInt8) : Option WireMsg := decodeMsg ((List.range 256).map buf)

/-! ## Every framing of the stream reads back each message -/

theorem writeBytes_append (buf : Nat → UInt8) (off : Nat) (xs ys : List UInt8) :
    writeBytes buf off (xs ++ ys) = writeBytes (writeBytes buf off xs) (off + xs.length) ys := by
  induction xs generalizing buf off with
  | nil => rfl
  | cons x xs ih =>
    rw [List.cons_append, writeBytes, writeBytes, ih, List.length_cons, Nat.add_right_comm,
      Nat.add_assoc]

theorem writeBytes_of_lt (buf : Nat → UInt8) (off : Nat) (bs : List UInt8) {i : Nat}
    (h : i < off) : writeBytes buf off bs i = buf i := by
  induction bs generalizing buf off with
  | nil => rfl
  | cons b bs ih => rw [writeBytes, ih _ _ (by omega), Function.update_noteq (by omega)]

theorem map_range'_writeBytes (buf : Nat → UInt8) (off : Nat) (bs : List UInt8) :
    (List.range' off bs.length).map (writeBytes buf off bs) = bs := by
  induction bs generalizing buf off with
  | nil => rfl
  | cons b bs ih =>
    rw [List.length_cons, List.range'_succ, List.map_cons, writeBytes, ih,
      writeBytes_of_lt _ _ _ (Nat.lt_succ_self off), Function.update_same]

theorem map_range_writeBytes (buf : Nat → UInt8) (bs : List UInt8) :
    (List.range bs.length).map (writeBytes buf 0 bs) = bs := by
  rw [List.range_eq_range', map_range'_writeBytes]

/-- A read that hands over at least one byte, or fails with `EINTR`. -/
def ReadOutcome.delivers : ReadOutcome → Bool
  | .chunk n => n != 0
  | .error errno => errno == eintr

/-- A delivery of the pipe's bytes in chunks of any sizes, with any number of `EINTR`s. -/
def Delivers (sched : List ReadOutcome) : Prop := ∀ o ∈ sched, o.delivers = true

instance : DecidablePred Delivers :=
  fun sched => inferInstanceAs (Decidable (∀ o ∈ sched, o.delivers = true))

section Loop

variable {count base : Nat} {countLeft : Int} {p p' : Pipe} {buf : Nat → UInt8}

theorem readUntilFinishedLoop_done (h : countLeft ≤ 0) :
    readUntilFinishedLoop count base countLeft p buf = (int32 count, p, buf) := by
  rw [readUntilFinishedLoop, if_pos h]

theorem readUntilFinishedLoop_eintr (h0 : 0 < countLeft)
    (h : p.read countLeft.toNat = (.error eintr, p')) :
    readUntilFinishedLoop count base countLeft p buf =
      readUntilFinishedLoop count base countLeft p' buf := by
  rw [readUntilFinishedLoop, if_neg (by omega)]
  split <;> rename_i heq <;> rw [h] at heq <;> cases heq
  rw [if_pos rfl]

theorem readUntilFinishedLoop_bytes {bs : List UInt8} (h0 : 0 < countLeft)
    (h : p.read countLeft.toNat = (.ok bs, p')) (hb : bs ≠ []) :
    readUntilFinishedLoop count base countLeft p buf =
      readUntilFinishedLoop count base (countLeft - bs.length) p'
        (writeBytes buf (base + (count - countLeft).toNat) bs) := by
  rw [readUntilFinishedLoop, if_neg (by omega)]
  split <;> rename_i heq <;> rw [h] at heq <;> cases heq
  rw [if_neg (by simpa using hb)]

theorem readUntilFinishedLoop_eof (h0 : 0 < countLeft) (h : p.read countLeft.toNat = (.ok [], p')) :
    readUntilFinishedLoop count base countLeft p buf = (-epipe, p', buf) := by
  rw [readUntilFinishedLoop, if_neg (by omega)]
  split <;> rename_i heq <;> rw [h] at heq <;> cases heq
  rfl

theorem readUntilFinishedLoop_error {e : Int} (h0 : 0 < countLeft)
    (h : p.read countLeft.toNat = (.error e, p')) (he : e ≠ eintr) :
    readUntilFinishedLoop count base countLeft p buf = (-1, p', buf) := by
  rw [readUntilFinishedLoop, if_neg (by omega)]
  split <;> rename_i heq <;> rw [h] at heq <;> cases heq
  rw [if_neg he]

end Loop

theorem readUntilFinishedLoop_reads (count base : Nat) (rest : List UInt8)
    (sched : List ReadOutcome) (hs : Delivers sched) :
    ∀ (bs : List UInt8) (buf : Nat → UInt8), (bs.length : Int) ≤ count →
      ∃ sched', Delivers sched' ∧
        readUntilFinishedLoop count base bs.length ⟨bs ++ rest, sched⟩ buf =
          (int32 count, ⟨rest, sched'⟩, writeBytes buf (base + (count - bs.length : Int).toNat) bs) := by
  induction sched with
  | nil =>
    intro bs buf hle
    rcases eq_or_ne bs [] with rfl | hb
    · exact ⟨[], hs, readUntilFinishedLoop_done (by simp)⟩
    · have hpos : 0 < (bs.length : Int) := by have := List.length_pos.mpr hb; omega
      have hread : Pipe.read ⟨bs ++ rest, []⟩ (bs.length : Int).toNat = (.ok bs, ⟨rest, []⟩) := by
        simp [Pipe.read]
      refine ⟨[], hs, ?_⟩
      rw [readUntilFinishedLoop_bytes hpos hread hb, readUntilFinishedLoop_done (by simp)]
  | cons o sched ih =>
    intro bs buf hle
    have hs' : Delivers sched := fun o' h => hs o' (List.mem_cons_of_mem _ h)
    rcases eq_or_ne bs [] with rfl | hb
    · exact ⟨o :: sched, hs, readUntilFinishedLoop_done (by simp)⟩
    have hpos : 0 < (bs.length : Int) := by have := List.length_pos.mpr hb; omega
    cases o with
    | error errno =>
      have he : errno = eintr := by simpa [ReadOutcome.delivers] using hs _ (List.mem_cons_self _ _)
      subst he
      have hread : Pipe.read ⟨bs ++ rest, .error eintr :: sched⟩ (bs.length : Int).toNat =
          (.error eintr, ⟨bs ++ rest, sched⟩) := rfl
      rw [readUntilFinishedLoop_eintr hpos hread]
      exact ih hs' bs buf hle
    | chunk n =>
      have hn : n ≠ 0 := by simpa [ReadOutcome.delivers] using hs _ (List.mem_cons_self _ _)
      have hm : min n bs.length ≤ bs.length := min_le_right _ _
      have htake : bs.take (min n bs.length) ≠ [] := by
        simp only [ne_eq, List.take_eq_nil_iff, not_or]
        exact ⟨by omega, hb⟩
      have hread : Pipe.read ⟨bs ++ rest, .chunk n :: sched⟩ (bs.length : Int).toNat =
          (.ok (bs.take (min n bs.length)), ⟨bs.drop (min n bs.length) ++ rest, sched⟩) := by
        simp [Pipe.read, List.take_append_of_le_length hm, List.drop_append_of_le_length hm]
      rw [readUntilFinishedLoop_bytes hpos hread htake]
      have hlen : ((bs.drop (min n bs.length)).length : Int) =
          (bs.length : Int) - ((bs.take (min n bs.length)).length : Int) := by
        simp only [List.length_drop, List.length_take]
        omega
      obtain ⟨sched', hs'', heq⟩ := ih hs' (bs.drop (min n bs.length))
        (writeBytes buf (base + (count - bs.length : Int).toNat) (bs.take (min n bs.length)))
        (by omega)
      refine ⟨sched', hs'', ?_⟩
      have hoff : base + (count - ((bs.drop (min n bs.length)).length : Int)).toNat =
          base + (count - (bs.length : Int)).toNat + (bs.take (min n bs.length)).length := by
        have h1 := List.length_take (min n bs.length) bs
        have h2 := List.length_drop (min n bs.length) bs
        omega
      rw [← hlen, heq, hoff, ← writeBytes_append, List.take_append_drop]

theorem map_range_writeBytes_prefix (buf : Nat → UInt8) (bs : List UInt8) {n : Nat}
    (h : bs.length ≤ n) : ∃ junk, (List.range n).map (writeBytes buf 0 bs) = bs ++ junk := by
  obtain ⟨k, rfl⟩ := Nat.exists_eq_add_of_le h
  exact ⟨_, by rw [List.range_add, List.map_append, map_range_writeBytes]⟩

theorem readUntilFinished_reads (base : Nat) (bs rest : List UInt8) (sched : List ReadOutcome)
    (hs : Delivers sched) (buf : Nat → UInt8) (hb : bs.length < 2147483648) :
    ∃ sched', Delivers sched' ∧ readUntilFinished ⟨bs ++ rest, sched⟩ buf base bs.length =
      ((bs.length : Int), ⟨rest, sched'⟩, writeBytes buf base bs) := by
  obtain ⟨sched', hs', h⟩ := readUntilFinishedLoop_reads bs.length base rest sched hs bs buf le_rfl
  refine ⟨sched', hs', ?_⟩
  unfold readUntilFinished
  rw [int32_of_lt (by omega) (by omega), h, int32_of_lt (by omega) (by omega)]
  simp

theorem audioThreadReadCommand_reads (m : WireMsg) (rest : List UInt8) (sched : List ReadOutcome)
    (hs : Delivers sched) (buf : Nat → UInt8) :
    ∃ sched', Delivers sched' ∧ audioThreadReadCommand ⟨m.encode ++ rest, sched⟩ buf 256 =
      (0, ⟨rest, sched'⟩, writeBytes buf 0 m.encode) := by
  obtain ⟨tail, henc, hlen⟩ := encode_eq_length m
  have hb := length_bounds m
  have htail : tail.length = m.length - 8 := by
    rw [henc, List.length_append, length_leBytes] at hlen
    omega
  obtain ⟨s₁, hs₁, h₁⟩ := readUntilFinished_reads 0 (leBytes m.length 8) (tail ++ rest) sched hs
    buf (by simp)
  obtain ⟨s₂, hs₂, h₂⟩ := readUntilFinished_reads 8 tail rest s₁ hs₁
    (writeBytes buf 0 (leBytes m.length 8)) (by omega)
  rw [length_leBytes] at h₁
  have hfield : leValue ((List.range 8).map (writeBytes buf 0 (leBytes m.length 8))) =
      m.length := by
    have h := map_range_writeBytes buf (leBytes m.length 8)
    rw [length_leBytes] at h
    rw [h, leValue_leBytes]
    omega
  have hto : ((int32 (((m.length : Int) - 8) % 18446744073709551616)) %
      18446744073709551616).toNat = tail.length := by
    have h : ((m.length : Int) - 8) % 18446744073709551616 = m.length - 8 :=
      Int.emod_eq_of_lt (by omega) (by omega)
    rw [h, int32_of_lt (by omega) (by omega), Int.emod_eq_of_lt (by omega) (by omega)]
    omega
  refine ⟨s₂, hs₂, ?_⟩
  unfold audioThreadReadCommand
  rw [henc, List.append_assoc, h₁]
  dsimp only
  rw [if_neg (by omega), hfield, if_neg (by omega), hto, h₂, if_neg (by omega),
    writeBytes_append, length_leBytes]

theorem decodeBuf_writeBytes (m : WireMsg) (buf : Nat → UInt8) :
    decodeBuf (writeBytes buf 0 m.encode) = some m := by
  obtain ⟨_, _, hl⟩ := encode_eq_length m
  have := length_bounds m
  obtain ⟨junk, hj⟩ := map_range_writeBytes_prefix buf m.encode (by omega : m.encode.length ≤ 256)
  rw [decodeBuf, hj, decodeMsg_encode]

theorem readCommands_reads (ms : List WireMsg) :
    ∀ (rest : List UInt8) (sched : List ReadOutcome) (buf : Nat → UInt8), Delivers sched →
      ∀ i (hi : i < ms.length),
        ((readCommands ms.length ⟨ms.flatMap WireMsg.encode ++ rest, sched⟩ buf)[i]?).map
          (fun r => (r.1, r.2.1.data, (List.range ms[i].encode.length).map r.2.2,
            decodeBuf r.2.2)) =
        some (0, (ms.drop (i + 1)).flatMap WireMsg.encode ++ rest, ms[i].encode, some ms[i]) := by
  induction ms with
  | nil => intro _ _ _ _ i hi; cases hi
  | cons m ms ih =>
    intro rest sched buf hs i hi
    obtain ⟨s', hs', hr⟩ := audioThreadReadCommand_reads m (ms.flatMap WireMsg.encode ++ rest)
      sched hs buf
    simp only [List.length_cons, readCommands, List.flatMap_cons, List.append_assoc, hr]
    cases i with
    | zero =>
      simp only [List.getElem?_cons_zero, Option.map_some', List.getElem_cons_zero,
        List.drop_succ_cons, List.drop_zero, map_range_writeBytes, decodeBuf_writeBytes]
    | succ i =>
      simp only [List.getElem?_cons_succ, List.getElem_cons_succ, List.drop_succ_cons]
      exact ih rest s' (writeBytes buf 0 m.encode) hs' i (Nat.lt_of_succ_lt_succ hi)

/-- However the pipe delivers the encoded messages, the `i`-th read returns 0, consumes exactly
the `i`-th message and leaves it in `buf`, where its id and fields decode back. -/
theorem read_command_frames_every_message (ms : List WireMsg) (sched : List ReadOutcome)
    (hs : Delivers sched) (buf : Nat → UInt8) (i : Nat) (hi : i < ms.length) :
    ((readCommands ms.length ⟨ms.flatMap WireMsg.encode, sched⟩ buf)[i]?).map
      (fun r => (r.1, r.2.1.data, (List.range ms[i].encode.length).map r.2.2, decodeBuf r.2.2)) =
    some (0, (ms.drop (i + 1)).flatMap WireMsg.encode, ms[i].encode, some ms[i]) := by
  simpa using readCommands_reads ms [] sched buf hs i hi

/-- A Stop then an Add Open Dev, delivered in chunks with an `EINTR` between them. -/
def splitDeliveryMsgs : List WireMsg := [.stop 0, .addOpenDev 5]

def splitDelivery : List ReadOutcome := [.chunk 3, .error eintr, .chunk 30]

theorem read_command_frames_split_delivery :
    Delivers splitDelivery ∧ 1 < splitDeliveryMsgs.length ∧
    ((readCommands splitDeliveryMsgs.length
        ⟨splitDeliveryMsgs.flatMap WireMsg.encode, splitDelivery⟩ fun _ => 0)[1]?).map
      (fun r => (r.1, r.2.1.data, (List.range splitDeliveryMsgs[1].encode.length).map r.2.2,
        decodeBuf r.2.2)) =
    some ((0 : Int), (splitDeliveryMsgs.drop 2).flatMap WireMsg.encode, splitDeliveryMsgs[1].encode,
      some splitDeliveryMsgs[1]) :=
  ⟨by decide, by decide,
    read_command_frames_every_message splitDeliveryMsgs splitDelivery (by decide) _ 1 (by decide)⟩

end CrasAudio

import CrasAudio.Callbacks

/-! The worker's state, what the external layers answer during one command, and the small
updates the handlers are built from. -/
namespace CrasAudio

/-- A call into the device, stream or apm layer whose only trace is the call itself. -/
inductive ExtCall
  | fillOdevZeros (dev : CrasIodev) (frames : Nat)
  | flushBuffer (dev : CrasIodev)
  | startRamp (dev : CrasIodev) (request : Nat)
  | setAecDump (dev : CrasIodev) (stream : CrasRstream) (start : Nat) (fd : Int)
  | audioThreadBusyloop
  deriving DecidableEq, Repr

/-- A `struct audio_dev_debug_info` entry, as `append_dev_dump_info` fills it. -/
structure AudioDevDebugInfo where
  devName : String
  bufferSize : Nat
  minBufferLevel : Nat
  minCbLevel : Nat
  maxCbLevel : Nat
  direction : CrasStreamDirection
  numUnderruns : Nat
  numSevereUnderruns : Nat
  highestHwLevel : Nat
  frameRate : Nat
  numChannels : Nat
  deriving DecidableEq, Repr

/-- A `struct audio_stream_debug_info` entry, as `append_stream_dump_info` fills it. -/
structure AudioStreamDebugInfo where
  streamId : Nat
  devIdx : Nat
  direction : CrasStreamDirection
  streamType : Nat
  bufferFrames : Nat
  cbThreshold : Nat
  frameRate : Nat
  numChannels : Nat
  channelLayout : List Int
  longestFetch : Timespec
  numOverruns : Nat
  effects : Nat
  deriving DecidableEq, Repr

/-- The controller's `struct audio_debug_info`; a slot is `none` until written. -/
structure AudioDebugInfo where
  devs : Nat → Option AudioDevDebugInfo
  streams : Nat → Option AudioStreamDebugInfo
  numDevs : Nat
  numStreams : Nat

/-- A `struct pollfd` entry. -/
structure PollFd where
  fd : Int
  events : Nat
  revents : Nat
  deriving DecidableEq, Repr

/-- The state the audio thread owns: its `struct audio_thread`, the devices' `streams`, the
offsets, the live `dev_stream`s, the file statics and the debug info. -/
structure AudioThread where
  openDevs : CrasStreamDirection → List OpenDev
  devStreams : CrasIodev → List DevStream
  liveDevStreams : List DevStream
  nextDevStreamId : Nat
  draining : CrasRstream → Bool
  devStreamOffset : DevStream → Nat
  rstreamDevOffset : CrasRstream → Nat → Nat
  remixConverter : Nat
  iodevCallbacks : List IodevCallback
  longestWake : Timespec
  lastWake : Timespec
  continuousZeroSleepCount : Int
  debugInfo : AudioDebugInfo
  calls : List ExtCall
  pollfds : Nat → PollFd
  numPollfds : Nat
  pollfdsSize : Nat

/-- What the external layers answer while the thread handles one command; `clock i` and the
like answer at the `i`-th device of an AddStream array. -/
structure Env where
  clock : Nat → Timespec
  devStreamCreate : Nat → Bool
  flushBuffer : Nat → Int
  nextCbTs : DevStream → Option Timespec
  framesInShm : CrasRstream → Int
  startRamp : CrasIodev → Nat → Int
  iodevIsOpen : CrasIodev → Bool
  numUnderruns : CrasIodev → Nat
  numSevereUnderruns : CrasIodev → Nat
  highestHwLevel : CrasIodev → Nat
  longestFetch : CrasRstream → Timespec
  numOverruns : CrasRstream → Nat
  effects : CrasRstream → Nat
  maxDebugDevs : Nat
  maxDebugStreams : Nat

/-- Every external call succeeds and nothing is pending. -/
def Env.nominal : Env where
  clock _ := Timespec.zero
  devStreamCreate _ := true
  flushBuffer _ := 0
  nextCbTs _ := none
  framesInShm _ := 0
  startRamp _ _ := 0
  iodevIsOpen _ := true
  numUnderruns _ := 0
  numSevereUnderruns _ := 0
  highestHwLevel _ := 0
  longestFetch _ := Timespec.zero
  numOverruns _ := 0
  effects _ := 0
  maxDebugDevs := 4
  maxDebugStreams := 8

/-- A device known only by its address and direction, for the concrete runs. -/
def CrasIodev.plain (ptr : Nat) (direction : CrasStreamDirection) : CrasIodev :=
  { ptr, direction, idx := ptr, name := "", bufferSize := 0, minBufferLevel := 0,
    minCbLevel := 0, maxCbLevel := 0, extFormat := none }

/-- A stream known only by its address and direction, for the concrete runs. -/
def CrasRstream.plain (ptr : Nat) (direction : CrasStreamDirection) : CrasRstream :=
  { ptr, streamId := ptr, streamType := 0, direction, bufferFrames := 0, cbThreshold := 0,
    format := ⟨0, 0, []⟩, hasApmList := false }

/-- Modelled from the spec: `cras_frames_to_ms` of `cras_util.h`. -/
def crasFramesToMs (frames fs : Nat) : Nat := frames * 1000 / fs

/-- POLLIN and POLLOUT of `poll.h`. -/
def pollin : Nat := 1

def pollout : Nat := 4

namespace AudioThread

/-- The state `audio_thread_create` returns: nothing open, an array of 32 pollfds. -/
def init : AudioThread where
  openDevs _ := []
  devStreams _ := []
  liveDevStreams := []
  nextDevStreamId := 0
  draining _ := false
  devStreamOffset _ := 0
  rstreamDevOffset _ _ := 0
  remixConverter := 0
  iodevCallbacks := []
  longestWake := Timespec.zero
  lastWake := Timespec.zero
  continuousZeroSleepCount := 0
  debugInfo := ⟨fun _ => none, fun _ => none, 0, 0⟩
  calls := []
  pollfds _ := ⟨-1, 0, 0⟩
  numPollfds := 0
  pollfdsSize := 32

variable (t : AudioThread)

def setOpenDevs (dir : CrasStreamDirection) (l : List OpenDev) : AudioThread :=
  { t with openDevs := Function.update t.openDevs dir l }

def setDevStreams (dev : CrasIodev) (l : List DevStream) : AudioThread :=
  { t with devStreams := Function.update t.devStreams dev l }

def call (c : ExtCall) : AudioThread := { t with calls := t.calls ++ [c] }

/-- The object `dev_stream_create` returns for `stream` on `dev`. -/
def createdDevStream (stream : CrasRstream) (dev : CrasIodev) (initCbTs : Timespec) :
    DevStream :=
  ⟨t.nextDevStreamId, stream, dev.idx, dev.extFormat, dev.ptr, initCbTs⟩

/-- `dev_stream_create`: `out` is allocated. -/
def devStreamCreate (out : DevStream) : AudioThread :=
  { t with liveDevStreams := t.liveDevStreams ++ [out], nextDevStreamId := t.nextDevStreamId + 1 }

/-- `dev_stream_destroy`. -/
def devStreamDestroy (out : DevStream) : AudioThread :=
  { t with liveDevStreams := t.liveDevStreams.erase out }

/-- Modelled from the spec: `cras_iodev_add_stream` appends `out` to `dev->streams`. -/
def iodevAddStream (dev : CrasIodev) (out : DevStream) : AudioThread :=
  t.setDevStreams dev (t.devStreams dev ++ [out])

/-- Modelled from the spec: `cras_iodev_rm_stream` unbinds `stream` from `dev`. -/
def iodevRmStream (dev : CrasIodev) (stream : CrasRstream) : AudioThread :=
  t.setDevStreams dev ((t.devStreams dev).filter (fun ds => ds.stream ≠ stream))

/-- Modelled from the spec: `cras_iodev_stream_written` records `out`'s read offset. -/
def iodevStreamWritten (out : DevStream) (offset : Nat) : AudioThread :=
  { t with devStreamOffset := Function.update t.devStreamOffset out offset }

/-- Modelled from the spec: `cras_rstream_dev_offset_update` records `stream`'s offset. -/
def rstreamDevOffsetUpdate (stream : CrasRstream) (offset devIdx : Nat) : AudioThread :=
  { t with rstreamDevOffset :=
      Function.update t.rstreamDevOffset stream (Function.update (t.rstreamDevOffset stream) devIdx offset) }

@[simp] theorem setOpenDevs_openDevs (dir : CrasStreamDirection) (l : List OpenDev) :
    (t.setOpenDevs dir l).openDevs = Function.update t.openDevs dir l := rfl

@[simp] theorem setOpenDevs_devStreams (dir : CrasStreamDirection) (l : List OpenDev) :
    (t.setOpenDevs dir l).devStreams = t.devStreams := rfl

@[simp] theorem setDevStreams_devStreams (dev : CrasIodev) (l : List DevStream) :
    (t.setDevStreams dev l).devStreams = Function.update t.devStreams dev l := rfl

@[simp] theorem setDevStreams_openDevs (dev : CrasIodev) (l : List DevStream) :
    (t.setDevStreams dev l).openDevs = t.openDevs := rfl

@[simp] theorem call_openDevs (c : ExtCall) : (t.call c).openDevs = t.openDevs := rfl

@[simp] theorem call_devStreams (c : ExtCall) : (t.call c).devStreams = t.devStreams := rfl

@[simp] theorem devStreamCreate_openDevs (out : DevStream) :
    (t.devStreamCreate out).openDevs = t.openDevs := rfl

@[simp] theorem devStreamCreate_devStreams (out : DevStream) :
    (t.devStreamCreate out).devStreams = t.devStreams := rfl

@[simp] theorem createdDevStream_stream (s : CrasRstream) (d : CrasIodev) (ts : Timespec) :
    (t.createdDevStream s d ts).stream = s := rfl

@[simp] theorem devStreamDestroy_openDevs (out : DevStream) :
    (t.devStreamDestroy out).openDevs = t.openDevs := rfl

@[simp] theorem devStreamDestroy_devStreams (out : DevStream) :
    (t.devStreamDestroy out).devStreams = t.devStreams := rfl

@[simp] theorem iodevStreamWritten_openDevs (out : DevStream) (o : Nat) :
    (t.iodevStreamWritten out o).openDevs = t.openDevs := rfl

@[simp] theorem iodevStreamWritten_devStreams (out : DevStream) (o : Nat) :
    (t.iodevStreamWritten out o).devStreams = t.devStreams := rfl

@[simp] theorem rstreamDevOffsetUpdate_openDevs (s : CrasRstream) (o i : Nat) :
    (t.rstreamDevOffsetUpdate s o i).openDevs = t.openDevs := rfl

@[simp] theorem rstreamDevOffsetUpdate_devStreams (s : CrasRstream) (o i : Nat) :
    (t.rstreamDevOffsetUpdate s o i).devStreams = t.devStreams := rfl

/-! What the updates of `append_stream` leave of the identifiers, the offsets and the calls. -/

@[simp] theorem createdDevStream_id (s : CrasRstream) (d : CrasIodev) (ts : Timespec) :
    (t.createdDevStream s d ts).id = t.nextDevStreamId := rfl

@[simp] theorem devStreamCreate_nextDevStreamId (out : DevStream) :
    (t.devStreamCreate out).nextDevStreamId = t.nextDevStreamId + 1 := rfl

@[simp] theorem devStreamCreate_devStreamOffset (out : DevStream) :
    (t.devStreamCreate out).devStreamOffset = t.devStreamOffset := rfl

@[simp] theorem devStreamCreate_rstreamDevOffset (out : DevStream) :
    (t.devStreamCreate out).rstreamDevOffset = t.rstreamDevOffset := rfl

@[simp] theorem devStreamCreate_calls (out : DevStream) :
    (t.devStreamCreate out).calls = t.calls := rfl

@[simp] theorem call_nextDevStreamId (c : ExtCall) :
    (t.call c).nextDevStreamId = t.nextDevStreamId := rfl

@[simp] theorem call_devStreamOffset (c : ExtCall) :
    (t.call c).devStreamOffset = t.devStreamOffset := rfl

@[simp] theorem call_rstreamDevOffset (c : ExtCall) :
    (t.call c).rstreamDevOffset = t.rstreamDevOffset := rfl

@[simp] theorem call_calls (c : ExtCall) : (t.call c).calls = t.calls ++ [c] := rfl

@[simp] theorem iodevAddStream_devStreams (dev : CrasIodev) (out : DevStream) :
    (t.iodevAddStream dev out).devStreams =
      Function.update t.devStreams dev (t.devStreams dev ++ [out]) := rfl

@[simp] theorem iodevAddStream_openDevs (dev : CrasIodev) (out : DevStream) :
    (t.iodevAddStream dev out).openDevs = t.openDevs := rfl

@[simp] theorem iodevAddStream_nextDevStreamId (dev : CrasIodev) (out : DevStream) :
    (t.iodevAddStream dev out).nextDevStreamId = t.nextDevStreamId := rfl

@[simp] theorem iodevAddStream_devStreamOffset (dev : CrasIodev) (out : DevStream) :
    (t.iodevAddStream dev out).devStreamOffset = t.devStreamOffset := rfl

@[simp] theorem iodevAddStream_rstreamDevOffset (dev : CrasIodev) (out : DevStream) :
    (t.iodevAddStream dev out).rstreamDevOffset = t.rstreamDevOffset := rfl

@[simp] theorem iodevAddStream_calls (dev : CrasIodev) (out : DevStream) :
    (t.iodevAddStream dev out).calls = t.calls := rfl

@[simp] theorem iodevStreamWritten_nextDevStreamId (out : DevStream) (o : Nat) :
    (t.iodevStreamWritten out o).nextDevStreamId = t.nextDevStreamId := rfl

@[simp] theorem iodevStreamWritten_devStreamOffset (out : DevStream) (o : Nat) :
    (t.iodevStreamWritten out o).devStreamOffset = Function.update t.devStreamOffset out o := rfl

@[simp] theorem iodevStreamWritten_rstreamDevOffset (out : DevStream) (o : Nat) :
    (t.iodevStreamWritten out o).rstreamDevOffset = t.rstreamDevOffset := rfl

@[simp] theorem iodevStreamWritten_calls (out : DevStream) (o : Nat) :
    (t.iodevStreamWritten out o).calls = t.calls := rfl

@[simp] theorem rstreamDevOffsetUpdate_nextDevStreamId (s : CrasRstream) (o i : Nat) :
    (t.rstreamDevOffsetUpdate s o i).nextDevStreamId = t.nextDevStreamId := rfl

@[simp] theorem rstreamDevOffsetUpdate_devStreamOffset (s : CrasRstream) (o i : Nat) :
    (t.rstreamDevOffsetUpdate s o i).devStreamOffset = t.devStreamOffset := rfl

@[simp] theorem rstreamDevOffsetUpdate_rstreamDevOffset (s : CrasRstream) (o i : Nat) :
    (t.rstreamDevOffsetUpdate s o i).rstreamDevOffset = Function.update t.rstreamDevOffset s
      (Function.update (t.rstreamDevOffset s) i o) := rfl

@[simp] theorem rstreamDevOffsetUpdate_calls (s : CrasRstream) (o i : Nat) :
    (t.rstreamDevOffsetUpdate s o i).calls = t.calls := rfl

end AudioThread

/-- `DL_SEARCH_SCALAR` over an open-device list by `dev`, and `dev_io_find_open_dev`. -/
def findOpenDev (l : List OpenDev) (dev : CrasIodev) : Option OpenDev :=
  l.find? (fun od => od.dev = dev)

/-- `DL_SEARCH_SCALAR` over `dev->streams` by `stream`. -/
def findDevStream (l : List DevStream) (stream : CrasRstream) : Option DevStream :=
  l.find? (fun ds => ds.stream = stream)

theorem findOpenDev_isSome {l : List OpenDev} {dev : CrasIodev} :
    (findOpenDev l dev).isSome ↔ dev ∈ l.map OpenDev.dev := by
  simp only [findOpenDev, List.find?_isSome, List.mem_map, decide_eq_true_eq]

theorem findDevStream_isSome {l : List DevStream} {stream : CrasRstream} :
    (findDevStream l stream).isSome ↔ stream ∈ l.map DevStream.stream := by
  simp only [findDevStream, List.find?_isSome, List.mem_map, decide_eq_true_eq]

theorem findDevStream_eq_none {l : List DevStream} {stream : CrasRstream} :
    findDevStream l stream = none ↔ stream ∉ l.map DevStream.stream := by
  rw [← findDevStream_isSome, Option.not_isSome_iff_eq_none]

theorem findDevStream_some {l : List DevStream} {stream : CrasRstream} {out : DevStream}
    (h : findDevStream l stream = some out) : out ∈ l ∧ out.stream = stream := by
  have := List.find?_some h
  exact ⟨List.mem_of_find?_eq_some h, by simpa using this⟩

end CrasAudio

import Mathlib.Data.List.Nodup

/-! Objects the audio thread schedules, and the timespec and machine-int arithmetic it uses. -/
namespace CrasAudio

/-- Modelled from the spec (`cras_types.h` is not among the sources): the two directions. -/
inductive CrasStreamDirection
  | output
  | input
  deriving DecidableEq, Repr

/-- Linux errno values returned through the reply channel. -/
def eintr : Int := 4

def enomem : Int := 12

def eexist : Int := 17

def einval : Int := 22

def epipe : Int := 32

/-- Conversion of an integer to a 32-bit `int`, wrapping as gcc does. -/
def int32 (n : Int) : Int := (n + 2147483648) % 4294967296 - 2147483648

theorem int32_of_lt {n : Int} (h0 : -2147483648 ≤ n) (h1 : n < 2147483648) : int32 n = n := by
  unfold int32
  rw [Int.emod_eq_of_lt (by omega) (by omega)]
  omega

theorem int32_lt (n : Int) : int32 n < 2147483648 := by
  have := Int.emod_lt_of_pos (n + 2147483648) (by decide : (0 : Int) < 4294967296)
  unfold int32
  omega

/-! ## Timespecs -/

/-- A `struct timespec` with `tv_nsec` normalised. -/
structure Timespec where
  tvSec : Int
  tvNsec : Nat
  tvNsec_lt : tvNsec < 1000000000
  deriving DecidableEq, Repr

namespace Timespec

def zero : Timespec := ⟨0, 0, by decide⟩

/-- A whole number of seconds. -/
def ofSec (n : Int) : Timespec := ⟨n, 0, by decide⟩

/-- The time in nanoseconds. -/
def toNs (a : Timespec) : Int := a.tvSec * 1000000000 + a.tvNsec

@[simp] theorem toNs_zero : zero.toNs = 0 := rfl

theorem toNs_inj {a b : Timespec} (h : a.toNs = b.toNs) : a = b := by
  obtain ⟨s, n, hn⟩ := a
  obtain ⟨s', n', hn'⟩ := b
  simp only [toNs] at h
  have : s = s' := by omega
  subst this
  have : n = n' := by omega
  subst this
  rfl

end Timespec

/-- Modelled from the spec: `timespec_after` of `cras_util.h`, true when `a` is later than `b`. -/
def timespecAfter (a b : Timespec) : Bool :=
  decide (a.tvSec > b.tvSec) || (decide (a.tvSec = b.tvSec) && decide (a.tvNsec > b.tvNsec))

/-- Modelled from the spec: `add_timespecs` of `cras_util.h`. -/
def addTimespecs (a b : Timespec) : Timespec :=
  if h : a.tvNsec + b.tvNsec ≥ 1000000000 then
    ⟨a.tvSec + b.tvSec + 1, a.tvNsec + b.tvNsec - 1000000000,
      by have := a.tvNsec_lt; have := b.tvNsec_lt; omega⟩
  else ⟨a.tvSec + b.tvSec, a.tvNsec + b.tvNsec, by omega⟩

/-- Modelled from the spec: `subtract_timespecs(end, beg, diff)` of `cras_util.h`. -/
def subtractTimespecs (e b : Timespec) : Timespec :=
  if h : e.tvNsec < b.tvNsec then
    ⟨e.tvSec - b.tvSec - 1, e.tvNsec + 1000000000 - b.tvNsec, by have := e.tvNsec_lt; omega⟩
  else ⟨e.tvSec - b.tvSec, e.tvNsec - b.tvNsec, by have := e.tvNsec_lt; omega⟩

@[simp] theorem timespecAfter_iff {a b : Timespec} :
    timespecAfter a b = true ↔ b.toNs < a.toNs := by
  have := a.tvNsec_lt
  have := b.tvNsec_lt
  simp only [timespecAfter, Timespec.toNs, Bool.or_eq_true, Bool.and_eq_true, decide_eq_true_eq]
  omega

@[simp] theorem toNs_addTimespecs (a b : Timespec) :
    (addTimespecs a b).toNs = a.toNs + b.toNs := by
  unfold addTimespecs Timespec.toNs
  split <;> dsimp only <;> omega

@[simp] theorem toNs_subtractTimespecs (e b : Timespec) :
    (subtractTimespecs e b).toNs = e.toNs - b.toNs := by
  have := b.tvNsec_lt
  unfold subtractTimespecs Timespec.toNs
  split <;> dsimp only <;> omega

/-! ## Devices and streams -/

/-- The `cras_audio_format` fields the thread reads. -/
structure CrasAudioFormat where
  frameRate : Nat
  numChannels : Nat
  channelLayout : List Int
  deriving DecidableEq, Repr

/-- The fields of a `struct cras_iodev` the thread reads; `ptr` is the device's address. -/
structure CrasIodev where
  ptr : Nat
  direction : CrasStreamDirection
  idx : Nat
  name : String
  bufferSize : Nat
  minBufferLevel : Nat
  minCbLevel : Nat
  maxCbLevel : Nat
  extFormat : Option CrasAudioFormat
  deriving DecidableEq, Repr

/-- The fields of a `struct cras_rstream` that the thread reads and never writes. -/
structure CrasRstream where
  ptr : Nat
  streamId : Nat
  streamType : Nat
  direction : CrasStreamDirection
  bufferFrames : Nat
  cbThreshold : Nat
  format : CrasAudioFormat
  hasApmList : Bool
  deriving DecidableEq, Repr

/-- A `struct dev_stream`; `id` tells apart the objects `dev_stream_create` allocates. -/
structure DevStream where
  id : Nat
  stream : CrasRstream
  devIdx : Nat
  devFormat : Option CrasAudioFormat
  devPtr : Nat
  initCbTs : Timespec
  deriving DecidableEq, Repr

/-- A `struct open_dev`: a device the thread services, with its hardware wake time. -/
structure OpenDev where
  dev : CrasIodev
  wakeTs : Timespec
  deriving DecidableEq, Repr

end CrasAudio

/-
**The source process callback of `audio.rs`: how much to serve, how much to drop.**

PipeWire asks for a number of frames; the callback serves that many bytes of microphone PCM, at
most the mapped buffer, and before that drops the oldest bytes of a ring that has grown past the
hysteresis. Both numbers are whole frames (`sourceWant_aligned`, `sourceTrim_aligned`), and a trim
leaves the low mark and less than a frame (`avail_after_trim`).
-/

import Wolverine.Audio.Sink
import Wolverine.Rust.Overflow

namespace Wolverine.Audio

open Wolverine.Rust

/-- What `run_pw` fixes for the source. -/
structure SourceConfig where
  inChannels : Nat
  /-- The low mark of the ring depth, in bytes. -/
  capLow : Nat
  channelsPositive : 0 < inChannels
  /-- The low mark holds a frame. -/
  lowFits : inChannels * 2 ≤ capLow

namespace SourceConfig

variable (config : SourceConfig)

/-- Bytes of a frame of `i16` samples. -/
def inStride : Nat := config.inChannels * 2

/-- The high mark of the ring depth. -/
def capHigh : Nat := config.capLow * 2

theorem inStride_pos : 0 < config.inStride := Nat.mul_pos config.channelsPositive (by decide)

theorem even_inStride : 2 ∣ config.inStride := Dvd.intro_left config.inChannels rfl

/-- The shipped settings: 24 kHz mono and 100 ms. -/
def shipped : SourceConfig := ⟨1, 4800, by decide, by decide⟩

end SourceConfig

/-- The settings from the environment: `WOLVERINE_CAP_MS`, the variable if it is set and a
`usize`. -/
def SourceConfig.ofEnv (profile : Profile) (inRate inChannels : Nat)
    (channelsPositive : 0 < inChannels) (capMs : Option Nat) : Except Panic SourceConfig := do
  let capMs := (capMs.filter (0 < ·)).getD 100
  let rate ← mulUsize profile inRate (inChannels * 2)
  let bytes ← mulUsize profile rate capMs
  return {
    inChannels
    capLow := max (bytes / 1000) (inChannels * 2)
    channelsPositive
    lowFits := Nat.le_max_right _ _ }

/-- A dequeued buffer: the frames PipeWire requests, and for each data block the length of its
mapped memory, if there is any. -/
structure SourceBuffer where
  requested : Nat
  datas : List (Option Nat)
  deriving DecidableEq, Repr

variable (config : SourceConfig)

/-- How many bytes to serve from a buffer of `len` bytes. -/
def sourceWant (profile : Profile) (requested len : Nat) : Except Panic Nat :=
  let maxbytes := len / config.inStride * config.inStride
  if 0 < requested then do
    let bytes ← mulUsize profile requested config.inStride
    return min bytes maxbytes
  else return maxbytes

/-- The freshness window of a read. -/
def sourceHigh (want : Nat) : Nat := max config.capHigh (want * 2)

/-- How many of the oldest bytes to drop from a ring of `avail` bytes, if it has grown past the
hysteresis. -/
def sourceTrim (want avail : Nat) : Option Nat :=
  let low := max config.capLow want
  if sourceHigh config want < avail then
    let excess := avail - low
    some (excess - excess % config.inStride)
  else none

variable {config}

/-- What is served is a whole number of samples. -/
theorem sourceWant_aligned {profile : Profile} {requested len want : Nat}
    (returned : sourceWant config profile requested len = .ok want) : 2 ∣ want := by
  have whole : 2 ∣ len / config.inStride * config.inStride :=
    Dvd.dvd.mul_left config.even_inStride _
  unfold sourceWant at returned
  simp only at returned
  split at returned
  · generalize product : mulUsize profile requested config.inStride = result at returned
    cases result with
    | error panic => cases returned
    | ok bytes =>
      cases returned
      -- a wrapped product is still even
      have even : 2 ∣ bytes := by
        rw [mulUsize_ok product]
        exact (Nat.dvd_mod_iff (by decide)).mpr (Dvd.dvd.mul_left config.even_inStride _)
      rcases Nat.le_total bytes (len / config.inStride * config.inStride) with less | more
      · rw [Nat.min_eq_left less]
        exact even
      · rw [Nat.min_eq_right more]
        exact whole
  · cases returned
    exact whole

/-- What is dropped is a whole number of samples. -/
theorem sourceTrim_aligned {want avail excess : Nat}
    (trims : sourceTrim config want avail = some excess) : 2 ∣ excess := by
  unfold sourceTrim at trims
  simp only at trims
  split at trims
  · cases trims
    exact config.even_inStride.trans (Nat.dvd_sub_mod _)
  · cases trims

/-- The ring depth that the trim leaves. -/
def trimmed (config : SourceConfig) (want avail : Nat) : Nat :=
  if sourceHigh config want < avail then
    max config.capLow want + (avail - max config.capLow want) % config.inStride
  else avail

theorem avail_after_trim (config : SourceConfig) (want avail : Nat) :
    avail - (sourceTrim config want avail).getD 0 = trimmed config want avail ∧
      (sourceTrim config want avail).getD 0 ≤ avail := by
  have low : max config.capLow want ≤ sourceHigh config want := by
    rw [sourceHigh, SourceConfig.capHigh]
    omega
  unfold sourceTrim trimmed
  simp only
  split
  · have rest := Nat.mod_le (avail - max config.capLow want) config.inStride
    simp only [Option.getD_some]
    omega
  · simp

/-- A trim alone leaves no more than the freshness window. -/
theorem trimmed_le (config : SourceConfig) (want avail : Nat) :
    trimmed config want avail ≤ sourceHigh config want := by
  have rest := Nat.mod_lt (avail - max config.capLow want) config.inStride_pos
  have frame : config.inStride ≤ config.capLow := config.lowFits
  unfold trimmed
  split
  · rw [sourceHigh, SourceConfig.capHigh]
    omega
  · omega

end Wolverine.Audio

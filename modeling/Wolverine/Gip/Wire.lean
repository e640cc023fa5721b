/-
**The GIP wire format: the functions of `gip.rs`.**

A frame is `cmd, options, seq, <length varint>`, then a chunk-offset varint when the CHUNK option
is set, then the payload. The definitions below compute what the source computes, byte for byte;
bytes are `UInt8`, `u32` and `usize` values are natural numbers below their width, a slice is a
list, and a function that may trip an overflow check returns `Except Panic`.

* `writeVarint`, `readVarint` — the LEB128 loops. The reader has no limit on the number of bytes,
  so its shift amount grows by seven a continuation byte; `shlU32` carries the overflow check.
* `buildHeader` pads the header to an even length inside the length varint.
* `decode` reads a received frame back; `SeqCounter` numbers the sent ones.
-/

import Wolverine.Rust.Overflow

namespace Wolverine.Gip

open Wolverine.Rust

/-! ### Constants -/

/-- Our GIP client id. -/
def clientId : UInt8 := 0x01

-- GIP command ids.
namespace Cmd

def acknowledge : UInt8 := 0x01
def status : UInt8 := 0x03
def identify : UInt8 := 0x04
/-- With `gipPwrOn`, wakes the audio subsystem. -/
def power : UInt8 := 0x05
def virtualKey : UInt8 := 0x07
def audioControl : UInt8 := 0x08
def rumble : UInt8 := 0x09
def input : UInt8 := 0x20
def audioSamples : UInt8 := 0x60

end Cmd

-- Bits of the options byte.
namespace Opt

def ack : UInt8 := (1 : UInt8) <<< 4
def internal : UInt8 := (1 : UInt8) <<< 5
def chunk : UInt8 := (1 : UInt8) <<< 7

end Opt

/-- Options of host-originated internal commands. -/
def optsInternal : UInt8 := clientId ||| Opt.internal

/-- POWER subcommand: wake the audio subsystem. -/
def gipPwrOn : UInt8 := 0x00

/-- AUDIO_CONTROL subcommand of the media buttons. -/
def audioCtrlVolumeChat : UInt8 := 0x00

/-- The audio format of the bring-up: 48 kHz stereo, in and out. -/
def audioFormat48kStereo : List UInt8 := [0x02, 0x10, 0x10]

/-! ### Varints -/

/-- Append `value` as an unsigned LEB128 varint. -/
def writeVarint (value : Nat) : List UInt8 :=
  let byte := UInt8.ofNat (value &&& 0x7f)
  let rest := value >>> 7
  if rest ≠ 0 then (byte ||| 0x80) :: writeVarint rest else [byte]
termination_by value
decreasing_by
  have : value >>> 7 = value / 2 ^ 7 := Nat.shiftRight_eq_div_pow value 7
  omega

/-- The loop of `read_varint`, on the bytes from index `i` on; `consumed` is `i - pos`. -/
def readVarintLoop (profile : Profile) (value shift consumed : Nat) :
    List UInt8 → Except Panic (Option (Nat × Nat))
  | [] => .ok none
  | byte :: rest => do
    let bits ← shlU32 profile (byte &&& 0x7f).toNat shift
    let value := value ||| bits
    if byte &&& 0x80 = 0 then return some (value, consumed + 1)
    readVarintLoop profile value (shift + 7) (consumed + 1) rest

/-- Read a varint from `buf` at `pos`: its value and the number of bytes it took. -/
def readVarint (profile : Profile) (buf : List UInt8) (pos : Nat) :
    Except Panic (Option (Nat × Nat)) :=
  readVarintLoop profile 0 0 0 (buf.drop pos)

/-! ### Building a packet -/

/-- The header `cmd, options, seq, <length varint>`. An odd header is padded inside the varint:
its last byte continues into a zero terminator. -/
def buildHeader (cmd options seq : UInt8) (payloadLen : Nat) : List UInt8 :=
  let lenVarint := writeVarint payloadLen
  let lenVarint :=
    if (3 + lenVarint.length) % 2 ≠ 0 then
      let last := lenVarint.length - 1
      lenVarint.set last (lenVarint.getD last 0 ||| 0x80) ++ [0x00]
    else lenVarint
  [cmd, options, seq] ++ lenVarint

/-- Header and payload; the length goes through `as u32`. -/
def buildPacket (cmd options seq : UInt8) (payload : List UInt8) : List UInt8 :=
  buildHeader cmd options seq (payload.length % u32Size) ++ payload

/-! ### Decoding a frame -/

/-- A received packet. -/
structure Packet where
  cmd : UInt8
  options : UInt8
  seq : UInt8
  /-- Where the payload starts. -/
  hdrLen : Nat
  /-- The declared payload length. -/
  pktLen : Nat
  /-- Meaningful only when CHUNK is set. -/
  chunkOffset : Nat
  /-- The payload bytes present in this frame. -/
  payload : List UInt8
  deriving DecidableEq, Repr

def Packet.isChunked (packet : Packet) : Bool := packet.options &&& Opt.chunk ≠ 0

def Packet.wantsAck (packet : Packet) : Bool := packet.options &&& Opt.ack ≠ 0

/-- `buf.get(start..stop)`. -/
def getRange (buf : List UInt8) (start stop : Nat) : Option (List UInt8) :=
  if start ≤ stop ∧ stop ≤ buf.length then some ((buf.take stop).drop start) else none

/-- The chunk-offset varint, read only when CHUNK is set. -/
def readChunkOffset (profile : Profile) (options : UInt8) (buf : List UInt8) (pos : Nat) :
    Except Panic (Option (Nat × Nat)) :=
  if options &&& Opt.chunk ≠ 0 then readVarint profile buf pos else .ok (some (0, 0))

/-- Decode a frame: the length varint, the chunk offset, and the payload bytes present. -/
def decode (profile : Profile) (buf : List UInt8) : Except Panic (Option Packet) :=
  match buf with
  | cmd :: options :: seq :: _ :: _ => do
    let some (pktLen, consumed) ← readVarint profile buf 3 | return none
    let some (chunkOffset, c) ← readChunkOffset profile options buf (3 + consumed) | return none
    let pos := 3 + consumed + c
    let stop := min (pos + pktLen) buf.length
    return (getRange buf pos stop).map fun payload =>
      { cmd, options, seq, hdrLen := pos, pktLen, chunkOffset, payload }
  | _ => .ok none   -- `buf.len() < 4`

/-! ### Sequence numbers -/

/-- The counter of sent packets. -/
structure SeqCounter where
  value : UInt8
  deriving DecidableEq, Repr

/-- `SeqCounter::default()`. -/
def SeqCounter.default : SeqCounter := ⟨0⟩

/-- The next sequence number, never 0; the counter keeps it. -/
def SeqCounter.next (counter : SeqCounter) : UInt8 :=
  let value := counter.value + 1
  if value = 0 then 1 else value

end Wolverine.Gip

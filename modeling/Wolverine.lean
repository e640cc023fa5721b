import Wolverine.Base.Leb128
import Wolverine.Base.Machine
import Wolverine.Base.Frames
import Wolverine.Base.Overlay
import Wolverine.Rust.Overflow
import Wolverine.Gip.Wire
import Wolverine.Gip.Varint
import Wolverine.Gip.Decode
import Wolverine.Gip.RoundTrip
import Wolverine.Iso.DeviceBytes
import Wolverine.Audio.Ring
import Wolverine.Audio.Sink
import Wolverine.Iso.Out
import Wolverine.Iso.Playback
import Wolverine.Audio.Source
import Wolverine.Iso.In
import Wolverine.Iso.Mic
import Wolverine.Iso.Freshness
import Wolverine.Iso.Samples
import Wolverine.Usb.EventLoop
import Wolverine.Usb.Identify
import Wolverine.Usb.Reassembly
import Wolverine.Base.Progress
import Wolverine.Python.Auth
import Wolverine.Python.Monitor
import Wolverine.Base.Cyclic
import Wolverine.Bridge.Ring
import Wolverine.Bridge.Capture
import Wolverine.Bridge.Lifecycle
import Wolverine.Bridge.Port
import Wolverine.Iso.Depth
import Wolverine.Python.Decode
import Wolverine.Python.Probe
import Wolverine.Iso.Latency
import Wolverine.Iso.Silence
import Wolverine.Input.Uinput
import Wolverine.Usb.Robust
import Wolverine.Usb.BringUp
import Wolverine.Base.Channel
import Wolverine.Python.Receive
import Wolverine.Python.Chunked
import Wolverine.Input.Gamepad
import Wolverine.Base.Edges
import Wolverine.Input.Media
import Wolverine.Input.Rumble
import Wolverine.Usb.Fields
import Wolverine.Python.Identify
import Wolverine.Python.Transfer
import Wolverine.Python.Sender
import Wolverine.Iso.Start
import Wolverine.Base.Blocks
import Wolverine.Python.Crypto
import Wolverine.Python.Stream
import Wolverine.Base.Program
import Wolverine.Python.Handshake
import Wolverine.Python.Dialogue
import Wolverine.Base.Tail
import Wolverine.Python.IsoOut
import Wolverine.Python.Port
import Wolverine.Python.IsoIn
import Wolverine.Python.IdentifyPort
import Wolverine.Python.SessionPort
import Wolverine.Base.Scope
import Wolverine.Daemon.Main
import Wolverine.Base.Registers
import Wolverine.Input.Devices
import Wolverine.Input.Motors
import Wolverine.Base.Quiesce
import Wolverine.Iso.Shutdown
import Wolverine.Python.Devices
import Wolverine.Python.Recording

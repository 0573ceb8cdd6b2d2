import CrasAudio.Basic
import CrasAudio.Callbacks
import CrasAudio.Codec
import CrasAudio.State
import CrasAudio.AppendStream
import CrasAudio.Dispatch
import CrasAudio.Invariant
import CrasAudio.Ownership
import CrasAudio.Lifecycle
import CrasAudio.OpenDevSet
import CrasAudio.SleepInterval
import CrasAudio.PollLoop
import CrasAudio.Protocol
import CrasAudio.CommandRead
import CrasAudio.PollSet
import CrasAudio.LoopTiming
import CrasAudio.DebugDump

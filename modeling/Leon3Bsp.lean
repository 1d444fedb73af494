import Leon3Bsp.Lib.Assignments
import Leon3Bsp.Lib.Bits
import Leon3Bsp.Lib.BoundedQueue
import Leon3Bsp.Lib.Cascade
import Leon3Bsp.Lib.Circular
import Leon3Bsp.Lib.ClockDivider
import Leon3Bsp.Lib.Conservation
import Leon3Bsp.Lib.Coupling
import Leon3Bsp.Lib.Execution
import Leon3Bsp.Lib.Interleaving
import Leon3Bsp.Lib.Interruption
import Leon3Bsp.Lib.Movers
import Leon3Bsp.Lib.PeriodicCounter
import Leon3Bsp.Lib.Polling
import Leon3Bsp.Lib.Preemption
import Leon3Bsp.Lib.Transducer
import Leon3Bsp.Lib.Wp
import Leon3Bsp.Utils.ByteFifo
import Leon3Bsp.Utils.ByteFifoContents
import Leon3Bsp.Utils.ByteFifoRefinement
import Leon3Bsp.Utils.ManyQueues
import Leon3Bsp.Utils.PreemptedPull
import Leon3Bsp.Utils.PreemptedPush
import Leon3Bsp.Utils.Store
import Leon3Bsp.Utils.TwoUsers
import Leon3Bsp.Rtems
import Leon3Bsp.Uart.Registers
import Leon3Bsp.Uart.Descriptor
import Leon3Bsp.Uart.World
import Leon3Bsp.Uart.Driver
import Leon3Bsp.Uart.Handlers
import Leon3Bsp.Uart.System
import Leon3Bsp.Uart.Trace
import Leon3Bsp.Uart.Frames
import Leon3Bsp.Uart.Twin
import Leon3Bsp.Uart.Board
import Leon3Bsp.Uart.AbsentQueue
import Leon3Bsp.Uart.AttachEmpty
import Leon3Bsp.Uart.BaudRate
import Leon3Bsp.Uart.CallbackOrder
import Leon3Bsp.Uart.Config
import Leon3Bsp.Uart.ConfigRuns
import Leon3Bsp.Uart.DropReport
import Leon3Bsp.Uart.Effects
import Leon3Bsp.Uart.Handshake
import Leon3Bsp.Uart.LengthCallback
import Leon3Bsp.Uart.Line
import Leon3Bsp.Uart.Preempted
import Leon3Bsp.Uart.Primitives
import Leon3Bsp.Uart.Receive
import Leon3Bsp.Uart.ReadContract
import Leon3Bsp.Uart.ReceiveWedge
import Leon3Bsp.Uart.Registered
import Leon3Bsp.Uart.Restart
import Leon3Bsp.Uart.Transmit
import Leon3Bsp.Uart.TransmitEnd
import Leon3Bsp.Uart.TransmitProgress
import Leon3Bsp.Uart.Mirror
import Leon3Bsp.Uart.Uarts
import Leon3Bsp.Uart.QueueLayout
import Leon3Bsp.Uart.VectorMask
import Leon3Bsp.Uart.WriteContract
import Leon3Bsp.Timer.Registers
import Leon3Bsp.Timer.Driver
import Leon3Bsp.Timer.System
import Leon3Bsp.Timer.Gptimer
import Leon3Bsp.Timer.Config
import Leon3Bsp.Timer.SharedVector
import Leon3Bsp.Timer.StoppedMask
import Leon3Bsp.Timer.Expiry
import Leon3Bsp.Timer.Finished
import Leon3Bsp.Timer.Gptimers
import Leon3Bsp.Timer.Settled
import Leon3Bsp.Timer.Timing
import Leon3Bsp.Timer.Interrupts
import Leon3Bsp.Timer.Clocked
import Leon3Bsp.Timer.Timely

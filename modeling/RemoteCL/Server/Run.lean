import RemoteCL.Server.Memory
import RemoteCL.Server.Objects
import RemoteCL.Server.Program
import RemoteCL.Theory.Duplex

/-!
# The server's loop

`handleNextPacket` looks at the type of the next packet, without taking it off the stream, and
leaves the packet to the handler of that type.  `serve` is one iteration of the loop in `run`:
it turns a failed allocation into an error reply and flushes the reply.
-/

namespace RemoteCL

open ByteStream Conversation

namespace ServerInstance

/-! ## The event stream -/

/-- The attempts to open a listening socket on a random port.  The client is told the first port
that could be bound, and is told to do without one when there is none, or when the connection
to the port failed. -/
def openEventStream : ℕ → ServerM Unit
  | 0 => writeValue (0 : UInt16)
  | triesLeft + 1 => do
    let r ← Prog.ask .rand
    -- the ephemeral ports, which IANA does not reserve
    let port := UInt16.ofNat (r % (65535 - 49152 + 1) + 49152)
    let bound : SocketAns ← Prog.ask (ServerCall.listen port)
    match bound with
    | .opened =>
      Prog.tryCatch
        (do
          writeValue port
          PacketStream.flush
          let accepted : SocketAns ← Prog.ask ServerCall.accept
          match accepted with
          | .opened => Prog.modifyState fun s => { s with mEventStream := some [] }
          | .socketError => Prog.throw .socketError
          | .otherError => Prog.throw .other)
        fun _ => writeValue (0 : UInt16)
    | .socketError => openEventStream triesLeft
    | .otherError => writeValue (0 : UInt16)

def createEventStream : ServerM Unit := do
  let _ ← PacketStream.readPacket OpenEventStream
  openEventStream 16

/-! ## Dispatch -/

variable (B : ServerBuild)

/-- The handler of a request; `none` for the packet types that are not requests. -/
def handler : PacketType → Option (ServerM Unit)
  | .getDeviceIDs => sendDeviceList
  | .getDeviceInfo => getDeviceInfo B
  | .getPlatformInfo => getPlatformInfo B
  | .getPlatformIDs => sendPlatformList
  | .createContext => createContext
  | .createContextFromType => createContextFromType
  | .getContextInfo => getContextInfo B
  | .getImageFormats => getImageFormats B
  | .createSourceProgram => createProgramFromSource
  | .createBinaryProgram => createProgramFromBinary B
  | .compileProgram => compileProgram
  | .linkProgram => linkProgram
  | .buildProgram => buildProgram
  | .buildInfo => getProgramBuildInfo B
  | .programInfo => getProgramInfo B
  | .createKernel => createKernel
  | .createKernels => createKernels
  | .cloneKernel => cloneKernel B
  | .setKernelArg => setKernelArg B
  | .kernelWGInfo => getKernelWGInfo B
  | .kernelArgInfo => getKernelArgInfo B
  | .kernelInfo => getKernelInfo B
  | .createQueue => createQueue
  | .createQueueWithProp => createQueueWithProp B
  | .getQueueInfo => getQueueInfo B
  | .flush => flushQueue
  | .finish => finishQueue
  | .createBuffer => createBuffer B
  | .createSubBuffer => createSubBuffer
  | .readBuffer => readBuffer B
  | .readBufferRect => readBufferRect B
  | .writeBuffer => writeBuffer B
  | .fillBuffer => fillBuffer
  | .getMemObjInfo => getMemObjInfo B
  | .createImage => createImage B
  | .readImage => readImage B
  | .writeImage => writeImage B
  | .getImageInfo => getImageInfo B
  | .enqueueKernel => enqueueKernel
  | .waitEvents => waitForEvents
  | .createUserEvent => createUserEvent
  | .getEventProfilingInfo => getEventProfilingInfo
  | .getEventInfo => getEventInfo
  | .setUserEventStatus => setUserEventStatus
  | .release => handleRelease
  | .retain => handleRetain
  | .registerEventCallback => registerEventCallback
  | .eventStreamOpen => createEventStream
  | .payload | .id | .success | .error | .idList | .version | .callbackTrigger
  | .eventCallbackTrigger | .terminate => none

/-- The end of a connection: the event stream is told, and closed. -/
def terminate : ServerM Unit := Prog.modifyState fun s => { s with mEventStream := none }

/-- The switch of `handleNextPacket`.  A byte without an enumerator falls out of it. -/
def dispatch : Option PacketType → ServerM Bool
  | some .terminate => do
    terminate
    pure false
  | some ty =>
    match handler B ty with
    | some h => do
      h
      pure true
    -- the client should not send these packet types
    | none => pure false
  | none => pure true

/-- Waits for the next packet.  Called continuously as long as it returns true. -/
def handleNextPacket : ServerM Bool := do
  let ty ← PacketStream.nextPacketTy
  dispatch B (PacketType.ofByte ty)

/-- The rest of an iteration of `run`, around `handleNextPacket`. -/
def iteration (p : ServerM Bool) : ServerM Bool := do
  let shouldContinue ← Prog.tryCatch p fun
    | .badAlloc => do
      writeError CL_OUT_OF_HOST_MEMORY
      pure true
    | e => Prog.throw e
  PacketStream.flush
  pure shouldContinue

/-- One iteration of the loop in `run`.  It is repeated as long as it returns true. -/
def serve : ServerM Bool := iteration (handleNextPacket B)

theorem context_iteration : Prog.Context iteration :=
  (Prog.Context.tryCatch _).comp (Prog.Context.bind _)

theorem iteration_ret (b : Bool) :
    iteration (Prog.ret b) = PacketStream.flush >>= fun _ => Prog.ret b := rfl

end ServerInstance

end RemoteCL

import RemoteCL.Client.Connection
import RemoteCL.Theory.Delivery

/-!
# The callback thread of the client

The thread reads the event stream: it waits for a trigger, looks the callback up by its index, and
has the callback object read what follows and call the user's function.  It runs beside the
application's threads, which add callbacks to the connection at any time.
-/

namespace RemoteCL

open ByteStream Conversation

namespace Client

/-- A call of a function of the user. -/
inductive UserCall where
  | event (mCallback : ℕ) (mEvent : Handle) (code : IDType) (mUserData : ℕ)
  | program (mCallback : ℕ) (mProgram : Handle) (mUserData : ℕ)
  deriving DecidableEq

/-- Programs of the callback thread.  Their stream is the event stream. -/
abbrev CallbackM := Prog ClientState Exn UserCall fun _ => Unit

/-- `EventCallback::trigger` and `ProgramCallback::trigger`. -/
def trigger : Callback → CallbackM Unit
  | .event mEvent mCallback mUserData => PacketStream.noexcept do
    let code ← PacketStream.readPacket TriggerEventCallback
    Prog.ask (.event mCallback mEvent code.mData mUserData)
  | .program mProgram mCallback mUserData => PacketStream.noexcept do
    Prog.ask (.program mCallback mProgram mUserData)

/-- The connection callback handler. -/
def HandleCallbacks : CallbackM Bool := do
  let ty ← PacketStream.nextPacketTy
  if ty = PacketType.terminate.toByte then pure false
  else if ty = PacketType.callbackTrigger.toByte then do
    let index ← PacketStream.readPacket CallbackTriggerPacket
    let s ← Prog.getState
    match s.mCallbacks[index.mData.toNat]? with
    | none => pure true
    | some callback =>
      trigger callback
      pure true
  -- any other packet is not handled through this stream
  else pure false

/-- The handler of `CallbackThreadMain`, which leaves its loop. -/
def onCallbackThread : Exn → CallbackM Bool
  | .terminate => Prog.throw .terminate
  | _ => do
    Prog.modifyState fun s => { s with hasEventStream := false }
    pure false

/-- One round of the loop of `CallbackThreadMain`, in its `try` block; the loop goes on while it
returns `true`. -/
def callbackThreadRound : CallbackM Bool := HandleCallbacks.tryCatch onCallbackThread

end Client

end RemoteCL

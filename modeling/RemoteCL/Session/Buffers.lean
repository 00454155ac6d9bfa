import RemoteCL.Client.Memory
import RemoteCL.Session.Effect
import RemoteCL.Theory.ArrayStore
import Mathlib.Data.Finset.Insert
import Mathlib.Logic.Function.Basic

/-!
# Buffers, remote and local

An application can use a driver directly, or through the client and the server.  This file says what
it sees in either case.

The driver keeps an array of bytes for every buffer, and carries a command out when it is enqueued.
It may refuse every call, with any code, and then nothing changes; and it chooses the addresses of
new objects, which are new ones.  All this is up to a `BufferDriver`.

The calls of an application are `BufferRequest`s.  They name the objects they are about by their
position among those the application has been given.  `BufferDriver.run` issues them to the driver
itself, and `session` through the client.
-/

namespace RemoteCL

open ByteStream Conversation Client

/-! ## The driver -/

/-- Calls of the driver. -/
inductive BufferCall where
  | clCreateBuffer (context : Ptr) (flags : UInt64) (size : ℕ) (host_ptr : Option Bytes)
  | enqueue (queue buffer : Ptr) (command : ArrayStore.Command UInt8) (events : List Ptr)
      (event : Bool)
  deriving DecidableEq

/-- The answer to a call.  The object is a buffer or an event. -/
structure BufferReply where
  err : Int32
  object : Ptr
  data : Bytes
  deriving DecidableEq

/-- What a driver decides about a call, where these objects exist already: to refuse it, or to
carry it out.  It then chooses the address of an object that is created, and what its memory holds
until something is written there. -/
inductive Decision (objects : Finset Ptr) where
  | refuse (code : {code : Int32 // code ≠ CL_SUCCESS})
  | accept (object : {p : Ptr // p ∉ objects}) (memory : Bytes)

/-- The state of a driver: the objects there are, the arrays of the buffers among them, and
whatever else it remembers. -/
structure BufferState (ω : Type) where
  objects : Finset Ptr
  arrays : Ptr → Option Bytes
  inner : ω

/-- A driver, as far as it is free. -/
structure BufferDriver (ω : Type) where
  judge : (e : BufferState ω) → BufferCall → Decision e.objects × ω

/-- The call creates an object, if it succeeds. -/
def BufferCall.creates : BufferCall → Bool
  | clCreateBuffer _ _ _ _ => true
  | enqueue _ _ _ _ event => event

namespace BufferDriver

variable {ω : Type} (D : BufferDriver ω)

/-- A call that has not been carried out. -/
def refused (code : Int32) : BufferReply := ⟨code, 0, []⟩

/-- The driver carries a call out, or refuses it.  A command that does not apply to its buffer is
refused in any case. -/
def perform (e : BufferState ω) (c : BufferCall) : BufferReply × BufferState ω :=
  match D.judge e c, c with
  | (.refuse code, inner), _ => (refused code, { e with inner })
  | (.accept p memory, inner), .clCreateBuffer _ _ size host_ptr =>
    (⟨CL_SUCCESS, p, []⟩,
      { objects := insert p.1 e.objects
        arrays := Function.update e.arrays p (some (memRead (host_ptr.getD memory) size)), inner })
  | (.accept p _, inner), .enqueue _ buffer command _ event =>
    match e.arrays buffer with
    | none => (refused CL_INVALID_MEM_OBJECT, { e with inner })
    | some array =>
      if command.Applies array then
        (⟨CL_SUCCESS, p, command.output array⟩,
          { objects := if event then insert p.1 e.objects else e.objects
            arrays := Function.update e.arrays buffer (some (command.result array)), inner })
      else (refused CL_INVALID_VALUE, { e with inner })

/-- What a call that is carried out leaves, or one that is refused. -/
inductive Performed (e : BufferState ω) (c : BufferCall) : BufferReply × BufferState ω → Prop
  | refused {r e'} (herr : r.err ≠ CL_SUCCESS) (hobjects : e'.objects = e.objects) :
    Performed e c (r, e')
  | accepted {r e'} (herr : r.err = CL_SUCCESS) (hnew : r.object ∉ e.objects)
      (hobjects : e'.objects = if c.creates then insert r.object e.objects else e.objects)
      (hdata : ∀ queue buffer offset size events event,
        c = .enqueue queue buffer (.read offset size) events event → r.data.length = size) :
    Performed e c (r, e')

theorem performed (e : BufferState ω) (c : BufferCall) : Performed e c (D.perform e c) := by
  unfold perform
  obtain ⟨⟨code⟩ | ⟨p, memory⟩, inner⟩ := D.judge e c
  · cases c <;> exact .refused code.2 rfl
  cases c with
  | clCreateBuffer => exact .accepted rfl p.2 rfl fun _ _ _ _ _ _ h => nomatch h
  | enqueue queue buffer command events event =>
    dsimp only
    split
    · exact .refused (show CL_INVALID_MEM_OBJECT ≠ CL_SUCCESS by decide) rfl
    split
    · rename_i happlies
      refine .accepted rfl p.2 rfl fun _ _ _ _ _ _ h => ?_
      cases h
      exact ArrayStore.Command.length_output_read happlies
    · exact .refused (show CL_INVALID_VALUE ≠ CL_SUCCESS by decide) rfl

end BufferDriver

/-! ## Requests -/

/-- A command, with the arguments of its API function that tell what to do. -/
inductive BufferCommand where
  | write (blocking : Bool) (offset size : UInt64) (ptr : Bytes)
  | fill (pattern : Bytes) (pattern_size offset size : UInt64)
  | read (blocking : Bool) (offset size : UInt64)
  deriving DecidableEq

/-- A call of the application, with the objects given by something of the type `O`. -/
inductive BufferRequest (O : Type) where
  | clCreateBuffer (context : O) (flags size : UInt64) (host_ptr : Option Bytes)
      (errcode_ret : Bool)
  | enqueue (queue buffer : O) (command : BufferCommand) (events : List O) (event : Bool)
  deriving DecidableEq

/-- The command on the array.  Since it is carried out at once, it does not matter whether the call
blocks. -/
def BufferCommand.onArray : BufferCommand → ArrayStore.Command UInt8
  | write _ offset size ptr => .write offset.toNat (memRead ptr size.toNat)
  | fill pattern pattern_size offset size =>
    .fill (memRead pattern pattern_size.toNat) offset.toNat size.toNat
  | read _ offset size => .read offset.toNat size.toNat

/-- What the application sees of a call: the code that it returns or stores, the bytes that it
reads, and the number of objects that it gives the application. -/
structure Seen where
  code : Option Int32
  data : Option Bytes
  objects : ℕ
  deriving DecidableEq

namespace BufferRequest

/-- Objects by other names. -/
def map {O O' : Type} (f : O → O') : BufferRequest O → BufferRequest O'
  | clCreateBuffer context flags size host_ptr errcode_ret =>
    clCreateBuffer (f context) flags size host_ptr errcode_ret
  | enqueue queue buffer command events event =>
    enqueue (f queue) (f buffer) command (events.map f) event

/-- The objects that the call is about are among the first `n`. -/
def Valid (n : ℕ) : BufferRequest ℕ → Prop
  | clCreateBuffer context _ _ _ _ => context < n
  | enqueue queue buffer _ events _ => queue < n ∧ buffer < n ∧ ∀ i ∈ events, i < n

instance (n : ℕ) (r : BufferRequest ℕ) : Decidable (r.Valid n) := by
  cases r <;> unfold Valid <;> infer_instance

/-- The call of the driver. -/
def call : BufferRequest Ptr → BufferCall
  | clCreateBuffer context flags size host_ptr _ =>
    .clCreateBuffer context flags size.toNat (host_ptr.map (memRead · size.toNat))
  | enqueue queue buffer command events event =>
    .enqueue queue buffer command.onArray events event

variable {O : Type}

/-- The objects that the application is given. -/
def created (r : BufferRequest O) (reply : BufferReply) : List Ptr :=
  if reply.err = CL_SUCCESS then
    match r with
    | clCreateBuffer _ _ _ _ _ => [reply.object]
    | enqueue _ _ _ _ event => if event then [reply.object] else []
  else []

/-- The bytes that the application reads. -/
def readData (r : BufferRequest O) (reply : BufferReply) : Option Bytes :=
  match r with
  | enqueue _ _ (.read _ _ _) _ _ => if reply.err = CL_SUCCESS then some reply.data else none
  | _ => none

/-- What the application sees of a call of the driver. -/
def seen (r : BufferRequest O) (reply : BufferReply) : Seen where
  code :=
    match r with
    | clCreateBuffer _ _ _ _ errcode_ret => if errcode_ret then some reply.err else none
    | enqueue _ _ _ _ _ => some reply.err
  data := r.readData reply
  objects := (r.created reply).length

end BufferRequest

/-! ## Issued directly -/

/-- The calls of an application, issued to the driver one after the other, and what the application
sees of them.  `objects` are those it has been given so far; `none` if a call is about an object
that is not among them. -/
def BufferDriver.run {ω : Type} (D : BufferDriver ω) :
    List (BufferRequest ℕ) → List Ptr → BufferState ω → Option (List Seen × BufferState ω)
  | [], _, e => some ([], e)
  | r :: rs, objects, e =>
    if r.Valid objects.length then
      let (reply, e') := D.perform e (r.map (objects.getD · 0)).call
      (run D rs (objects ++ r.created reply) e').map fun x => (r.seen reply :: x.1, x.2)
    else none

/-! ## Issued to the client -/

namespace Client

/-- The arguments for events. -/
def waitArgs (events : List Handle) (event : Bool) : WaitArgs where
  num_events_in_wait_list := events.length
  event_wait_list := if events = [] then none else some (events.map some)
  event

/-- The API function. -/
def requestProgram (C : Build) : BufferRequest Handle → ClientM Ret
  | .clCreateBuffer context flags size host_ptr errcode_ret =>
    clCreateBuffer C (some context) flags size host_ptr errcode_ret
  | .enqueue queue buffer (.write blocking offset size ptr) events event =>
    clEnqueueWriteBuffer C (some queue) (some buffer) blocking offset size ptr
      (waitArgs events event)
  | .enqueue queue buffer (.fill pattern pattern_size offset size) events event =>
    clEnqueueFillBuffer (some queue) (some buffer) pattern pattern_size offset size
      (waitArgs events event)
  | .enqueue queue buffer (.read blocking offset size) events event =>
    clEnqueueReadBuffer C (some queue) (some buffer) blocking offset size (waitArgs events event)

/-- The handles that a call has given to the application. -/
def givenHandles (ret : Ret) (new : List ClientEvent) : List Handle :=
  (ret.handles ++ new.flatMap ClientEvent.handles).filterMap fun
    | (_, .object h) => some h
    | _ => none

/-- The code that a call returns, or the last one that it stores. -/
def reportedCode (ret : Ret) (new : List ClientEvent) : Option Int32 :=
  match ret with
  | .code err => some err
  | .handle _ _ => (new.filterMap fun
      | .store (.errcode_ret code) => some code
      | _ => none).getLast?

/-- The bytes that a call stores. -/
def storedData (new : List ClientEvent) : Option Bytes :=
  (new.filterMap fun
    | .store (.ptr data) => some data
    | _ => none).getLast?

/-- What the application sees of a call of the client: its result, and what it has stored. -/
def observe (ret : Ret) (new : List ClientEvent) : Seen where
  code := reportedCode ret new
  data := storedData new
  objects := (givenHandles ret new).length

/-- An unused handle. -/
def noHandle : Handle := ⟨0, 0, .platformID⟩

/-- The calls of an application, issued to the client one after the other. -/
def session (C : Build) : List (BufferRequest ℕ) → List Handle → ClientM (List Seen)
  | [], _ => pure []
  | r :: rs, handles => do
    let before ← Prog.getState
    let ret ← requestProgram C (r.map (handles.getD · noHandle))
    let after ← Prog.getState
    let new := after.trace.drop before.trace.length
    let views ← session C rs (handles ++ givenHandles ret new)
    pure (observe ret new :: views)

end Client

end RemoteCL

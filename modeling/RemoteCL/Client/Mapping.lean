import RemoteCL.Client.Memory
import RemoteCL.Client.Objects
import RemoteCL.Theory.Ends
import Mathlib.Data.Finset.Basic

/-!
# API functions: mapping a buffer

`clEnqueueMapBuffer` and `clEnqueueUnmapMemObject` of `client/memory.cpp`, with the mappings of a
`MemObject`.  The server does not know about them.  A mapping is an array that is allocated by the
client; the content of the buffer is read into it when it is mapped, and written back when it is
unmapped, by the API functions for reading and writing.

The two functions keep the list of mappings of one object, and everything else they do is a call:
of the allocator, or of another API function, whose result is an error code.
-/

namespace RemoteCL

open ByteStream Conversation

/-- `Mapping::operator==`. -/
def Mapping.isAt (ptr : ℕ) (mapping : Mapping) : Bool := mapping.ptr == ptr

namespace Client

/-! ## What the functions call -/

/-- The calls of the two functions. -/
inductive MapCall where
  /-- `new uint8_t[size]`. -/
  | new (size : UInt64)
  /-- `delete[]`, by the destructor of a mapping. -/
  | delete (ptr : ℕ)
  | clEnqueueReadBuffer (command_queue buffer : Option Handle) (blocking_read : Bool)
      (offset size : UInt64) (ptr : ℕ) (args : WaitArgs)
  | clEnqueueWriteBuffer (command_queue buffer : Option Handle) (blocking_write : Bool)
      (offset size : UInt64) (ptr : ℕ) (args : WaitArgs)
  | clWaitForEvents (num_events : ℕ) (event_list : Option (List (Option Handle)))
  | clRetainMemObject (memobj : Option Handle)
  | clReleaseMemObject (memobj : Option Handle)
  deriving DecidableEq

/-- What they return: an address, unless there is no memory, and error codes. -/
abbrev MapAns : MapCall → Type
  | .new _ => Option ℕ
  | .delete _ => Unit
  | _ => Int32

/-- Programs that keep the mappings of an object. -/
abbrev MapM := Prog (List Mapping) Exn MapCall MapAns

/-- A call. -/
def forward (c : MapCall) : MapM (MapAns c) := Prog.ask c

/-- The API function of a call; `memory` is what its pointer points to. -/
def MapCall.call (B : Build) (memory : ℕ → Bytes) : MapCall → Option (ClientM Ret)
  | .new _ | .delete _ => none
  | .clEnqueueReadBuffer q b block offset size _ args =>
    some (Client.clEnqueueReadBuffer B q b block offset size args)
  | .clEnqueueWriteBuffer q b block offset size ptr args =>
    some (Client.clEnqueueWriteBuffer B q b block offset size (memory ptr) args)
  | .clWaitForEvents n events => some (Client.clWaitForEvents n events)
  | .clRetainMemObject m => some (Client.clRetainMemObject m)
  | .clReleaseMemObject m => some (Client.clReleaseMemObject m)

theorem not_throws_pure {σ ε C α : Type} {A : C → Type} {x : ε} {a : α} :
    ¬ Prog.Throws x (pure a : Prog σ ε C A α) := nofun

theorem not_throws_catching {x : Exn} {badAlloc others : Int32} {p : ClientM Ret} :
    ¬ Prog.Throws x (catching badAlloc others p) := by
  intro h
  obtain ⟨y, hy⟩ := h.of_tryCatch
  cases y <;> exact not_throws_pure hy

theorem not_throws_withEvents {x : Exn} {queue object : Option Handle} {args : WaitArgs}
    {p : Handle → Handle → List IDType → ClientM Ret} :
    ¬ Prog.Throws x (withEvents queue object args p) := by
  unfold withEvents
  split
  · exact not_throws_pure
  · exact not_throws_pure
  · split
    · exact not_throws_pure
    · exact not_throws_catching

/-- No exception gets out of the API functions that are called: there is always a result. -/
theorem MapCall.not_throws {B : Build} {memory : ℕ → Bytes} {c : MapCall} {p : ClientM Ret}
    (hc : c.call B memory = some p) (x : Exn) : ¬ Prog.Throws x p := by
  cases c with
  | new size => exact absurd hc (by simp [MapCall.call])
  | delete ptr => exact absurd hc (by simp [MapCall.call])
  | clEnqueueReadBuffer q b block offset size ptr args =>
    rw [← Option.some.inj hc]
    exact not_throws_withEvents
  | clEnqueueWriteBuffer q b block offset size ptr args =>
    rw [← Option.some.inj hc]
    exact not_throws_withEvents
  | clWaitForEvents n events =>
    rw [← Option.some.inj hc, Client.clWaitForEvents.eq_def]
    split_ifs
    · exact not_throws_pure
    · split
      · exact not_throws_pure
      · split
        · exact not_throws_pure
        · exact not_throws_catching
  | clRetainMemObject m =>
    rw [← Option.some.inj hc]
    cases m with
    | none => exact not_throws_pure
    | some m => exact not_throws_catching
  | clReleaseMemObject m =>
    rw [← Option.some.inj hc]
    cases m with
    | none => exact not_throws_pure
    | some m => exact not_throws_catching

/-! ## The mappings of a `MemObject` -/

/-- `MemObject::getMapping` with a size, an offset and flags: a new mapping, and its pointer. -/
def getMapping (size offset flags : UInt64) : MapM ℕ := do
  let data : Option ℕ ← forward (.new size)
  match data with
  | none => Prog.throw .badAlloc
  | some ptr =>
    Prog.modifyState fun mMappings => mMappings ++ [⟨ptr, size, offset, flags⟩]
    pure ptr

/-- `MemObject::getMapping` with a pointer. -/
def getMappingAt (ptr : ℕ) : MapM Mapping := do
  let mMappings ← Prog.getState
  match mMappings.find? (Mapping.isAt ptr) with
  | some mapping => pure mapping
  | none => Prog.throw .other

theorem getMappingAt_eq (ptr : ℕ) : getMappingAt ptr = Prog.get fun mMappings =>
    (mMappings.find? (Mapping.isAt ptr)).elim (Prog.throw .other) pure := by
  refine congrArg Prog.get (funext fun mMappings => ?_)
  cases hfind : mMappings.find? (Mapping.isAt ptr) <;> simp only [Prog.bind, hfind] <;> rfl

/-- `MemObject::dropMapping`. -/
def dropMapping (ptr : ℕ) : MapM Unit := do
  let mMappings ← Prog.getState
  if mMappings.any (Mapping.isAt ptr) then
    Prog.putState (mMappings.eraseP (Mapping.isAt ptr))
    forward (.delete ptr)
  else
    Prog.throw .other

/-! ## The functions -/

/-- What `clEnqueueMapBuffer` returns, and what it stores through `errcode_ret`. -/
structure MapRet where
  ptr : Option ℕ
  errcode_ret : Option Int32
  deriving DecidableEq

/-- A code that is stored if there is a pointer. -/
def storedCode (errcode_ret : Bool) (code : Int32) : Option Int32 :=
  if errcode_ret then some code else none

/-- `ReturnError`, in a function that returns a pointer. -/
def returnNoMapping (errcode_ret : Bool) (code : Int32) : MapM MapRet :=
  pure ⟨none, storedCode errcode_ret code⟩

/-- The end of a successful map. -/
def returnMapping (buffer : Handle) (ptr : ℕ) (errcode_ret : Bool) : MapM MapRet := do
  let _ : Int32 ← forward (.clRetainMemObject (some buffer))
  pure ⟨some ptr, storedCode errcode_ret CL_SUCCESS⟩

def clEnqueueMapBuffer (command_queue buffer : Option Handle) (blocking_map : Bool)
    (map_flags offset size : UInt64) (args : WaitArgs) (errcode_ret : Bool) : MapM MapRet :=
  match buffer with
  | none => returnNoMapping errcode_ret CL_INVALID_MEM_OBJECT
  | some buffer =>
    if map_flags &&& ~~~(CL_MAP_READ ||| CL_MAP_WRITE) ≠ 0 then
      returnNoMapping errcode_ret CL_INVALID_VALUE
    else
      Prog.tryCatch
        (do
          let ptr ← getMapping size offset map_flags
          if map_flags &&& CL_MAP_READ ≠ 0 then
            let ret : Int32 ← forward (.clEnqueueReadBuffer command_queue (some buffer) blocking_map
              offset size ptr args)
            if ret ≠ CL_SUCCESS then
              dropMapping ptr
              returnNoMapping errcode_ret CL_INVALID_VALUE
            else
              returnMapping buffer ptr errcode_ret
          else if blocking_map && args.event_wait_list.isSome &&
              decide (args.num_events_in_wait_list ≠ 0) then
            let _ : Int32 ← forward (.clWaitForEvents args.num_events_in_wait_list
              args.event_wait_list)
            returnMapping buffer ptr errcode_ret
          else
            returnMapping buffer ptr errcode_ret)
        fun _ => returnNoMapping errcode_ret CL_OUT_OF_HOST_MEMORY

/-- The end of a successful unmap. -/
def endMapping (memobj : Handle) (mapped_ptr : ℕ) : MapM Int32 := do
  dropMapping mapped_ptr
  let _ : Int32 ← forward (.clReleaseMemObject (some memobj))
  pure CL_SUCCESS

def clEnqueueUnmapMemObject (command_queue memobj : Option Handle) (mapped_ptr : ℕ)
    (args : WaitArgs) : MapM Int32 :=
  match memobj with
  | none => pure CL_INVALID_MEM_OBJECT
  | some memobj =>
    Prog.tryCatch
      (do
        let mapping ← getMappingAt mapped_ptr
        if mapping.flags &&& CL_MAP_WRITE ≠ 0 then
          let ret : Int32 ← forward (.clEnqueueWriteBuffer command_queue (some memobj) true
            mapping.offset mapping.size mapping.ptr args)
          if ret ≠ CL_SUCCESS then pure ret
          else endMapping memobj mapped_ptr
        else if args.event then pure CL_INVALID_OPERATION
        else if decide (args.num_events_in_wait_list ≠ 0) && args.event_wait_list.isSome then
          let _ : Int32 ← forward (.clWaitForEvents args.num_events_in_wait_list
            args.event_wait_list)
          endMapping memobj mapped_ptr
        else
          endMapping memobj mapped_ptr)
      fun _ => pure CL_INVALID_VALUE

end Client

end RemoteCL

import RemoteCL.Client.Callbacks
import RemoteCL.Session.EventStream

/-!
# The identities of callbacks

There are two calls that register a callback: `clSetEventCallback` for an event, and
`clCompileProgram` for a program.  Both put it at the end of the same vector, and both send its
position in a field of 16 bits.  The driver may refuse a registration, and the callback stays in the
vector.  A trigger for an event is followed by the status, one for a program is not.

A system has two sides, which share the vector and the blocks that the driver has been given.  What
`Registering` says of the registrations holds in every run.  What `Dispatching` says of the event
stream holds in the runs in which the driver accepts no registration but the first 65536
(`Reachable.dispatching`); a later one has the ID of another callback.
-/

namespace RemoteCL
namespace CallbackIDs

open ByteStream Client
open EventStream (CallbackObject EventReader ReadsPacket narrow)

/-! ## Registrations -/

/-- The functions that the driver calls back. -/
inductive CallbackFn where
  | EventCallback
  | ProgramCallback
  deriving DecidableEq

/-- The function that goes with a callback. -/
def fnOf : Callback → CallbackFn
  | .event _ _ _ => .EventCallback
  | .program _ _ _ => .ProgramCallback

/-- The requests that register a callback. -/
inductive Request where
  | event (P : RegisterEventCallback)
  | program (P : CompileProgram)
  deriving DecidableEq

/-- The request for a callback; `type` and `P` have the rest of it. -/
def requestFor (type : UInt32) (P : CompileProgram) (callbackID : IDType) : Callback → Request
  | .event mEvent _ _ => .event ⟨GetID mEvent, callbackID, type⟩
  | .program mProgram _ _ =>
    .program { P with
      mProgramID := GetID mProgram, mHasCallback := true, mCallbackID := callbackID }

/-- A request under way.  `number` is the position of its callback, which nobody transmits. -/
structure Sent where
  request : Request
  number : ℕ
  deriving DecidableEq

/-- What the driver has been given: a function, and a `CallbackBlock`. -/
structure Block where
  fn : CallbackFn
  ID : IDType
  number : ℕ
  deriving DecidableEq

/-- What the server makes of a request. -/
def Sent.block (r : Sent) : Block :=
  match r.request with
  | .event P => ⟨.EventCallback, P.mCallbackID, r.number⟩
  | .program P => ⟨.ProgramCallback, P.mCallbackID, r.number⟩

theorem Sent.block_requestFor (type : UInt32) (P : CompileProgram) (callbackID : IDType)
    (callback : Callback) (n : ℕ) :
    Sent.block ⟨requestFor type P callbackID callback, n⟩ = ⟨fnOf callback, callbackID, n⟩ := by
  cases callback <;> rfl

/-- Where the call is that holds the connection, if there is one. -/
inductive ApiCall where
  | free
  | entered (callBack : CallbackObject) (type : UInt32) (P : CompileProgram)
  | registered (callBack : CallbackObject) (type : UInt32) (P : CompileProgram)
      (callbackID : UInt32)
  | requested
  deriving DecidableEq

inductive Reply where
  | success
  | error (e : Int32)
  deriving DecidableEq

/-- What the server replies when the driver has refused. -/
def Request.refusal (e : Int32) : Request → List Reply
  | event _ => [.error e, .success]
  | program _ => [.error e]

/-- Where the server is. -/
inductive Serving where
  | waiting
  | calling (r : Sent)
  | accepted
  deriving DecidableEq

/-- The side of the connection, with its packets in order. -/
structure Registrations where
  mCallbacks : List CallbackObject
  made : ℕ
  api : ApiCall
  up : List Sent
  down : List Reply
  server : Serving
  blocks : List Block
  deriving DecidableEq

/-- A step of a registration.  `callbackMutex` says that the mutex of the callbacks is free. -/
inductive Register (callbackMutex : Prop) : Registrations → Registrations → Prop
  | enter {x} (h : x.api = .free) (callback : Callback) (type : UInt32) (P : CompileProgram) :
      Register callbackMutex x { x with
        api := .entered ⟨x.made, callback⟩ type P
        made := x.made + 1 }
  | registerCallback {x callBack type P} (h : x.api = .entered callBack type P)
      (hmutex : callbackMutex) :
      Register callbackMutex x { x with
        mCallbacks := x.mCallbacks ++ [callBack]
        api := .registered callBack type P (UInt32.ofNat x.mCallbacks.length) }
  | request {x callBack type P callbackID} (h : x.api = .registered callBack type P callbackID) :
      Register callbackMutex x { x with
        up := x.up ++ [⟨requestFor type P callbackID.toUInt16 callBack.callback,
          x.mCallbacks.length - 1⟩]
        api := .requested }
  | leave {x r rest} (h : x.api = .requested) (hdown : x.down = r :: rest) :
      Register callbackMutex x { x with down := rest, api := .free }
  | read {x r rest} (h : x.server = .waiting) (hup : x.up = r :: rest) :
      Register callbackMutex x { x with up := rest, server := .calling r }
  | accept {x r} (h : x.server = .calling r) :
      Register callbackMutex x { x with blocks := x.blocks ++ [r.block], server := .accepted }
  | reply {x} (h : x.server = .accepted) :
      Register callbackMutex x { x with down := x.down ++ [.success], server := .waiting }
  | refuse {x r} (e : Int32) (h : x.server = .calling r) :
      Register callbackMutex x { x with
        down := x.down ++ r.request.refusal e, server := .waiting }

/-! ### What holds of them -/

/-- The requests that the server has not read. -/
def Serving.pending : Serving → List Sent
  | calling r => [r]
  | waiting | accepted => []

/-- All registrations that have been sent and not refused, in order. -/
def Registrations.sent (x : Registrations) : List Block :=
  x.blocks ++ (x.server.pending ++ x.up).map Sent.block

/-- A registration has the narrowed position of a callback of its kind. -/
def Names (mCallbacks : List CallbackObject) (b : Block) : Prop :=
  b.ID = UInt16.ofNat b.number ∧
    ∃ callBack, mCallbacks[b.number]? = some callBack ∧ fnOf callBack.callback = b.fn

/-- The callback of a call is the latest one. -/
def Latest (x : Registrations) : Prop :=
  match x.api with
  | .registered callBack _ _ callbackID => ∃ others, x.mCallbacks = others ++ [callBack] ∧
      callbackID = UInt32.ofNat others.length ∧ ∀ b ∈ x.sent, b.number < others.length
  | _ => True

/-- New callback objects are made after all others. -/
def Fresh (x : Registrations) : Prop :=
  match x.api with
  | .entered callBack _ _ =>
    callBack.addr < x.made ∧ ∀ c ∈ x.mCallbacks, c.addr < callBack.addr
  | _ => ∀ c ∈ x.mCallbacks, c.addr < x.made

/-- The invariant of the registrations. -/
structure Registering (x : Registrations) : Prop where
  fresh : Fresh x
  ordered : x.mCallbacks.Pairwise fun c d => c.addr < d.addr
  names : ∀ b ∈ x.sent, Names x.mCallbacks b
  ascending : x.sent.Pairwise fun b c => b.number < c.number
  latest : Latest x

/-- A connection without registrations. -/
def noRegistrations : Registrations := ⟨[], 0, .free, [], [], .waiting, []⟩

theorem registering_initial : Registering noRegistrations where
  fresh _ hc := absurd hc List.not_mem_nil
  ordered := .nil
  names _ hb := absurd hb List.not_mem_nil
  ascending := .nil
  latest := trivial

section Registering

variable {m : Prop} {x y : Registrations}

/-- A callback that is named stays named. -/
theorem Names.mono {mCallbacks mCallbacks' : List CallbackObject} {b : Block}
    (h : Names mCallbacks b) (hle : mCallbacks <+: mCallbacks') : Names mCallbacks' b := by
  obtain ⟨hID, c, hc, hfn⟩ := h
  obtain ⟨more, rfl⟩ := hle
  obtain ⟨hlt, -⟩ := List.getElem?_eq_some_iff.mp hc
  exact ⟨hID, c, by rw [List.getElem?_append_left hlt, hc], hfn⟩

theorem Names.number_lt {mCallbacks : List CallbackObject} {b : Block} (h : Names mCallbacks b) :
    b.number < mCallbacks.length := by
  obtain ⟨-, c, hc, -⟩ := h
  exact (List.getElem?_eq_some_iff.mp hc).1

/-- Callbacks are never taken back, and neither are blocks. -/
theorem Register.mCallbacks_prefix (h : Register m x y) : x.mCallbacks <+: y.mCallbacks := by
  cases h with
  | registerCallback => exact List.prefix_append _ _
  | _ => exact List.prefix_rfl

theorem Register.blocks_prefix (h : Register m x y) : x.blocks <+: y.blocks := by
  cases h with
  | accept => exact List.prefix_append _ _
  | _ => exact List.prefix_rfl

theorem Latest.of_sublist (hx : Latest x) (hapi : y.api = x.api)
    (hcallbacks : y.mCallbacks = x.mCallbacks) (hsent : y.sent.Sublist x.sent) : Latest y := by
  rw [Latest] at hx ⊢
  rw [hapi, hcallbacks]
  split
  · rename_i hregistered
    rw [hregistered] at hx
    obtain ⟨others, hothers, hID, hnumbers⟩ := hx
    exact ⟨others, hothers, hID, fun b hb => hnumbers b (hsent.subset hb)⟩
  · trivial

/-- What is sent stays the same, or is refused. -/
theorem Registering.of_sublist (hx : Registering x) (hcallbacks : y.mCallbacks = x.mCallbacks)
    (hsent : y.sent.Sublist x.sent) (hfresh : Fresh y) (hlatest : Latest y) : Registering y where
  fresh := hfresh
  ordered := by rw [hcallbacks]; exact hx.ordered
  names b hb := by rw [hcallbacks]; exact hx.names b (hsent.subset hb)
  ascending := hx.ascending.sublist hsent
  latest := hlatest

theorem Registering.registerCallback (hx : Registering x) {callBack : CallbackObject}
    {type : UInt32} {P : CompileProgram} (h : x.api = .entered callBack type P) :
    Registering { x with
      mCallbacks := x.mCallbacks ++ [callBack]
      api := .registered callBack type P (UInt32.ofNat x.mCallbacks.length) } := by
  have hfresh := hx.fresh
  simp only [Fresh, h] at hfresh
  obtain ⟨hmade, hothers⟩ := hfresh
  refine ⟨fun c hc => ?_, ?_, fun b hb => (hx.names b hb).mono (List.prefix_append _ _),
    hx.ascending, x.mCallbacks, rfl, rfl, fun b hb => (hx.names b hb).number_lt⟩
  · rcases List.mem_append.mp hc with hc | hc
    · exact (hothers c hc).trans hmade
    · rwa [List.mem_singleton.mp hc]
  · refine List.pairwise_append.mpr ⟨hx.ordered, List.pairwise_singleton _ _, fun c hc d hd => ?_⟩
    rw [List.mem_singleton.mp hd]
    exact hothers c hc

theorem Registering.request (hx : Registering x) {callBack : CallbackObject} {type : UInt32}
    {P : CompileProgram} {callbackID : UInt32}
    (h : x.api = .registered callBack type P callbackID) :
    Registering { x with
      up := x.up ++ [⟨requestFor type P callbackID.toUInt16 callBack.callback,
        x.mCallbacks.length - 1⟩]
      api := .requested } := by
  have hfresh := hx.fresh
  have hlatest := hx.latest
  simp only [Fresh, h] at hfresh
  simp only [Latest, h] at hlatest
  obtain ⟨others, hothers, rfl, hnumbers⟩ := hlatest
  have hlen : x.mCallbacks.length - 1 = others.length := by
    rw [hothers, List.length_append, List.length_singleton, Nat.add_sub_cancel]
  rw [hlen]
  generalize hy : ({ x with
    up := x.up ++ [⟨requestFor type P (UInt32.ofNat others.length).toUInt16 callBack.callback,
      others.length⟩]
    api := .requested } : Registrations) = y
  have hsent : y.sent = x.sent ++ [⟨fnOf callBack.callback, UInt16.ofNat others.length,
      others.length⟩] := by
    rw [← hy, Registrations.sent, Registrations.sent, ← List.append_assoc, List.map_append,
      ← List.append_assoc, List.map_singleton, Sent.block_requestFor,
      UInt32.toUInt16_ofNat']
  have hcallbacks : y.mCallbacks = x.mCallbacks := by rw [← hy]
  refine ⟨?_, ?_, fun b hb => ?_, ?_, ?_⟩
  · rw [← hy]
    exact hfresh
  · rw [hcallbacks]
    exact hx.ordered
  · rw [hcallbacks]
    rw [hsent] at hb
    rcases List.mem_append.mp hb with hb | hb
    · exact hx.names b hb
    · rw [List.mem_singleton.mp hb]
      refine ⟨rfl, callBack, ?_, rfl⟩
      rw [hothers, List.getElem?_concat_length]
  · rw [hsent]
    refine List.pairwise_append.mpr ⟨hx.ascending, List.pairwise_singleton _ _, fun b hb c hc => ?_⟩
    rw [List.mem_singleton.mp hc]
    exact hnumbers b hb
  · rw [← hy]
    trivial

/-- **Every step keeps the registrations in order.** -/
theorem Registering.step (hx : Registering x) (h : Register m x y) : Registering y := by
  cases h with
  | enter h callback type P =>
    have hfresh := hx.fresh
    simp only [Fresh, h] at hfresh
    exact hx.of_sublist rfl (List.Sublist.refl _) ⟨Nat.lt_succ_self _, hfresh⟩ trivial
  | registerCallback h => exact hx.registerCallback h
  | request h => exact hx.request h
  | leave h hdown =>
    have hfresh := hx.fresh
    simp only [Fresh, h] at hfresh
    exact hx.of_sublist rfl (List.Sublist.refl _) hfresh trivial
  | @read r rest h hup =>
    have hsub : ({ x with up := rest, server := .calling r } :
        Registrations).sent.Sublist x.sent := by
      rw [Registrations.sent, Registrations.sent, hup, h]
      exact List.Sublist.refl _
    exact hx.of_sublist rfl hsub hx.fresh (hx.latest.of_sublist rfl rfl hsub)
  | @accept r h =>
    have hsub : ({ x with blocks := x.blocks ++ [r.block], server := .accepted } :
        Registrations).sent.Sublist x.sent := by
      rw [Registrations.sent, Registrations.sent, h, List.append_assoc]
      exact List.Sublist.refl _
    exact hx.of_sublist rfl hsub hx.fresh (hx.latest.of_sublist rfl rfl hsub)
  | reply h =>
    have hsub : ({ x with down := x.down ++ [.success], server := .waiting } :
        Registrations).sent.Sublist x.sent := by
      rw [Registrations.sent, Registrations.sent, h]
      exact List.Sublist.refl _
    exact hx.of_sublist rfl hsub hx.fresh (hx.latest.of_sublist rfl rfl hsub)
  | @refuse r e h =>
    have hsub : ({ x with down := x.down ++ r.request.refusal e, server := .waiting } :
        Registrations).sent.Sublist x.sent := by
      rw [Registrations.sent, Registrations.sent, h]
      exact List.Sublist.append_left (List.sublist_cons_self _ _) _
    exact hx.of_sublist rfl hsub hx.fresh (hx.latest.of_sublist rfl rfl hsub)

end Registering

/-! ## The event stream -/

/-- The driver calls one of its functions back, for the registration of that number. -/
inductive Trigger where
  | event (number : ℕ) (code : Int32)
  | program (number : ℕ)
  deriving DecidableEq

namespace Trigger

def number : Trigger → ℕ
  | event n _ | program n => n

def fn : Trigger → CallbackFn
  | event _ _ => .EventCallback
  | program _ => .ProgramCallback

/-- The status as it is sent. -/
def code : Trigger → IDType
  | event _ code => narrow code
  | program _ => 0

/-- What follows the index on the event stream. -/
def payload : Trigger → Bytes
  | event _ code => packet (⟨narrow code⟩ : TriggerEventCallback)
  | program _ => []

/-- What a trigger is on the event stream. -/
def message (t : Trigger) : Bytes :=
  packet (⟨(UInt16.ofNat t.number).toUInt32⟩ : CallbackTriggerPacket) ++ t.payload

end Trigger

/-- Where the thread is that holds `mEventMutex`, if there is one: in `triggerEventCallback`, or in
`triggerProgramCallback`. -/
inductive Triggering where
  | free
  | event (callbackID : IDType) (code : Int32)
  | announced (code : Int32)
  | written
  | program (callbackID : IDType)
  deriving DecidableEq

/-- What it has still to write. -/
def Triggering.toWrite : Triggering → Bytes
  | event callbackID code =>
    packet (⟨callbackID.toUInt32⟩ : CallbackTriggerPacket) ++
      packet (⟨narrow code⟩ : TriggerEventCallback)
  | announced code => packet (⟨narrow code⟩ : TriggerEventCallback)
  | program callbackID => packet (⟨callbackID.toUInt32⟩ : CallbackTriggerPacket)
  | free | written => []

/-- A callback object has been triggered, and the user's function called. -/
structure Invocation where
  callBack : CallbackObject
  call : UserCall
  deriving DecidableEq

/-- The call of the user's function, when the status has been read, if there is one. -/
def callOf (code : IDType) : Callback → UserCall
  | .event mEvent mCallback mUserData => .event mCallback mEvent code mUserData
  | .program mProgram mCallback mUserData => .program mCallback mProgram mUserData

/-- The side of the event stream.  `triggers` has the calls of the driver in the order in which they
took the mutex, and only keeps track. -/
structure Events where
  triggers : List Trigger
  mEventMutex : Triggering
  eventOut : Bytes
  eventWire : Bytes
  reader : EventReader
  invoked : List Invocation
  deriving DecidableEq

/-- A step of the server's threads in their callbacks, or of the client's thread that reads the
event stream. -/
inductive Dispatch (mCallbacks : List CallbackObject) (blocks : List Block) : Events → Events → Prop
  -- `triggerEventCallback`
  | lockEvents {x b} (code : Int32) (h : x.mEventMutex = .free) (hb : b ∈ blocks)
      (hfn : b.fn = .EventCallback) :
      Dispatch mCallbacks blocks x { x with
        mEventMutex := .event b.ID code
        triggers := x.triggers ++ [.event b.number code] }
  | announce {x callbackID code} (h : x.mEventMutex = .event callbackID code) :
      Dispatch mCallbacks blocks x { x with
        eventOut := x.eventOut ++ packet (⟨callbackID.toUInt32⟩ : CallbackTriggerPacket)
        mEventMutex := .announced code }
  | write {x code} (h : x.mEventMutex = .announced code) :
      Dispatch mCallbacks blocks x { x with
        eventOut := x.eventOut ++ packet (⟨narrow code⟩ : TriggerEventCallback)
        mEventMutex := .written }
  | flush {x} (h : x.mEventMutex = .written) :
      Dispatch mCallbacks blocks x { x with
        eventWire := x.eventWire ++ x.eventOut, eventOut := [], mEventMutex := .free }
  -- `triggerProgramCallback`, for a block that has got hold of the server's instance
  | lockPrograms {x b} (h : x.mEventMutex = .free) (hb : b ∈ blocks)
      (hfn : b.fn = .ProgramCallback) :
      Dispatch mCallbacks blocks x { x with
        mEventMutex := .program b.ID
        triggers := x.triggers ++ [.program b.number] }
  | announceProgram {x callbackID} (h : x.mEventMutex = .program callbackID) :
      Dispatch mCallbacks blocks x { x with
        eventOut := x.eventOut ++ packet (⟨callbackID.toUInt32⟩ : CallbackTriggerPacket)
        mEventMutex := .free }
  | spill {x a b} (h : x.eventOut = a ++ b) :
      Dispatch mCallbacks blocks x { x with eventWire := x.eventWire ++ a, eventOut := b }
  -- `HandleCallbacks`
  | readIndex {x rest} (h : x.reader = .waiting) (p : CallbackTriggerPacket)
      (htype : x.eventWire.head? = some PacketType.callbackTrigger.toByte)
      (hread : ReadsPacket x.eventWire p rest) :
      Dispatch mCallbacks blocks x { x with eventWire := rest, reader := .indexed p.mData }
  | unexpected {x b} (h : x.reader = .waiting) (hhead : x.eventWire.head? = some b)
      (htype : b ≠ PacketType.callbackTrigger.toByte) :
      Dispatch mCallbacks blocks x { x with reader := .stopped }
  | lockCallbacks {x index} (h : x.reader = .indexed index) :
      Dispatch mCallbacks blocks x { x with reader := .locked index }
  | invalid {x index} (h : x.reader = .locked index)
      (hindex : mCallbacks.length ≤ index.toNat) :
      Dispatch mCallbacks blocks x { x with reader := .waiting }
  -- `EventCallback::trigger`
  | readCode {x index callBack rest} (h : x.reader = .locked index)
      (hindex : mCallbacks[index.toNat]? = some callBack)
      (hfn : fnOf callBack.callback = .EventCallback) (p : TriggerEventCallback)
      (hread : ReadsPacket x.eventWire p rest) :
      Dispatch mCallbacks blocks x
        { x with eventWire := rest, reader := .received callBack p.mData }
  | throws {x index callBack b} (h : x.reader = .locked index)
      (hindex : mCallbacks[index.toNat]? = some callBack)
      (hfn : fnOf callBack.callback = .EventCallback) (hhead : x.eventWire.head? = some b)
      (htype : b = PacketType.error.toByte ∨ b = PacketType.terminate.toByte) :
      Dispatch mCallbacks blocks x { x with reader := .stopped }
  | invokeEvent {x callBack code} (h : x.reader = .received callBack code) :
      Dispatch mCallbacks blocks x { x with
        invoked := x.invoked ++ [⟨callBack, callOf code callBack.callback⟩], reader := .waiting }
  -- `ProgramCallback::trigger`
  | invokeProgram {x index callBack} (h : x.reader = .locked index)
      (hindex : mCallbacks[index.toNat]? = some callBack)
      (hfn : fnOf callBack.callback = .ProgramCallback) :
      Dispatch mCallbacks blocks x { x with
        invoked := x.invoked ++ [⟨callBack, callOf 0 callBack.callback⟩], reader := .waiting }

/-- Nothing has been triggered. -/
def noEvents : Events := ⟨[], .free, [], [], .waiting, []⟩

/-! ### What holds of it -/

/-- The bytes behind the reader: on the wire, in the buffer, and those still to be written. -/
def Events.unread (x : Events) : Bytes := x.eventWire ++ x.eventOut ++ x.mEventMutex.toWrite

/-- The invocation that a trigger stands for. -/
def Trigger.invocation (mCallbacks : List CallbackObject) (t : Trigger) : Option Invocation :=
  mCallbacks[t.number]?.map fun callBack => ⟨callBack, callOf t.code callBack.callback⟩

/-- What the reader has still to read, when the triggers `rest` are not dispatched. -/
def Reading (mCallbacks : List CallbackObject) (x : Events) (rest : List Trigger) : Prop :=
  match x.reader with
  | .waiting => x.unread = rest.flatMap Trigger.message
  | .indexed index | .locked index => ∃ t ts, rest = t :: ts ∧
      index = (UInt16.ofNat t.number).toUInt32 ∧
      x.unread = t.payload ++ ts.flatMap Trigger.message
  | .received callBack code => ∃ t ts, rest = t :: ts ∧
      t.invocation mCallbacks = some ⟨callBack, callOf code callBack.callback⟩ ∧
      x.unread = ts.flatMap Trigger.message
  | .stopped => False

/-- The state of the event stream: the first triggers have been dispatched, and the others are what
the reader is going to find. -/
structure Dispatching (mCallbacks : List CallbackObject) (blocks : List Block) (x : Events) :
    Prop where
  registered : ∀ t ∈ x.triggers, ∃ b ∈ blocks, b.number = t.number ∧ b.fn = t.fn
  dispatched : ∃ before rest, x.triggers = before ++ rest ∧
    x.invoked.map some = before.map (Trigger.invocation mCallbacks) ∧ Reading mCallbacks x rest

theorem dispatching_initial : Dispatching [] [] noEvents where
  registered _ ht := absurd ht List.not_mem_nil
  dispatched := ⟨[], [], rfl, rfl, rfl⟩

section Dispatching

variable {cs : List CallbackObject} {bs : List Block} {x y : Events}

/-- Later callbacks do not change what a trigger stands for. -/
theorem Trigger.invocation_mono {cs' : List CallbackObject} {t : Trigger} (h : t.number < cs.length)
    (hle : cs <+: cs') : t.invocation cs' = t.invocation cs := by
  obtain ⟨more, rfl⟩ := hle
  rw [invocation, invocation, List.getElem?_append_left h]

theorem Dispatching.mono {cs' : List CallbackObject} {bs' : List Block} (h : Dispatching cs bs x)
    (hnames : ∀ b ∈ bs, Names cs b) (hcs : cs <+: cs') (hbs : bs <+: bs') :
    Dispatching cs' bs' x := by
  have hsame : ∀ t ∈ x.triggers, t.invocation cs' = t.invocation cs := by
    intro t ht
    obtain ⟨b, hb, hnumber, -⟩ := h.registered t ht
    refine Trigger.invocation_mono ?_ hcs
    rw [← hnumber]
    exact (hnames b hb).number_lt
  refine ⟨fun t ht => ?_, ?_⟩
  · obtain ⟨b, hb, ht⟩ := h.registered t ht
    exact ⟨b, hbs.subset hb, ht⟩
  obtain ⟨before, rest, hsplit, hdone, hread⟩ := h.dispatched
  refine ⟨before, rest, hsplit, ?_, ?_⟩
  · rw [hdone]
    refine List.map_congr_left fun t ht => (hsame t ?_).symm
    rw [hsplit]
    exact List.mem_append_left _ ht
  · rw [Reading] at hread ⊢
    split at hread
    · exact hread
    · exact hread
    · exact hread
    · obtain ⟨t, ts, rfl, hcall, hunread⟩ := hread
      refine ⟨t, ts, rfl, ?_, hunread⟩
      rw [hsame t (by rw [hsplit]; exact List.mem_append_right _ List.mem_cons_self)]
      exact hcall
    · exact hread

/-- Writing, flushing and spilling move bytes from what is to be written to the wire. -/
theorem Dispatching.of_unread (h : Dispatching cs bs x) (htriggers : y.triggers = x.triggers)
    (hinvoked : y.invoked = x.invoked) (hreader : y.reader = x.reader)
    (hunread : y.unread = x.unread) : Dispatching cs bs y := by
  obtain ⟨before, rest, hsplit, hdone, hread⟩ := h.dispatched
  refine ⟨?_, before, rest, htriggers.trans hsplit, ?_, ?_⟩
  · rw [htriggers]
    exact h.registered
  · rw [hinvoked, hdone]
  · rw [Reading] at hread ⊢
    rw [hreader, hunread]
    exact hread

/-- A new trigger is what the reader finds last. -/
theorem Dispatching.concat (h : Dispatching cs bs x) {t : Trigger} {b : Block} (hb : b ∈ bs)
    (hnumber : b.number = t.number) (hfn : b.fn = t.fn) (htriggers : y.triggers = x.triggers ++ [t])
    (hinvoked : y.invoked = x.invoked) (hreader : y.reader = x.reader)
    (hunread : y.unread = x.unread ++ t.message) : Dispatching cs bs y := by
  obtain ⟨before, rest, hsplit, hdone, hread⟩ := h.dispatched
  refine ⟨fun s hs => ?_, before, rest ++ [t], ?_, ?_, ?_⟩
  · rw [htriggers] at hs
    rcases List.mem_append.mp hs with hs | hs
    · exact h.registered s hs
    · rw [List.mem_singleton.mp hs]
      exact ⟨b, hb, hnumber, hfn⟩
  · rw [htriggers, hsplit, List.append_assoc]
  · rw [hinvoked, hdone]
  · have hlast : ∀ ts : List Trigger,
        (ts ++ [t]).flatMap Trigger.message = ts.flatMap Trigger.message ++ t.message :=
      fun ts => by rw [List.flatMap_append, List.flatMap_singleton]
    rw [Reading] at hread ⊢
    rw [hreader]
    split at hread
    · rw [hunread, hread, hlast]
    · obtain ⟨s, ts, rfl, hindex, hx⟩ := hread
      exact ⟨s, ts ++ [t], rfl, hindex, by rw [hunread, hx, hlast, List.append_assoc]⟩
    · obtain ⟨s, ts, rfl, hindex, hx⟩ := hread
      exact ⟨s, ts ++ [t], rfl, hindex, by rw [hunread, hx, hlast, List.append_assoc]⟩
    · obtain ⟨s, ts, rfl, hcall, hx⟩ := hread
      exact ⟨s, ts ++ [t], rfl, hcall, by rw [hunread, hx, hlast]⟩
    · exact hread

/-- The reader finds nothing on a stream on which nothing is to come. -/
theorem exists_cons_of_head {rest : List Trigger} {b : UInt8}
    (h : x.unread = rest.flatMap Trigger.message) (hb : x.eventWire.head? = some b) :
    ∃ t ts, rest = t :: ts ∧
      x.eventWire ++ (x.eventOut ++ x.mEventMutex.toWrite) =
        packet (⟨(UInt16.ofNat t.number).toUInt32⟩ : CallbackTriggerPacket) ++
          (t.payload ++ ts.flatMap Trigger.message) := by
  rw [Events.unread, List.append_assoc] at h
  cases rest with
  | nil =>
    rw [List.flatMap_nil, List.append_eq_nil_iff] at h
    rw [h.1] at hb
    cases hb
  | cons t ts =>
    refine ⟨t, ts, rfl, ?_⟩
    rw [h, List.flatMap_cons, Trigger.message, List.append_assoc]

/-- The index that the reader has is that of the callback that is triggered. -/
theorem Dispatching.index (h : Dispatching cs bs x) (hnames : ∀ b ∈ bs, Names cs b)
    (hbound : ∀ b ∈ bs, b.number < 65536) {index : UInt32} (hreader : x.reader = .locked index) :
    ∃ before t ts callBack, x.triggers = before ++ t :: ts ∧
      x.invoked.map some = before.map (Trigger.invocation cs) ∧
      x.unread = t.payload ++ ts.flatMap Trigger.message ∧
      cs[index.toNat]? = some callBack ∧ fnOf callBack.callback = t.fn ∧
      t.invocation cs = some ⟨callBack, callOf t.code callBack.callback⟩ := by
  obtain ⟨before, rest, hsplit, hdone, hread⟩ := h.dispatched
  simp only [Reading, hreader] at hread
  obtain ⟨t, ts, rfl, rfl, hunread⟩ := hread
  obtain ⟨b, hb, hnumber, hfn⟩ :=
    h.registered t (by rw [hsplit]; exact List.mem_append_right _ List.mem_cons_self)
  obtain ⟨-, callBack, hcallback, hkind⟩ := hnames b hb
  have hlt := hbound b hb
  rw [hnumber] at hcallback hlt
  refine ⟨before, t, ts, callBack, hsplit, hdone, hunread, ?_, hkind.trans hfn, ?_⟩
  · rw [EventStream.toNat_index hlt, hcallback]
  · rw [Trigger.invocation, hcallback]
    rfl

/-- **Every step dispatches the triggers in order**, if the driver has accepted no registrations but
the first 65536. -/
theorem Dispatching.step (h : Dispatching cs bs x) (hnames : ∀ b ∈ bs, Names cs b)
    (hbound : ∀ b ∈ bs, b.number < 65536) (hxy : Dispatch cs bs x y) : Dispatching cs bs y := by
  cases hxy with
  | @lockEvents b code hfree hb hfn =>
    refine h.concat (t := .event b.number code) hb rfl hfn rfl rfl rfl ?_
    obtain ⟨hID, -⟩ := hnames b hb
    simp only [Events.unread, Triggering.toWrite, hfree, List.append_nil, Trigger.message,
      Trigger.payload, Trigger.number, hID]
  | announce hevent =>
    refine h.of_unread rfl rfl rfl ?_
    simp only [Events.unread, Triggering.toWrite, hevent, List.append_assoc]
  | write hannounced =>
    refine h.of_unread rfl rfl rfl ?_
    simp only [Events.unread, Triggering.toWrite, hannounced, List.append_assoc, List.append_nil]
  | flush hwritten =>
    refine h.of_unread rfl rfl rfl ?_
    simp only [Events.unread, Triggering.toWrite, hwritten, List.append_nil]
  | @lockPrograms b hfree hb hfn =>
    refine h.concat (t := .program b.number) hb rfl hfn rfl rfl rfl ?_
    obtain ⟨hID, -⟩ := hnames b hb
    simp only [Events.unread, Triggering.toWrite, hfree, List.append_nil, Trigger.message,
      Trigger.payload, Trigger.number, hID]
  | announceProgram hprogram =>
    refine h.of_unread rfl rfl rfl ?_
    simp only [Events.unread, Triggering.toWrite, hprogram, List.append_assoc, List.append_nil]
  | spill hout =>
    refine h.of_unread rfl rfl rfl ?_
    simp only [Events.unread, hout, List.append_assoc]
  | readIndex hwaiting p htype hread =>
    obtain ⟨before, rest, hsplit, hdone, hreading⟩ := h.dispatched
    simp only [Reading, hwaiting] at hreading
    obtain ⟨t, ts, rfl, hwire⟩ := exists_cons_of_head hreading htype
    obtain ⟨rfl, hrest⟩ := hread.of_append hwire
    refine ⟨h.registered, before, t :: ts, hsplit, hdone, t, ts, rfl, rfl, ?_⟩
    rw [Events.unread, List.append_assoc]
    exact hrest
  | unexpected hwaiting hhead htype =>
    obtain ⟨before, rest, -, -, hreading⟩ := h.dispatched
    simp only [Reading, hwaiting] at hreading
    obtain ⟨t, ts, -, hwire⟩ := exists_cons_of_head hreading hhead
    exact absurd (EventStream.head_of_append hhead hwire) htype
  | lockCallbacks hindexed =>
    obtain ⟨before, rest, hsplit, hdone, hreading⟩ := h.dispatched
    simp only [Reading, hindexed] at hreading
    exact ⟨h.registered, before, rest, hsplit, hdone, hreading⟩
  | invalid hlocked hindex =>
    obtain ⟨-, -, -, callBack, -, -, -, hcallback, -⟩ := h.index hnames hbound hlocked
    exact absurd (List.getElem?_eq_some_iff.mp hcallback).1 (Nat.not_lt.mpr hindex)
  | readCode hlocked hindex hfn p hread =>
    obtain ⟨before, t, ts, callBack, hsplit, hdone, hunread, hcallback, hkind, hcall⟩ :=
      h.index hnames hbound hlocked
    obtain rfl := Option.some.inj (hcallback.symm.trans hindex)
    rw [hkind] at hfn
    cases t with
    | program => cases hfn
    | event n code =>
      rw [Events.unread, List.append_assoc] at hunread
      obtain ⟨rfl, hrest⟩ := hread.of_append hunread
      refine ⟨h.registered, before, .event n code :: ts, hsplit, hdone, .event n code, ts, rfl,
        hcall, ?_⟩
      rw [Events.unread, List.append_assoc]
      exact hrest
  | throws hlocked hindex hfn hhead htype =>
    obtain ⟨before, t, ts, callBack, -, -, hunread, hcallback, hkind, -⟩ :=
      h.index hnames hbound hlocked
    obtain rfl := Option.some.inj (hcallback.symm.trans hindex)
    rw [hkind] at hfn
    cases t with
    | program => cases hfn
    | event n code =>
      rw [Events.unread, List.append_assoc] at hunread
      have hty := EventStream.head_of_append hhead hunread
      rcases htype with rfl | rfl
      · exact absurd (PacketType.toByte_injective hty) (by decide)
      · exact absurd (PacketType.toByte_injective hty) (by decide)
  | invokeEvent hreceived =>
    obtain ⟨before, rest, hsplit, hdone, hreading⟩ := h.dispatched
    simp only [Reading, hreceived] at hreading
    obtain ⟨t, ts, rfl, hcall, hunread⟩ := hreading
    refine ⟨h.registered, before ++ [t], ts, ?_, ?_, hunread⟩
    · rw [List.append_assoc]
      exact hsplit
    · rw [List.map_append, List.map_append, hdone, List.map_singleton, List.map_singleton, hcall]
  | invokeProgram hlocked hindex hfn =>
    obtain ⟨before, t, ts, callBack, hsplit, hdone, hunread, hcallback, hkind, hcall⟩ :=
      h.index hnames hbound hlocked
    obtain rfl := Option.some.inj (hcallback.symm.trans hindex)
    rw [hkind] at hfn
    cases t with
    | event => cases hfn
    | program n =>
      refine ⟨h.registered, before ++ [.program n], ts, ?_, ?_, hunread⟩
      · rw [List.append_assoc]
        exact hsplit
      · rw [List.map_append, List.map_append, hdone, List.map_singleton, List.map_singleton, hcall]
        rfl

end Dispatching

/-! ## Both sides -/

structure System where
  connection : Registrations
  stream : Events
  deriving DecidableEq

/-- A connection with an open event stream, before any registration. -/
def initial : System := ⟨noRegistrations, noEvents⟩

/-- A step of one of the sides. -/
inductive Step : System → System → Prop
  | register {x c} (h : Register (¬ x.stream.reader.HoldsMutex) x.connection c) :
      Step x { x with connection := c }
  | dispatch {x e} (h : Dispatch x.connection.mCallbacks x.connection.blocks x.stream e) :
      Step x { x with stream := e }

/-- The states that some run leads to. -/
def Reachable (x : System) : Prop := Relation.ReflTransGen Step initial x

section Runs

variable {x y : System}

/-- The driver has accepted no registrations but the first 65536. -/
def Narrow (x : System) : Prop := ∀ b ∈ x.connection.blocks, b.number < 65536

theorem Step.blocks_prefix (h : Step x y) : x.connection.blocks <+: y.connection.blocks := by
  cases h with
  | register h => exact h.blocks_prefix
  | dispatch => exact List.prefix_rfl

theorem Narrow.of_step (hy : Narrow y) (h : Step x y) : Narrow x :=
  fun b hb => hy b (h.blocks_prefix.subset hb)

/-- **Registrations stay in order**, in every run. -/
theorem Reachable.registering (hx : Reachable x) : Registering x.connection := by
  induction hx with
  | refl => exact registering_initial
  | tail _ hstep ih =>
    cases hstep with
    | register h => exact ih.step h
    | dispatch => exact ih

theorem Registering.names_blocks {c : Registrations} (h : Registering c) :
    ∀ b ∈ c.blocks, Names c.mCallbacks b :=
  fun b hb => h.names b (List.mem_append_left _ hb)

/-- **Triggers are dispatched in order**, in every run in which the numbers fit. -/
theorem Reachable.dispatching (hx : Reachable x) (hnarrow : Narrow x) :
    Dispatching x.connection.mCallbacks x.connection.blocks x.stream := by
  induction hx with
  | refl => exact dispatching_initial
  | @tail x y hx hstep ih =>
    have hbefore := hnarrow.of_step hstep
    have hnames := (Reachable.registering hx).names_blocks
    cases hstep with
    | register h => exact (ih hbefore).mono hnames h.mCallbacks_prefix h.blocks_prefix
    | dispatch h => exact (ih hbefore).step hnames hbefore h

/-! ## Identities -/

/-- Callbacks are identified: the registrations that the driver has accepted have different IDs,
each ID selects the callback of its registration, and the callbacks that have been selected are
those of the triggers, for which the dispatcher keeps listening. -/
structure Identified (x : System) : Prop where
  distinct : (x.connection.blocks.map Block.ID).Nodup
  selects : ∀ b ∈ x.connection.blocks, ∃ callBack,
    x.connection.mCallbacks[b.number]? = some callBack ∧
      x.connection.mCallbacks[b.ID.toUInt32.toNat]? = some callBack
  selected : x.stream.invoked.map (fun i => some i.callBack) <+:
    x.stream.triggers.map fun t => x.connection.mCallbacks[t.number]?
  listens : x.stream.reader ≠ .stopped

/-- What an ID selects is the callback of the registration only if the number fits. -/
theorem Registering.number_lt {c : Registrations} (h : Registering c) {b : Block}
    (hb : b ∈ c.blocks) {callBack : CallbackObject}
    (hnumber : c.mCallbacks[b.number]? = some callBack)
    (hselected : c.mCallbacks[b.ID.toUInt32.toNat]? = some callBack) : b.number < 65536 := by
  obtain ⟨hID, -⟩ := h.names_blocks b hb
  have hnodup : c.mCallbacks.Nodup := h.ordered.imp fun hlt heq => by
    rw [heq] at hlt
    exact absurd hlt (lt_irrefl _)
  obtain ⟨hlt, hget⟩ := List.getElem?_eq_some_iff.mp hnumber
  obtain ⟨hlt', hget'⟩ := List.getElem?_eq_some_iff.mp hselected
  have hsame := (List.getElem_inj hnodup).mp (hget.trans hget'.symm)
  rw [hID, UInt16.toNat_toUInt32, UInt16.toNat_ofNat'] at hsame
  rw [hsame]
  exact Nat.mod_lt _ (by decide)

theorem Identified.narrow (hx : Reachable x) (h : Identified x) : Narrow x := by
  intro b hb
  obtain ⟨callBack, hnumber, hselected⟩ := h.selects b hb
  exact hx.registering.number_lt hb hnumber hselected

/-- **Callbacks are identified in exactly those states** in which the driver has accepted no
registrations but the first 65536. -/
theorem identified_iff (hx : Reachable x) : Identified x ↔ Narrow x := by
  refine ⟨Identified.narrow hx, fun hnarrow => ⟨?_, fun b hb => ?_, ?_, fun hstopped => ?_⟩⟩
  · have hascending := (List.pairwise_append.mp hx.registering.ascending).1
    rw [List.Nodup, List.pairwise_map]
    refine hascending.imp_of_mem fun {b c} hb hc hlt heq => ?_
    obtain ⟨hb', -⟩ := hx.registering.names_blocks b hb
    obtain ⟨hc', -⟩ := hx.registering.names_blocks c hc
    rw [hb', hc'] at heq
    have hnumbers := congrArg (fun id => id.toUInt32.toNat) heq
    rw [EventStream.toNat_index (hnarrow b hb), EventStream.toNat_index (hnarrow c hc)] at hnumbers
    exact absurd hnumbers hlt.ne
  · obtain ⟨hID, callBack, hnumber, -⟩ := hx.registering.names_blocks b hb
    refine ⟨callBack, hnumber, ?_⟩
    rw [hID, EventStream.toNat_index (hnarrow b hb), hnumber]
  · obtain ⟨before, rest, hsplit, hdone, -⟩ := (hx.dispatching hnarrow).dispatched
    have hcallbacks := congrArg (List.map (Option.map Invocation.callBack)) hdone
    rw [List.map_map, List.map_map] at hcallbacks
    rw [hsplit, List.map_append]
    refine ⟨rest.map fun t => x.connection.mCallbacks[t.number]?, ?_⟩
    congr 1
    refine hcallbacks.trans (List.map_congr_left fun t _ => ?_)
    rw [Function.comp_apply, Trigger.invocation, Option.map_map]
    cases x.connection.mCallbacks[t.number]? <;> rfl
  · obtain ⟨_, _, -, -, hreading⟩ := (hx.dispatching hnarrow).dispatched
    simp only [Reading, hstopped] at hreading

end Runs

/-! ### One callback after the other -/

/-- A callback for an event. -/
def eventCallback : Callback := .event ⟨0, 5, .event⟩ 1 2

/-- A connection on which the callback has been registered that many times. -/
def registrations (n : ℕ) : Registrations where
  mCallbacks := (List.range n).map fun k => ⟨k, eventCallback⟩
  made := n
  api := .free
  up := []
  down := []
  server := .waiting
  blocks := (List.range n).map fun k => ⟨.EventCallback, UInt16.ofNat k, k⟩

theorem map_range_succ {α : Type} (f : ℕ → α) (n : ℕ) :
    (List.range (n + 1)).map f = (List.range n).map f ++ [f n] := by
  rw [List.range_succ, List.map_append, List.map_singleton]

theorem reachable_registrations (n : ℕ) : Reachable ⟨registrations n, noEvents⟩ := by
  induction n with
  | zero => exact .refl
  | succ n ih =>
    let P : CompileProgram := ⟨0, [], [], [], [], false, 0⟩
    have hrun := ih.tail (Step.register (Register.enter rfl eventCallback 0 P))
    replace hrun := hrun.tail (Step.register (Register.registerCallback rfl not_false))
    replace hrun := hrun.tail (Step.register (Register.request rfl))
    replace hrun := hrun.tail (Step.register (Register.read rfl rfl))
    replace hrun := hrun.tail (Step.register (Register.accept rfl))
    replace hrun := hrun.tail (Step.register (Register.reply rfl))
    replace hrun := hrun.tail (Step.register (Register.leave rfl rfl))
    have hID : (UInt32.ofNat (registrations n).mCallbacks.length).toUInt16 = UInt16.ofNat n := by
      rw [registrations, List.length_map, List.length_range, UInt32.toUInt16_ofNat']
    have hnumber : ((registrations n).mCallbacks ++
        [(⟨n, eventCallback⟩ : CallbackObject)]).length - 1 = n := by
      rw [registrations, List.length_append, List.length_map, List.length_range,
        List.length_singleton, Nat.add_sub_cancel]
    have hblock : Sent.block ⟨requestFor 0 P
        (UInt32.ofNat (registrations n).mCallbacks.length).toUInt16 eventCallback,
        ((registrations n).mCallbacks ++ [(⟨n, eventCallback⟩ : CallbackObject)]).length - 1⟩ =
          ⟨.EventCallback, UInt16.ofNat n, n⟩ := by
      rw [Sent.block_requestFor, hID, hnumber]
      rfl
    have hnext : registrations (n + 1) = { registrations n with
        mCallbacks := (registrations n).mCallbacks ++ [⟨n, eventCallback⟩]
        made := n + 1
        blocks := (registrations n).blocks ++ [⟨.EventCallback, UInt16.ofNat n, n⟩] } := by
      rw [registrations, map_range_succ, map_range_succ]
      rfl
    rw [hnext, ← hblock]
    exact hrun

theorem latest_mem_blocks (n : ℕ) :
    (⟨.EventCallback, UInt16.ofNat n, n⟩ : Block) ∈ (registrations (n + 1)).blocks :=
  List.mem_map.mpr ⟨n, List.mem_range.mpr (Nat.lt_succ_self n), rfl⟩

/-- The first of them has been triggered, and dispatched. -/
def dispatched (code : Int32) : System :=
  ⟨registrations 1, ⟨[.event 0 code], .free, [], [], .waiting,
    [⟨⟨0, eventCallback⟩, callOf (narrow code) eventCallback⟩]⟩⟩

theorem reachable_dispatched (code : Int32) : Reachable (dispatched code) := by
  have hread {P : Type} [Packet P] [Wire P] [LawfulWire P] (p : P)
      (hty : Ordinary (Packet.mType P)) : ReadsPacket ([] ++ packet p) p [] := by
    have h := EventStream.readsPacket_packet hty p []
    rwa [List.append_nil] at h
  have hrun := reachable_registrations 1
  replace hrun := hrun.tail (Step.dispatch (Dispatch.lockEvents code rfl List.mem_cons_self rfl))
  replace hrun := hrun.tail (Step.dispatch (Dispatch.announce rfl))
  replace hrun := hrun.tail (Step.dispatch (Dispatch.write rfl))
  replace hrun := hrun.tail (Step.dispatch (Dispatch.flush rfl))
  replace hrun := hrun.tail (Step.dispatch (Dispatch.readIndex rfl ⟨0⟩ rfl
    (EventStream.readsPacket_packet (by decide) (⟨0⟩ : CallbackTriggerPacket) _)))
  replace hrun := hrun.tail (Step.dispatch (Dispatch.lockCallbacks rfl))
  replace hrun := hrun.tail (Step.dispatch (Dispatch.readCode rfl rfl rfl ⟨narrow code⟩
    (hread (⟨narrow code⟩ : TriggerEventCallback) (by decide))))
  exact hrun.tail (Step.dispatch (Dispatch.invokeEvent rfl))

theorem identified_iff_dispatched :
    Reachable (dispatched 0) ∧ Identified (dispatched 0) := by
  refine ⟨reachable_dispatched 0, (identified_iff (reachable_dispatched 0)).mpr fun b hb => ?_⟩
  rw [List.mem_singleton.mp hb]
  decide

/-- The callback that is registered last has the ID of the first one. -/
theorem callback_ids_wrap : Reachable ⟨registrations 65537, noEvents⟩ ∧
    ¬ Identified ⟨registrations 65537, noEvents⟩ := by
  refine ⟨reachable_registrations 65537, fun h => ?_⟩
  have hnarrow := Identified.narrow (reachable_registrations 65537) h
  exact absurd (hnarrow _ (latest_mem_blocks 65536)) (lt_irrefl _)

end CallbackIDs
end RemoteCL

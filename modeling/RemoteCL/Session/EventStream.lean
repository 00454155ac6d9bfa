import RemoteCL.Client.Connection
import RemoteCL.Common.Exchange
import Mathlib.Logic.Relation

/-!
# Callbacks over the event stream

A callback is registered over the connection and triggered over the event stream.  The two have
nothing in common but an index: `clSetEventCallback` puts a callback object at the end of
`mCallbacks` and sends its position, narrowed to 16 bits; the server keeps the number in a
`CallbackBlock` that it hands to the driver; and when the driver calls back, the number returns in
a `CallbackTrigger` packet, followed by a packet that the callback object reads itself.

The parties are the application's threads, of which one at a time holds the connection, the
server's loop, the driver's threads, of which one at a time holds `mEventMutex`, and the thread of
the client that reads the event stream.  They run in any order.  What is written to the event
stream is buffered until it is flushed, and may spill onto the wire at any earlier time, also in
the middle of a packet.

## The invariant

Registrations are sequential, because a call keeps the connection until it is answered, and each
of them adds one callback.  So the callback of the `k`-th request is the `k`-th callback, and its
number comes back as `k` as long as there are fewer than 65536 of them (`Registering`).  The bytes
that are unread on the event stream, together with those that the thread in `triggerEventCallback`
has still to write, spell the triggers that have not been dispatched (`Dispatching`).
-/

namespace RemoteCL
namespace EventStream

open ByteStream Client

/-! ## The parties -/

/-- A callback object of the client.  `addr` tells it from all others. -/
structure CallbackObject where
  addr : ℕ
  callback : Callback
  deriving DecidableEq

/-- Where the call of `clSetEventCallback` is that holds the connection, if there is one. -/
inductive ApiCall where
  /-- Nobody holds the connection. -/
  | free
  /-- The connection is locked, and the callback object made. -/
  | entered (callBack : CallbackObject) (event : Handle) (type : UInt32)
  | registered (callBack : CallbackObject) (event : Handle) (type callbackID : UInt32)
  /-- The request has been sent. -/
  | requested
  deriving DecidableEq

/-- Where the server is in `registerEventCallback`. -/
inductive Registration where
  | waiting
  /-- The packet has been read: the driver is called next. -/
  | calling (P : RegisterEventCallback)
  /-- The driver has accepted. -/
  | accepted
  deriving DecidableEq

/-- What the server hands to the driver. -/
structure CallbackBlock where
  ID : IDType
  deriving DecidableEq

/-- Where the thread is in `triggerEventCallback` that holds `mEventMutex`, if there is one. -/
inductive Triggering where
  | free
  | locked (callbackID : IDType) (code : Int32)
  | announced (code : Int32)
  | written
  deriving DecidableEq

/-- Where the reader of the event stream is in `HandleCallbacks`. -/
inductive EventReader where
  | waiting
  | indexed (index : UInt32)
  /-- `mCallbackMutex` is locked. -/
  | locked (index : UInt32)
  /-- The callback object has read its packet, and calls the user's function next. -/
  | received (callBack : CallbackObject) (code : IDType)
  | stopped
  deriving DecidableEq

/-- The reader holds `mCallbackMutex`. -/
def EventReader.HoldsMutex : EventReader → Prop
  | locked _ | received _ _ => True
  | waiting | indexed _ | stopped => False

/-- The driver has called back: for the block of that number, with that code. -/
structure Trigger where
  block : ℕ
  code : Int32
  deriving DecidableEq

/-- All parties, and what is on the wire.  Three of the fields only keep track: `calls` has the
callback objects in the order in which their requests were sent, `triggers` has the calls of
`triggerEventCallback` in the order in which they took the mutex, and `invoked` has the callback
objects whose function has been called. -/
structure System where
  mCallbacks : List CallbackObject
  made : ℕ
  api : ApiCall
  calls : List CallbackObject
  up : Bytes
  down : Bytes
  server : Registration
  blocks : List CallbackBlock
  triggers : List Trigger
  mEventMutex : Triggering
  eventOut : Bytes
  eventWire : Bytes
  reader : EventReader
  invoked : List CallbackObject
  deriving DecidableEq

/-- A connection with an open event stream, before any registration. -/
def initial : System :=
  { mCallbacks := [], made := 0, api := .free, calls := [], up := [], down := [],
    server := .waiting, blocks := [], triggers := [], mEventMutex := .free, eventOut := [],
    eventWire := [], reader := .waiting, invoked := [] }

/-! ## Steps -/

/-- `PacketStream::read` finds the packet `p`, and leaves `rest`. -/
def ReadsPacket {P : Type} [Wire P] (w : Bytes) (p : P) (rest : Bytes) : Prop :=
  ∃ b v, w = b :: v ∧ b ≠ PacketType.error.toByte ∧ b ≠ PacketType.terminate.toByte ∧
    (Wire.dec : Reader P).run v = some (p, rest)

/-- A `cl_int` in a packet for an `IDType`. -/
def narrow (code : Int32) : IDType := code.toUInt32.toUInt16

/-- One step of one of the parties. -/
inductive Step : System → System → Prop
  -- `clSetEventCallback`
  | enter {x} (h : x.api = .free) (event : Handle) (type : UInt32) (pfn_notify user_data : ℕ) :
      Step x { x with
        api := .entered ⟨x.made, .event event pfn_notify user_data⟩ event type
        made := x.made + 1 }
  | registerCallback {x callBack event type} (h : x.api = .entered callBack event type)
      (hmutex : ¬ x.reader.HoldsMutex) :
      Step x { x with
        mCallbacks := x.mCallbacks ++ [callBack]
        api := .registered callBack event type (UInt32.ofNat x.mCallbacks.length) }
  | request {x callBack event type callbackID}
      (h : x.api = .registered callBack event type callbackID) :
      Step x { x with
        up := x.up ++
          packet (⟨GetID event, callbackID.toUInt16, type⟩ : RegisterEventCallback)
        api := .requested
        calls := x.calls ++ [callBack] }
  | leave {x rest} (h : x.api = .requested) (p : SuccessPacket)
      (hread : ReadsPacket x.down p rest) : Step x { x with down := rest, api := .free }
  -- `registerEventCallback`
  | read {x P rest} (h : x.server = .waiting)
      (htype : x.up.head? = some PacketType.registerEventCallback.toByte)
      (hread : ReadsPacket x.up P rest) :
      Step x { x with up := rest, server := .calling P }
  | accept {x P} (h : x.server = .calling P) :
      Step x { x with blocks := x.blocks ++ [⟨P.mCallbackID⟩], server := .accepted }
  | reply {x} (h : x.server = .accepted) :
      Step x { x with down := x.down ++ packet (⟨⟩ : SuccessPacket), server := .waiting }
  -- `triggerEventCallback`, called by the driver for one of the blocks it has been given
  | lockEvents {x k block} (code : Int32) (h : x.mEventMutex = .free)
      (hblock : x.blocks[k]? = some block) :
      Step x { x with
        mEventMutex := .locked block.ID code
        triggers := x.triggers ++ [⟨k, code⟩] }
  | announce {x callbackID code} (h : x.mEventMutex = .locked callbackID code) :
      Step x { x with
        eventOut := x.eventOut ++ packet (⟨callbackID.toUInt32⟩ : CallbackTriggerPacket)
        mEventMutex := .announced code }
  | write {x code} (h : x.mEventMutex = .announced code) :
      Step x { x with
        eventOut := x.eventOut ++ packet (⟨narrow code⟩ : TriggerEventCallback)
        mEventMutex := .written }
  | flush {x} (h : x.mEventMutex = .written) :
      Step x { x with
        eventWire := x.eventWire ++ x.eventOut, eventOut := [], mEventMutex := .free }
  | spill {x a b} (h : x.eventOut = a ++ b) :
      Step x { x with eventWire := x.eventWire ++ a, eventOut := b }
  -- `HandleCallbacks`
  | readIndex {x rest} (h : x.reader = .waiting) (p : CallbackTriggerPacket)
      (htype : x.eventWire.head? = some PacketType.callbackTrigger.toByte)
      (hread : ReadsPacket x.eventWire p rest) :
      Step x { x with eventWire := rest, reader := .indexed p.mData }
  | unexpected {x b} (h : x.reader = .waiting) (hhead : x.eventWire.head? = some b)
      (htype : b ≠ PacketType.callbackTrigger.toByte) : Step x { x with reader := .stopped }
  | lockCallbacks {x index} (h : x.reader = .indexed index) :
      Step x { x with reader := .locked index }
  | invalid {x index} (h : x.reader = .locked index)
      (hindex : x.mCallbacks.length ≤ index.toNat) : Step x { x with reader := .waiting }
  | readCode {x index callBack rest} (h : x.reader = .locked index)
      (hindex : x.mCallbacks[index.toNat]? = some callBack) (p : TriggerEventCallback)
      (hread : ReadsPacket x.eventWire p rest) :
      Step x { x with eventWire := rest, reader := .received callBack p.mData }
  | throws {x index b} (h : x.reader = .locked index) (hhead : x.eventWire.head? = some b)
      (htype : b = PacketType.error.toByte ∨ b = PacketType.terminate.toByte) :
      Step x { x with reader := .stopped }
  | invoke {x callBack code} (h : x.reader = .received callBack code) :
      Step x { x with invoked := x.invoked ++ [callBack], reader := .waiting }

/-- The states that some run leads to. -/
def Reachable (x : System) : Prop := Relation.ReflTransGen Step initial x

/-! ## Reading packets off the stream -/

/-- What a reader finds does not depend on what has not arrived yet. -/
theorem ReadsPacket.of_append {P : Type} [Packet P] [Wire P] [LawfulWire P] {w rest more u : Bytes}
    {p q : P} (h : ReadsPacket w p rest) (hw : w ++ more = packet q ++ u) :
    p = q ∧ rest ++ more = u := by
  obtain ⟨b, v, rfl, -, -, hrun⟩ := h
  rw [packet, PacketStream.frame, List.cons_append, List.cons_append, List.cons.injEq] at hw
  have hmore := Reader.run_append hrun more
  rw [hw.2, LawfulWire.reads_dec q u, Option.some.injEq, Prod.mk.injEq] at hmore
  exact ⟨hmore.1.symm, hmore.2.symm⟩

/-- On a stream with one packet there is nothing else to be found. -/
theorem ReadsPacket.eq {P : Type} [Packet P] [Wire P] [LawfulWire P] {rest : Bytes} {p q : P}
    (h : ReadsPacket (packet q) p rest) : p = q ∧ rest = [] := by
  have hw : packet q ++ [] = packet q ++ [] := rfl
  obtain ⟨hp, hrest⟩ := h.of_append hw
  rw [List.append_nil] at hrest
  exact ⟨hp, hrest⟩

/-- The first byte of a stream that starts with a packet is the packet's type. -/
theorem head_of_append {P : Type} [Packet P] [Wire P] {w more u : Bytes} {q : P} {b : UInt8}
    (hb : w.head? = some b) (hw : w ++ more = packet q ++ u) :
    b = (Packet.mType P).toByte := by
  cases w with
  | nil => exact absurd hb (by simp)
  | cons c w =>
    rw [List.head?_cons, Option.some.injEq] at hb
    rw [packet, PacketStream.frame, List.cons_append, List.cons_append, List.cons.injEq] at hw
    rw [← hb, hw.1]

/-- A read of a known packet. -/
theorem readsPacket_packet {P : Type} [Packet P] [Wire P] [LawfulWire P]
    (hty : Ordinary (Packet.mType P)) (p : P) (rest : Bytes) :
    ReadsPacket (packet p ++ rest) p rest :=
  ⟨_, _, rfl, hty.toByte_ne_error, hty.toByte_ne_terminate, LawfulWire.reads_dec p rest⟩

/-! ## The invariant -/

/-- The packet that the callback object reads. -/
def Trigger.payload (t : Trigger) : Bytes := packet (⟨narrow t.code⟩ : TriggerEventCallback)

/-- What a trigger is on the event stream. -/
def Trigger.message (t : Trigger) : Bytes :=
  packet (⟨(UInt16.ofNat t.block).toUInt32⟩ : CallbackTriggerPacket) ++ t.payload

/-- What the thread in `triggerEventCallback` has still to write. -/
def Triggering.toWrite : Triggering → Bytes
  | locked callbackID code =>
    packet (⟨callbackID.toUInt32⟩ : CallbackTriggerPacket) ++
      packet (⟨narrow code⟩ : TriggerEventCallback)
  | announced code => packet (⟨narrow code⟩ : TriggerEventCallback)
  | free | written => []

/-- The bytes behind the reader: on the wire, in the buffer, and those still to be written. -/
def System.unread (x : System) : Bytes := x.eventWire ++ x.eventOut ++ x.mEventMutex.toWrite

/-- Nothing is under way between the server and the thread that holds the connection, and every
request has been accepted. -/
def Quiet (x : System) : Prop :=
  x.up = [] ∧ x.down = [] ∧ x.server = .waiting ∧ x.blocks.length = x.calls.length

/-- The request for callback `n` is under way: it is on the wire, read, accepted, or answered. -/
def UnderWay (x : System) (n : ℕ) : Prop :=
  (∃ P : RegisterEventCallback, P.mCallbackID = UInt16.ofNat n ∧ x.down = [] ∧
      x.blocks.length = n ∧
      (x.up = packet P ∧ x.server = .waiting ∨ x.up = [] ∧ x.server = .calling P)) ∨
    (x.up = [] ∧ x.blocks.length = n + 1 ∧
      (x.down = [] ∧ x.server = .accepted ∨
        x.down = packet (⟨⟩ : SuccessPacket) ∧ x.server = .waiting))

/-- The state of the registrations: the callback of the `k`-th request is the `k`-th callback. -/
def Registering (x : System) : Prop :=
  match x.api with
  | .free | .entered _ _ _ => x.mCallbacks = x.calls ∧ Quiet x
  | .registered callBack _ _ callbackID =>
    x.mCallbacks = x.calls ++ [callBack] ∧ callbackID = UInt32.ofNat x.calls.length ∧ Quiet x
  | .requested => x.mCallbacks = x.calls ∧ ∃ n, x.calls.length = n + 1 ∧ UnderWay x n

/-- What the reader has still to read, when the triggers `rest` are not dispatched. -/
def Reading (x : System) (rest : List Trigger) : Prop :=
  match x.reader with
  | .waiting => x.unread = rest.flatMap Trigger.message
  | .indexed index | .locked index => ∃ t ts, rest = t :: ts ∧
      index = (UInt16.ofNat t.block).toUInt32 ∧
      x.unread = t.payload ++ ts.flatMap Trigger.message
  | .received callBack _ => ∃ t ts, rest = t :: ts ∧ x.calls[t.block]? = some callBack ∧
      x.unread = ts.flatMap Trigger.message
  | .stopped => False

/-- The state of the event stream: the first triggers have been dispatched, and the others are
what the reader is going to find. -/
def Dispatching (x : System) : Prop :=
  ∃ before rest, x.triggers = before ++ rest ∧
    x.invoked.map some = before.map (fun t => x.calls[t.block]?) ∧ Reading x rest

/-- The invariant. -/
structure Inv (x : System) : Prop where
  registering : Registering x
  blocks : ∀ k block, x.blocks[k]? = some block → block.ID = UInt16.ofNat k
  accepted : x.blocks.length ≤ x.calls.length
  triggers : ∀ t ∈ x.triggers, t.block < x.blocks.length
  dispatching : Dispatching x

theorem inv_initial : Inv initial where
  registering := ⟨rfl, rfl, rfl, rfl, rfl⟩
  blocks k block h := by simp [initial] at h
  accepted := Nat.le_refl _
  triggers t h := absurd h List.not_mem_nil
  dispatching := ⟨[], [], rfl, rfl, rfl⟩

/-! ## One step -/

/-- Callbacks are never taken back. -/
theorem Step.length_le {x y : System} (h : Step x y) :
    x.mCallbacks.length ≤ y.mCallbacks.length := by
  cases h with
  | registerCallback =>
    rw [List.length_append]
    omega
  | _ => exact Nat.le_refl _

/-- The client's part of a request under way is over when the server has answered. -/
theorem UnderWay.leave {x : System} {n : ℕ} (h : UnderWay x n) {p : SuccessPacket}
    {rest : Bytes} (hread : ReadsPacket x.down p rest) :
    rest = [] ∧ x.up = [] ∧ x.server = .waiting ∧ x.blocks.length = n + 1 := by
  have hnil : x.down ≠ [] := by
    obtain ⟨b, v, hbv, -⟩ := hread
    rw [hbv]
    exact List.cons_ne_nil b v
  rcases h with ⟨P, -, hdown, -⟩ | ⟨hup, hlen, ⟨hdown, -⟩ | ⟨hdown, hserver⟩⟩
  · exact absurd hdown hnil
  · exact absurd hdown hnil
  · rw [hdown] at hread
    exact ⟨hread.eq.2, hup, hserver, hlen⟩

/-- When it is not quiet, a request is under way. -/
theorem Registering.underWay {x : System} (h : Registering x) (hbusy : ¬ Quiet x) :
    x.api = .requested ∧ x.mCallbacks = x.calls ∧ ∃ n, x.calls.length = n + 1 ∧ UnderWay x n := by
  rw [Registering] at h
  split at h
  · exact absurd h.2 hbusy
  · exact absurd h.2 hbusy
  · exact absurd h.2.2 hbusy
  · exact ⟨‹_›, h⟩

/-- The server finds a request only if one is under way, and it is the client's. -/
theorem Registering.read {x : System} (h : Registering x) {P : RegisterEventCallback}
    {rest : Bytes} (hread : ReadsPacket x.up P rest) :
    x.api = .requested ∧ x.mCallbacks = x.calls ∧ rest = [] ∧ x.down = [] ∧
      x.calls.length = x.blocks.length + 1 ∧ P.mCallbackID = UInt16.ofNat x.blocks.length := by
  have hnil : x.up ≠ [] := by
    obtain ⟨b, v, hbv, -⟩ := hread
    rw [hbv]
    exact List.cons_ne_nil b v
  obtain ⟨hapi, hcalls, n, hn, hway⟩ := h.underWay fun hquiet => hnil hquiet.1
  rcases hway with ⟨Q, hQ, hdown, hlen, ⟨hup, -⟩ | ⟨hup, -⟩⟩ | ⟨hup, -⟩
  · rw [hup] at hread
    refine ⟨hapi, hcalls, hread.eq.2, hdown, by omega, ?_⟩
    rw [hread.eq.1, hQ, hlen]
  · exact absurd hup hnil
  · exact absurd hup hnil

/-- What the server has read is the client's request. -/
theorem Registering.calling {x : System} (h : Registering x) {P : RegisterEventCallback}
    (hserver : x.server = .calling P) :
    x.api = .requested ∧ x.mCallbacks = x.calls ∧ x.up = [] ∧ x.down = [] ∧
      x.calls.length = x.blocks.length + 1 ∧ P.mCallbackID = UInt16.ofNat x.blocks.length := by
  have hbusy : ¬ Quiet x := fun hquiet => by cases hquiet.2.2.1.symm.trans hserver
  obtain ⟨hapi, hcalls, n, hn, hway⟩ := h.underWay hbusy
  rcases hway with ⟨Q, hQ, hdown, hlen, ⟨-, hs⟩ | ⟨hup, hs⟩⟩ | ⟨-, -, ⟨-, hs⟩ | ⟨-, hs⟩⟩
  · cases hs.symm.trans hserver
  · have hPQ := hs.symm.trans hserver
    rw [Registration.calling.injEq] at hPQ
    exact ⟨hapi, hcalls, hup, hdown, by omega, by rw [← hPQ, hQ, hlen]⟩
  · cases hs.symm.trans hserver
  · cases hs.symm.trans hserver

/-- The server answers a request that is under way. -/
theorem Registering.accepted {x : System} (h : Registering x) (hserver : x.server = .accepted) :
    x.api = .requested ∧ x.mCallbacks = x.calls ∧ x.up = [] ∧ x.down = [] ∧
      x.calls.length = x.blocks.length := by
  have hbusy : ¬ Quiet x := fun hquiet => by cases hquiet.2.2.1.symm.trans hserver
  obtain ⟨hapi, hcalls, n, hn, hway⟩ := h.underWay hbusy
  rcases hway with ⟨Q, -, -, -, ⟨-, hs⟩ | ⟨-, hs⟩⟩ | ⟨hup, hlen, ⟨hdown, -⟩ | ⟨-, hs⟩⟩
  · cases hs.symm.trans hserver
  · cases hs.symm.trans hserver
  · exact ⟨hapi, hcalls, hup, hdown, by omega⟩
  · cases hs.symm.trans hserver

/-- A callback that is registered later does not change what the triggers stand for. -/
theorem Dispatching.of_request {x y : System} (h : Dispatching x)
    (ht : ∀ t ∈ x.triggers, t.block < x.calls.length) {callBack : CallbackObject}
    (hcalls : y.calls = x.calls ++ [callBack]) (htriggers : y.triggers = x.triggers)
    (hinvoked : y.invoked = x.invoked) (hreader : y.reader = x.reader)
    (hunread : y.unread = x.unread) : Dispatching y := by
  obtain ⟨before, rest, hsplit, hdone, hread⟩ := h
  have hget : ∀ t ∈ x.triggers, y.calls[t.block]? = x.calls[t.block]? := fun t hmem => by
    rw [hcalls, List.getElem?_append_left (ht t hmem)]
  refine ⟨before, rest, htriggers.trans hsplit, ?_, ?_⟩
  · rw [hinvoked, hdone]
    refine List.map_congr_left fun t hmem => (hget t ?_).symm
    rw [hsplit]
    exact List.mem_append_left _ hmem
  · rw [Reading] at hread ⊢
    rw [hreader, hunread]
    split at hread
    · exact hread
    · exact hread
    · exact hread
    · obtain ⟨t, ts, rfl, hcall, hrest⟩ := hread
      refine ⟨t, ts, rfl, ?_, hrest⟩
      rw [hget t (hsplit ▸ List.mem_append_right _ List.mem_cons_self), hcall]
    · exact hread

/-- Writing, flushing and spilling move bytes from what is to be written to the wire. -/
theorem Dispatching.of_unread {x y : System} (h : Dispatching x) (hcalls : y.calls = x.calls)
    (htriggers : y.triggers = x.triggers) (hinvoked : y.invoked = x.invoked)
    (hreader : y.reader = x.reader) (hunread : y.unread = x.unread) : Dispatching y := by
  obtain ⟨before, rest, hsplit, hdone, hread⟩ := h
  refine ⟨before, rest, htriggers.trans hsplit, ?_, ?_⟩
  · rw [hinvoked, hdone, hcalls]
  · rw [Reading] at hread ⊢
    rw [hreader, hunread, hcalls]
    exact hread

/-- A new trigger is what the reader finds last. -/
theorem Reading.concat {x y : System} {rest : List Trigger} (h : Reading x rest)
    (hcalls : y.calls = x.calls) (hreader : y.reader = x.reader) (t : Trigger)
    (hunread : y.unread = x.unread ++ t.message) : Reading y (rest ++ [t]) := by
  have hlast : ∀ ts : List Trigger,
      (ts ++ [t]).flatMap Trigger.message = ts.flatMap Trigger.message ++ t.message :=
    fun ts => by rw [List.flatMap_append, List.flatMap_singleton]
  rw [Reading] at h ⊢
  rw [hreader]
  split at h
  · show y.unread = _
    rw [hunread, h, hlast]
  · obtain ⟨s, ts, rfl, hindex, hx⟩ := h
    exact ⟨s, ts ++ [t], rfl, hindex, by rw [hunread, hx, hlast, List.append_assoc]⟩
  · obtain ⟨s, ts, rfl, hindex, hx⟩ := h
    exact ⟨s, ts ++ [t], rfl, hindex, by rw [hunread, hx, hlast, List.append_assoc]⟩
  · obtain ⟨s, ts, rfl, hcall, hx⟩ := h
    exact ⟨s, ts ++ [t], rfl, by rw [hcalls, hcall], by rw [hunread, hx, hlast]⟩
  · exact h

/-- The requests that have been sent are for the first callbacks. -/
theorem Registering.calls_initial {x : System} (h : Registering x) : x.calls <+: x.mCallbacks := by
  rw [Registering] at h
  split at h
  · exact h.1 ▸ List.prefix_rfl
  · exact h.1 ▸ List.prefix_rfl
  · rw [h.1]
    exact List.prefix_append _ _
  · exact h.1 ▸ List.prefix_rfl

/-- The reader finds nothing on a stream on which nothing is to come. -/
theorem exists_cons_of_head {x : System} {rest : List Trigger} {b : UInt8}
    (h : x.unread = rest.flatMap Trigger.message) (hb : x.eventWire.head? = some b) :
    ∃ t ts, rest = t :: ts ∧
      x.eventWire ++ (x.eventOut ++ x.mEventMutex.toWrite) =
        packet (⟨(UInt16.ofNat t.block).toUInt32⟩ : CallbackTriggerPacket) ++
          (t.payload ++ ts.flatMap Trigger.message) := by
  rw [System.unread, List.append_assoc] at h
  cases rest with
  | nil =>
    rw [List.flatMap_nil, List.append_eq_nil_iff] at h
    rw [h.1] at hb
    exact absurd hb (by simp)
  | cons t ts =>
    refine ⟨t, ts, rfl, ?_⟩
    rw [h, List.flatMap_cons, Trigger.message, List.append_assoc]

/-- The number of a block is a position among the callbacks. -/
theorem toNat_index {k : ℕ} (h : k < 65536) : (UInt16.ofNat k).toUInt32.toNat = k := by
  rw [UInt16.toNat_toUInt32, UInt16.toNat_ofNat']
  exact Nat.mod_eq_of_lt h

/-- A step of the threads that register callbacks keeps the state of the event stream. -/
theorem Inv.of_registering {x y : System} (hx : Inv x) (hreg : Registering y)
    (hblocks : y.blocks = x.blocks) (hcalls : y.calls = x.calls)
    (htriggers : y.triggers = x.triggers) (hinvoked : y.invoked = x.invoked)
    (hreader : y.reader = x.reader) (hunread : y.unread = x.unread) : Inv y where
  registering := hreg
  blocks := by rw [hblocks]; exact hx.blocks
  accepted := by rw [hblocks, hcalls]; exact hx.accepted
  triggers := by rw [hblocks, htriggers]; exact hx.triggers
  dispatching := hx.dispatching.of_unread hcalls htriggers hinvoked hreader hunread

/-- A step on the event stream keeps the state of the registrations. -/
theorem Inv.of_dispatching {x y : System} (hx : Inv x) (hdisp : Dispatching y)
    (hreg : Registering y) (hblocks : y.blocks = x.blocks) (hcalls : y.calls = x.calls)
    (htriggers : y.triggers = x.triggers) : Inv y where
  registering := hreg
  blocks := by rw [hblocks]; exact hx.blocks
  accepted := by rw [hblocks, hcalls]; exact hx.accepted
  triggers := by rw [hblocks, htriggers]; exact hx.triggers
  dispatching := hdisp

theorem Inv.enter {x : System} (hx : Inv x) (h : x.api = .free) (callBack : CallbackObject)
    (event : Handle) (type : UInt32) (n : ℕ) :
    Inv { x with api := .entered callBack event type, made := n } := by
  refine hx.of_registering ?_ rfl rfl rfl rfl rfl rfl
  have hreg := hx.registering
  simp only [Registering, h] at hreg
  exact hreg

theorem Inv.registerCallback {x : System} (hx : Inv x) {callBack : CallbackObject}
    {event : Handle} {type : UInt32} (h : x.api = .entered callBack event type) :
    Inv { x with
      mCallbacks := x.mCallbacks ++ [callBack]
      api := .registered callBack event type (UInt32.ofNat x.mCallbacks.length) } := by
  refine hx.of_registering ?_ rfl rfl rfl rfl rfl rfl
  have hreg := hx.registering
  simp only [Registering, h] at hreg
  obtain ⟨hcalls, hquiet⟩ := hreg
  exact ⟨by rw [hcalls], by rw [hcalls], hquiet⟩

theorem Inv.request {x : System} (hx : Inv x) {callBack : CallbackObject} {event : Handle}
    {type callbackID : UInt32} (h : x.api = .registered callBack event type callbackID) :
    Inv { x with
      up := x.up ++ packet (⟨GetID event, callbackID.toUInt16, type⟩ : RegisterEventCallback)
      api := .requested
      calls := x.calls ++ [callBack] } := by
  have hreg := hx.registering
  simp only [Registering, h] at hreg
  obtain ⟨hcalls, rfl, hup, hdown, hserver, hlen⟩ := hreg
  have hblock : ∀ t ∈ x.triggers, t.block < x.calls.length := fun t ht =>
    Nat.lt_of_lt_of_le (hx.triggers t ht) hx.accepted
  let P : RegisterEventCallback :=
    ⟨GetID event, (UInt32.ofNat x.calls.length).toUInt16, type⟩
  have hID : P.mCallbackID = UInt16.ofNat x.calls.length := UInt32.toUInt16_ofNat' _
  have hsent : x.up ++ packet P = packet P := by rw [hup, List.nil_append]
  refine ⟨⟨hcalls, x.calls.length, List.length_append,
    Or.inl ⟨P, hID, hdown, hlen, Or.inl ⟨hsent, hserver⟩⟩⟩, hx.blocks, ?_, hx.triggers,
    hx.dispatching.of_request hblock rfl rfl rfl rfl rfl⟩
  show x.blocks.length ≤ (x.calls ++ [callBack]).length
  rw [List.length_append]
  exact Nat.le_trans hx.accepted (Nat.le_add_right _ _)

theorem Inv.leave {x : System} (hx : Inv x) (h : x.api = .requested) {p : SuccessPacket}
    {rest : Bytes} (hread : ReadsPacket x.down p rest) :
    Inv { x with down := rest, api := .free } := by
  refine hx.of_registering ?_ rfl rfl rfl rfl rfl rfl
  have hreg := hx.registering
  simp only [Registering, h] at hreg
  obtain ⟨hcalls, n, hn, hway⟩ := hreg
  obtain ⟨rfl, hup, hserver, hlen⟩ := hway.leave hread
  exact ⟨hcalls, hup, rfl, hserver, hlen.trans hn.symm⟩

theorem Inv.read {x : System} (hx : Inv x) {P : RegisterEventCallback} {rest : Bytes}
    (hread : ReadsPacket x.up P rest) : Inv { x with up := rest, server := .calling P } := by
  refine hx.of_registering ?_ rfl rfl rfl rfl rfl rfl
  obtain ⟨hapi, hcalls, rfl, hdown, hlen, hID⟩ := hx.registering.read hread
  simp only [Registering, hapi]
  exact ⟨hcalls, x.blocks.length, hlen,
    Or.inl ⟨P, hID, hdown, rfl, Or.inr ⟨rfl, rfl⟩⟩⟩

theorem Inv.accept {x : System} (hx : Inv x) {P : RegisterEventCallback}
    (h : x.server = .calling P) :
    Inv { x with blocks := x.blocks ++ [⟨P.mCallbackID⟩], server := .accepted } := by
  obtain ⟨hapi, hcalls, hup, hdown, hlen, hID⟩ := hx.registering.calling h
  have hgrow : (x.blocks ++ [(⟨P.mCallbackID⟩ : CallbackBlock)]).length = x.blocks.length + 1 :=
    List.length_append
  refine ⟨?_, ?_, ?_, ?_, hx.dispatching.of_unread rfl rfl rfl rfl rfl⟩
  · simp only [Registering, hapi]
    exact ⟨hcalls, x.blocks.length, hlen, Or.inr ⟨hup, hgrow, Or.inl ⟨hdown, rfl⟩⟩⟩
  · intro k block hk
    rcases Nat.lt_or_ge k x.blocks.length with hlt | hge
    · exact hx.blocks k block ((List.getElem?_append_left hlt).symm.trans hk)
    · have hkey := (List.getElem?_append_right hge).symm.trans hk
      obtain ⟨hlt, rfl⟩ := List.getElem?_eq_some_iff.mp hkey
      have hk0 : k = x.blocks.length := by
        rw [List.length_singleton] at hlt
        omega
      subst hk0
      simp only [Nat.sub_self, List.getElem_cons_zero]
      exact hID
  · show (x.blocks ++ _).length ≤ x.calls.length
    omega
  · intro t ht
    show t.block < (x.blocks ++ _).length
    have := hx.triggers t ht
    omega

theorem Inv.reply {x : System} (hx : Inv x) (h : x.server = .accepted) :
    Inv { x with down := x.down ++ packet (⟨⟩ : SuccessPacket), server := .waiting } := by
  refine hx.of_registering ?_ rfl rfl rfl rfl rfl rfl
  obtain ⟨hapi, hcalls, hup, hdown, hlen⟩ := hx.registering.accepted h
  have hreg := hx.registering
  simp only [Registering, hapi] at hreg ⊢
  obtain ⟨-, n, hn, -⟩ := hreg
  have hsent : x.down ++ packet (⟨⟩ : SuccessPacket) = packet (⟨⟩ : SuccessPacket) := by
    rw [hdown, List.nil_append]
  exact ⟨hcalls, n, hn, Or.inr ⟨hup, hlen.symm.trans hn, Or.inr ⟨hsent, rfl⟩⟩⟩

theorem Inv.lockEvents {x : System} (hx : Inv x) {k : ℕ} {block : CallbackBlock} (code : Int32)
    (h : x.mEventMutex = .free) (hblock : x.blocks[k]? = some block) :
    Inv { x with mEventMutex := .locked block.ID code, triggers := x.triggers ++ [⟨k, code⟩] } := by
  obtain ⟨hlt, -⟩ := List.getElem?_eq_some_iff.mp hblock
  refine ⟨hx.registering, hx.blocks, hx.accepted, ?_, ?_⟩
  · intro t ht
    rcases List.mem_append.mp ht with ht | ht
    · exact hx.triggers t ht
    · rw [List.mem_singleton.mp ht]
      exact hlt
  · obtain ⟨before, rest, hsplit, hdone, hread⟩ := hx.dispatching
    refine ⟨before, rest ++ [⟨k, code⟩], ?_, hdone, ?_⟩
    · show x.triggers ++ _ = _
      rw [hsplit, List.append_assoc]
    · refine hread.concat (y := { x with
        mEventMutex := .locked block.ID code
        triggers := x.triggers ++ [⟨k, code⟩] }) rfl rfl ⟨k, code⟩ ?_
      simp only [System.unread, Triggering.toWrite, h, List.append_nil, Trigger.message,
        Trigger.payload, hx.blocks k block hblock]

/-- What the reader takes off the stream starts the next message. -/
theorem Inv.readIndex {x : System} (hx : Inv x) (h : x.reader = .waiting)
    {p : CallbackTriggerPacket} {rest : Bytes}
    (htype : x.eventWire.head? = some PacketType.callbackTrigger.toByte)
    (hread : ReadsPacket x.eventWire p rest) :
    Inv { x with eventWire := rest, reader := .indexed p.mData } := by
  refine hx.of_dispatching ?_ hx.registering rfl rfl rfl
  obtain ⟨before, pending, hsplit, hdone, hreading⟩ := hx.dispatching
  simp only [Reading, h] at hreading
  obtain ⟨t, ts, rfl, hwire⟩ := exists_cons_of_head hreading htype
  obtain ⟨rfl, hrest⟩ := hread.of_append hwire
  refine ⟨before, t :: ts, hsplit, hdone, t, ts, rfl, rfl, ?_⟩
  rw [System.unread, List.append_assoc]
  exact hrest

/-- The index that the reader has is that of a callback. -/
theorem Inv.index {x : System} (hx : Inv x) (hbound : x.mCallbacks.length < 65536)
    {index : UInt32} (h : x.reader = .locked index) :
    ∃ before t ts, x.triggers = before ++ t :: ts ∧
      x.invoked.map some = before.map (fun t => x.calls[t.block]?) ∧
      x.unread = t.payload ++ ts.flatMap Trigger.message ∧ index.toNat = t.block ∧
      ∃ callBack, x.mCallbacks[t.block]? = some callBack ∧ x.calls[t.block]? = some callBack := by
  obtain ⟨before, pending, hsplit, hdone, hreading⟩ := hx.dispatching
  simp only [Reading, h] at hreading
  obtain ⟨t, ts, rfl, rfl, hunread⟩ := hreading
  have hblock := hx.triggers t (hsplit ▸ List.mem_append_right _ List.mem_cons_self)
  have hlt : t.block < x.calls.length := Nat.lt_of_lt_of_le hblock hx.accepted
  have hinitial := hx.registering.calls_initial
  have hle := hinitial.length_le
  refine ⟨before, t, ts, hsplit, hdone, hunread, toNat_index (by omega), x.calls[t.block], ?_,
    List.getElem?_eq_getElem hlt⟩
  obtain ⟨more, hmore⟩ := hinitial
  rw [← hmore, List.getElem?_append_left hlt, List.getElem?_eq_getElem hlt]

theorem Inv.readCode {x : System} (hx : Inv x) (hbound : x.mCallbacks.length < 65536)
    {index : UInt32} {callBack : CallbackObject} (h : x.reader = .locked index)
    (hindex : x.mCallbacks[index.toNat]? = some callBack) {p : TriggerEventCallback}
    {rest : Bytes} (hread : ReadsPacket x.eventWire p rest) :
    Inv { x with eventWire := rest, reader := .received callBack p.mData } := by
  refine hx.of_dispatching ?_ hx.registering rfl rfl rfl
  obtain ⟨before, t, ts, hsplit, hdone, hunread, hidx, c, hmine, hcall⟩ := hx.index hbound h
  rw [hidx, hmine, Option.some.injEq] at hindex
  subst hindex
  rw [System.unread, List.append_assoc] at hunread
  obtain ⟨-, hrest⟩ := hread.of_append hunread
  refine ⟨before, t :: ts, hsplit, hdone, t, ts, rfl, hcall, ?_⟩
  rw [System.unread, List.append_assoc]
  exact hrest

theorem Inv.invoke {x : System} (hx : Inv x) {callBack : CallbackObject} {code : IDType}
    (h : x.reader = .received callBack code) :
    Inv { x with invoked := x.invoked ++ [callBack], reader := .waiting } := by
  refine hx.of_dispatching ?_ hx.registering rfl rfl rfl
  obtain ⟨before, pending, hsplit, hdone, hreading⟩ := hx.dispatching
  simp only [Reading, h] at hreading
  obtain ⟨t, ts, rfl, hcall, hunread⟩ := hreading
  refine ⟨before ++ [t], ts, ?_, ?_, hunread⟩
  · rw [List.append_assoc]
    exact hsplit
  · rw [List.map_append, List.map_append, hdone, List.map_singleton, List.map_singleton, hcall]

/-- **Every step keeps the invariant**, as long as a callback's number fits into an `IDType`. -/
theorem Inv.step {x y : System} (hx : Inv x) (h : Step x y)
    (hbound : x.mCallbacks.length < 65536) : Inv y := by
  cases h with
  | enter h => exact hx.enter h _ _ _ _
  | registerCallback h => exact hx.registerCallback h
  | request h => exact hx.request h
  | leave h _ hread => exact hx.leave h hread
  | read _ _ hread => exact hx.read hread
  | accept h => exact hx.accept h
  | reply h => exact hx.reply h
  | lockEvents code h hblock => exact hx.lockEvents code h hblock
  | announce h =>
    refine hx.of_dispatching (hx.dispatching.of_unread rfl rfl rfl rfl ?_) hx.registering rfl
      rfl rfl
    simp only [System.unread, Triggering.toWrite, h, List.append_assoc]
  | write h =>
    refine hx.of_dispatching (hx.dispatching.of_unread rfl rfl rfl rfl ?_) hx.registering rfl
      rfl rfl
    simp only [System.unread, Triggering.toWrite, h, List.append_assoc, List.append_nil]
  | flush h =>
    refine hx.of_dispatching (hx.dispatching.of_unread rfl rfl rfl rfl ?_) hx.registering rfl
      rfl rfl
    simp only [System.unread, Triggering.toWrite, h, List.append_nil]
  | spill h =>
    refine hx.of_dispatching (hx.dispatching.of_unread rfl rfl rfl rfl ?_) hx.registering rfl
      rfl rfl
    simp only [System.unread, h, List.append_assoc]
  | readIndex h _ htype hread => exact hx.readIndex h htype hread
  | unexpected h hhead htype =>
    obtain ⟨before, pending, -, -, hreading⟩ := hx.dispatching
    simp only [Reading, h] at hreading
    obtain ⟨t, ts, -, hwire⟩ := exists_cons_of_head hreading hhead
    exact absurd (head_of_append hhead hwire) htype
  | lockCallbacks h =>
    refine hx.of_dispatching ?_ hx.registering rfl rfl rfl
    obtain ⟨before, pending, hsplit, hdone, hreading⟩ := hx.dispatching
    simp only [Reading, h] at hreading
    exact ⟨before, pending, hsplit, hdone, hreading⟩
  | invalid h hindex =>
    obtain ⟨_, t, _, _, _, _, hidx, c, hmine, _⟩ := hx.index hbound h
    obtain ⟨hlt, -⟩ := List.getElem?_eq_some_iff.mp hmine
    omega
  | readCode h hindex _ hread => exact hx.readCode hbound h hindex hread
  | throws h hhead htype =>
    obtain ⟨_, t, ts, _, _, hunread, _⟩ := hx.index hbound h
    rw [System.unread, List.append_assoc] at hunread
    have hty := head_of_append hhead hunread
    rcases htype with rfl | rfl
    · exact absurd (PacketType.toByte_injective hty) (by decide)
    · exact absurd (PacketType.toByte_injective hty) (by decide)
  | invoke h => exact hx.invoke h

/-! ## Whole runs -/

/-- The invariant holds along every run that registers fewer than 65536 callbacks. -/
theorem Reachable.inv {x : System} (hx : Reachable x) (hbound : x.mCallbacks.length < 65536) :
    Inv x := by
  induction hx with
  | refl => exact inv_initial
  | tail _ hstep ih =>
    have hle := hstep.length_le
    exact (ih (by omega)).step hstep (by omega)

/-- What the reader has not read consists of whole messages, apart from those bytes that the
thread in `triggerEventCallback` has not written yet. -/
def AtBoundary (x : System) : Prop :=
  ∃ ts : List Trigger, x.unread = ts.flatMap Trigger.message

/-- **Callbacks are dispatched to the right callback, once, in order.**  The callback objects
whose function has been called are those of the first triggers, in the order in which the
triggers took `mEventMutex`: the trigger of the `k`-th accepted registration calls the object of
the `k`-th request.  The reader never meets a packet it does not expect, and is at the start of a
message whenever it waits for one. -/
theorem callbacks_in_order {x : System} (hx : Reachable x)
    (hbound : x.mCallbacks.length < 65536) :
    x.invoked.map some <+: x.triggers.map (fun t => x.calls[t.block]?) ∧
      x.reader ≠ .stopped ∧ (x.reader = .waiting → AtBoundary x) := by
  obtain ⟨before, rest, hsplit, hdone, hreading⟩ := (hx.inv hbound).dispatching
  refine ⟨?_, ?_, ?_⟩
  · rw [hdone, hsplit, List.map_append]
    exact List.prefix_append _ _
  · intro h
    simp only [Reading, h] at hreading
  · intro h
    simp only [Reading, h] at hreading
    exact ⟨rest, hreading⟩

/-- One callback is registered, triggered before the registration has been answered, and
dispatched. -/
theorem callbacks_in_order_once :
    ∃ x, Reachable x ∧ x.invoked = [⟨0, .event ⟨0, 5, .event⟩ 1 2⟩] ∧
      x.invoked.map some <+: x.triggers.map (fun t => x.calls[t.block]?) ∧
      x.reader ≠ .stopped ∧ (x.reader = .waiting → AtBoundary x) := by
  have hread {P : Type} [Packet P] [Wire P] [LawfulWire P] (p : P)
      (hty : Ordinary (Packet.mType P)) : ReadsPacket ([] ++ packet p) p [] := by
    have h := readsPacket_packet hty p []
    rwa [List.append_nil] at h
  have hrun : Reachable initial := Relation.ReflTransGen.refl
  replace hrun := hrun.tail (Step.enter rfl ⟨0, 5, .event⟩ 0 1 2)
  replace hrun := hrun.tail (Step.registerCallback rfl not_false)
  replace hrun := hrun.tail (Step.request rfl)
  replace hrun := hrun.tail (Step.read rfl rfl (hread _ (by decide)))
  replace hrun := hrun.tail (Step.accept rfl)
  -- the driver calls back at once
  replace hrun := hrun.tail (Step.lockEvents (k := 0) 0 rfl rfl)
  replace hrun := hrun.tail (Step.announce rfl)
  replace hrun := hrun.tail (Step.write rfl)
  replace hrun := hrun.tail (Step.flush rfl)
  replace hrun := hrun.tail (Step.readIndex rfl ⟨0⟩ rfl
    (readsPacket_packet (by decide) (⟨0⟩ : CallbackTriggerPacket) _))
  replace hrun := hrun.tail (Step.lockCallbacks rfl)
  replace hrun := hrun.tail (Step.readCode rfl rfl ⟨0⟩
    (hread (⟨0⟩ : TriggerEventCallback) (by decide)))
  replace hrun := hrun.tail (Step.invoke rfl)
  exact ⟨_, hrun, rfl, callbacks_in_order hrun (by decide)⟩

end EventStream
end RemoteCL

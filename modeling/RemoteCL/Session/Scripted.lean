import RemoteCL.Client.Memory
import RemoteCL.Session.Rules
import RemoteCL.Theory.Alone

/-!
# Calls on a connection that works

What the functions of the client come to if the replies to them are given.  The replies need not be
those of a server that follows the protocol.
-/

namespace RemoteCL

open ByteStream Conversation Wire LawfulWire Client

section Packets

variable {σ : Type} {α β : Type} {s : σ} {u v : Bytes} {ty : PacketType} {r : Reader α} {a : α}

@[simp] theorem alone_write (body : Bytes) :
    (PacketStream.write ty body : Prog σ Exn Empty NoAnswer Unit).alone s u =
      some (.ok (), s, u) := rfl

@[simp] theorem alone_writePacket {P : Type} [Packet P] [Wire P] (x : P) :
    (PacketStream.writePacket x : Prog σ Exn Empty NoAnswer Unit).alone s u =
      some (.ok (), s, u) := rfl

@[simp] theorem alone_flush :
    (PacketStream.flush : Prog σ Exn Empty NoAnswer Unit).alone s u = some (.ok (), s, u) := rfl

theorem alone_readType (b : UInt8) :
    (Prog.ofReader PacketStream.readType : Prog σ Exn Empty NoAnswer UInt8).alone s (b :: u) =
      some (.ok b, s, u) :=
  Prog.alone_ofReader (PacketStream.run_readType_cons b u)

/-- The packet that is asked for. -/
theorem alone_read (hr : r.run u = some (a, v)) (hty : Ordinary ty) :
    (PacketStream.read ty r : Prog σ Exn Empty NoAnswer α).alone s (ty.toByte :: u) =
      some (.ok a, s, v) := by
  rw [PacketStream.read, Prog.alone_bind, alone_readType, Option.bind_some, Prog.aloneBind_ok,
    if_neg hty.toByte_ne_error, if_neg hty.toByte_ne_terminate, Prog.alone_bind,
    Prog.alone_expect, Option.bind_some, Prog.aloneBind_ok, Prog.alone_ofReader hr]

/-- The packet that is asked for, with its bytes. -/
theorem alone_reads {w : Bytes} (hr : Reads r w a) (hty : Ordinary ty) :
    (PacketStream.read ty r : Prog σ Exn Empty NoAnswer α).alone s
      (PacketStream.frame ty w ++ u) = some (.ok a, s, u) :=
  alone_read (hr u) hty

theorem alone_readPacket {P : Type} [Packet P] [Wire P] [LawfulWire P] (p : P)
    (hty : Ordinary (Packet.mType P)) :
    (PacketStream.readPacket P : Prog σ Exn Empty NoAnswer P).alone s (packet p ++ u) =
      some (.ok p, s, u) :=
  alone_reads (reads_dec p) hty

/-- Nothing comes after the packet. -/
theorem alone_readsLast {w : Bytes} (hr : Reads r w a) (hty : Ordinary ty) :
    (PacketStream.read ty r : Prog σ Exn Empty NoAnswer α).alone s (PacketStream.frame ty w) =
      some (.ok a, s, []) := by
  rw [← List.append_nil (PacketStream.frame ty w), alone_reads hr hty]

theorem alone_readPacketLast {P : Type} [Packet P] [Wire P] [LawfulWire P] (p : P)
    (hty : Ordinary (Packet.mType P)) :
    (PacketStream.readPacket P : Prog σ Exn Empty NoAnswer P).alone s (packet p) =
      some (.ok p, s, []) :=
  alone_readsLast (reads_dec p) hty

/-- An error, whatever is asked for. -/
theorem alone_readError (e : Int32) :
    (PacketStream.read ty r : Prog σ Exn Empty NoAnswer α).alone s
      (packet (⟨e⟩ : ErrorPacket) ++ u) = some (.error (.errorPacket e), s, u) := by
  show (PacketStream.read ty r : Prog σ Exn Empty NoAnswer α).alone s
    (PacketStream.frame .error (enc e) ++ u) = _
  rw [PacketStream.read, Prog.alone_bind, PacketStream.frame, List.cons_append, alone_readType,
    Option.bind_some, Prog.aloneBind_ok, if_pos rfl, Prog.alone_bind,
    Prog.alone_ofReader (reads_dec e u)]
  rfl

/-- In either kind of build there are bytes that either reader reads as the payload. -/
theorem exists_payload (zlib : Option Zlib) (sz : SizeT) {data : Bytes}
    (hlen : data.length < sz.range) :
    ∃ w, Reads (decPayload zlib sz) w data ∧ Reads (decPayloadInto zlib sz) w data := by
  cases zlib with
  | none =>
    have hw : PayloadForm none sz data (encSize sz data.length ++ data) := .plain rfl
    exact ⟨_, reads_decPayload .plain hlen hw, reads_decPayloadInto .plain hlen hw⟩
  | some z =>
    -- a writer that does not compress
    have hinverts : z.Inverts ⟨fun _ => none, z.uncompress⟩ := fun data c hc => by cases hc
    have hw : PayloadForm (some ⟨fun _ => none, z.uncompress⟩) sz data
        (encSize sz 0 ++ encSize sz data.length ++ data) := .stored _ rfl
    exact ⟨_, reads_decPayload (.zlib hinverts) hlen hw,
      reads_decPayloadInto (.zlib hinverts) hlen hw⟩

end Packets

namespace Client

section Functions

variable {s : ClientState} {u : Bytes}

@[simp] theorem alone_store (pointer : Bool) (x : Store) :
    (store pointer x).alone s u = some (.ok (), s.stored pointer x, u) := by
  cases pointer <;> rfl

@[simp] theorem alone_resolve (how : Resolve) (kind : Kind) (id : IDType) :
    (resolve how kind id).alone s u =
      some (.ok (how.apply s kind id).1, (how.apply s kind id).2, u) := rfl

@[simp] theorem alone_resolveAll (how : Resolve) (kind : Kind) (ids : List IDType) :
    (resolveAll how kind ids).alone s u =
      some (.ok (how.applyAll s kind ids).1, (how.applyAll s kind ids).2, u) := rfl

@[simp] theorem alone_returnError (kind : Kind) (errcode_ret : Bool) (code : Int32) :
    (returnError kind errcode_ret code).alone s u =
      some (.ok (.handle kind none), s.stored errcode_ret (.errcode_ret code), u) := by
  rw [returnError, Prog.alone_bind, alone_store]
  rfl

variable {C : Build} {s' : ClientState} {left : Bytes} {r : Ret} {args : WaitArgs}

/-- A `try` block with a result. -/
theorem alone_catching {p : ClientM Ret} (h : p.alone s u = some (.ok r, s', left))
    (badAlloc others : Int32) :
    (catching badAlloc others p).alone s u = some (.ok r, s', left) := by
  rw [catching, Prog.alone_tryCatch, h]
  rfl

theorem alone_catchingError {p : ClientM Ret} (h : p.alone s u = some (.ok r, s', left))
    (kind : Kind) (errcode_ret : Bool) (badAlloc : Int32) :
    (catchingError kind errcode_ret badAlloc p).alone s u = some (.ok r, s', left) := by
  rw [catchingError, Prog.alone_tryCatch, h]
  rfl

@[simp] theorem alone_writeCommand {P : Type} [Packet P] [Wire P] (x : P) (ids : List IDType) :
    (writeCommand x args ids).alone s u = some (.ok (), s, u) := by
  rw [writeCommand, Prog.alone_bind, alone_writePacket, Option.bind_some, Prog.aloneBind_ok]
  split <;> rfl

/-- A command that is not refused. -/
theorem alone_withEvents {p : Handle → Handle → List IDType → ClientM Ret} {queue object : Handle}
    {ids : List IDType} (hids : args.eventIDs = .ok ids)
    (h : (p queue object ids).alone s u = some (.ok r, s', left)) :
    (withEvents (some queue) (some object) args p).alone s u = some (.ok r, s', left) := by
  rw [withEvents, hids]
  exact alone_catching h _ _

end Functions

end Client

end RemoteCL

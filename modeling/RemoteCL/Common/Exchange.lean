import RemoteCL.Common.Packets.Basic
import RemoteCL.Theory.Duplex

/-!
# Following packets through a conversation

The rules of a conversation, restated for packets: writing one appends its bytes, and a reader
that meets the packet it asks for goes on with the packet's value.  A client that meets an
`Error` packet goes on with the exception.
-/

namespace RemoteCL

open ByteStream Conversation Wire LawfulWire

/-- The bytes of a packet that knows its type. -/
def packet {P : Type} [Packet P] [Wire P] (p : P) : Bytes :=
  PacketStream.frame (Packet.mType P) (enc p)

/-- The packet types that a reader may ask for. -/
def Ordinary (ty : PacketType) : Prop := ty ≠ .error ∧ ty ≠ .terminate

instance (ty : PacketType) : Decidable (Ordinary ty) := inferInstanceAs (Decidable (_ ∧ _))

theorem Ordinary.toByte_ne_error {ty : PacketType} (hty : Ordinary ty) :
    ty.toByte ≠ PacketType.error.toByte := fun h => hty.1 (PacketType.toByte_injective h)

theorem Ordinary.toByte_ne_terminate {ty : PacketType} (hty : Ordinary ty) :
    ty.toByte ≠ PacketType.terminate.toByte := fun h => hty.2 (PacketType.toByte_injective h)

namespace PacketStream

variable {σ C : Type} {A : C → Type} {α β : Type}

/-- A `read` that is followed by something, as its first step and the rest. -/
theorem read_bind (ty : PacketType) (r : Reader α) (k : α → Prog σ Exn C A β) :
    read ty r >>= k = Prog.ofReader readType >>= fun b =>
      if b = PacketType.error.toByte then
        Prog.ofReader (dec : Reader Int32) >>= fun e => Prog.throw (.errorPacket e)
      else if b = PacketType.terminate.toByte then Prog.throw .socketError
      else Prog.expect (b == ty.toByte) >>= fun _ => Prog.ofReader r >>= k := by
  rw [read, bind_assoc]
  congr 1
  funext b
  split
  · rw [bind_assoc]
    rfl
  · split
    · rfl
    · rw [bind_assoc]

theorem readNoexcept_bind (ty : PacketType) (r : Reader α) (k : α → Prog σ Exn C A β) :
    readNoexcept ty r >>= k = Prog.ofReader readType >>= fun b =>
      if b = PacketType.error.toByte then
        Prog.ofReader (dec : Reader Int32) >>= fun e => Prog.throw (.errorPacket e)
      else if b = PacketType.terminate.toByte then Prog.throw .socketError
      else Prog.expect (b == ty.toByte) >>= fun _ => noexcept (Prog.ofReader r) >>= k := by
  rw [readNoexcept, bind_assoc]
  congr 1
  funext b
  split
  · rw [bind_assoc]
    rfl
  · split
    · rfl
    · rw [bind_assoc]

/-- A `read` waits for the type of a packet first. -/
theorem exists_read_bind_eq (ty : PacketType) (r : Reader α) (k : α → Prog σ Exn C A β) :
    ∃ q, read ty r >>= k = Prog.read 1 q :=
  ⟨_, (read_bind ty r k).trans (Prog.ofReader_take_bind _ _ _)⟩

theorem exists_readNoexcept_bind_eq (ty : PacketType) (r : Reader α)
    (k : α → Prog σ Exn C A β) : ∃ q, readNoexcept ty r >>= k = Prog.read 1 q :=
  ⟨_, (readNoexcept_bind ty r k).trans (Prog.ofReader_take_bind _ _ _)⟩

end PacketStream

section Rules

variable {σ τ C : Type} {A : C → Type} {ρ δ α β : Type}
variable {E : δ → (c : C) → A c → δ → Prop} {serve : Prog τ Exn C A Bool}
variable {F : Config σ τ Exn C A ρ δ → Prop} (hF : Stable E serve F)
variable {u d w : Bytes} {e : δ} {ty : PacketType} {r : Reader α} {a : α}
include hF

/-! ## The client -/

section Client

variable {K : Prog σ Exn Empty NoAnswer β → Prog σ Exn Empty NoAnswer ρ} (hK : Prog.Context K)
variable {s : Side τ Exn C A Bool} {t : σ} {o : Bytes}
include hK

theorem settles_client_write {k : Unit → Prog σ Exn Empty NoAnswer β} :
    Settles E serve F ⟨⟨K (PacketStream.write ty w >>= k), t, o⟩, s, u, d, e⟩ ↔
      Settles E serve F ⟨⟨K (k ()), t, o ++ PacketStream.frame ty w⟩, s, u, d, e⟩ :=
  settles_client_send hF hK

theorem settles_client_writePacket {P : Type} [Packet P] [Wire P] {p : P}
    {k : Unit → Prog σ Exn Empty NoAnswer β} :
    Settles E serve F ⟨⟨K (PacketStream.writePacket p >>= k), t, o⟩, s, u, d, e⟩ ↔
      Settles E serve F ⟨⟨K (k ()), t, o ++ packet p⟩, s, u, d, e⟩ :=
  settles_client_send hF hK

theorem settles_client_writeNoexcept {k : Unit → Prog σ Exn Empty NoAnswer β} :
    Settles E serve F ⟨⟨K (PacketStream.writeNoexcept ty w >>= k), t, o⟩, s, u, d, e⟩ ↔
      Settles E serve F ⟨⟨K (k ()), t, o ++ PacketStream.frame ty w⟩, s, u, d, e⟩ := by
  have hnoexcept : Prog.Context fun p : Prog σ Exn Empty NoAnswer Unit =>
      K (PacketStream.noexcept p >>= k) :=
    (Prog.Context.tryCatch _).comp ((Prog.Context.bind k).comp hK)
  rw [PacketStream.writeNoexcept, bind_assoc, settles_client_send hF hK,
    ← bind_pure (Prog.send w : Prog σ Exn Empty NoAnswer Unit), settles_client_send hF hnoexcept,
    List.append_assoc, List.singleton_append]
  rfl

theorem settles_client_flushes {k : Unit → Prog σ Exn Empty NoAnswer β} :
    Settles E serve F ⟨⟨K (PacketStream.flush >>= k), t, o⟩, s, u, d, e⟩ ↔
      Settles E serve F ⟨⟨K (k ()), t, []⟩, s, u ++ o, d, e⟩ :=
  settles_client_flush hF hK

/-- The client meets the packet it asks for. -/
theorem settles_client_meets (hr : Reads r w a) (hty : Ordinary ty)
    {k : α → Prog σ Exn Empty NoAnswer β} :
    Settles E serve F
        ⟨⟨K (PacketStream.read ty r >>= k), t, o⟩, s, u, PacketStream.frame ty w ++ d, e⟩ ↔
      Settles E serve F ⟨⟨K (k a), t, o⟩, s, u, d, e⟩ := by
  rw [PacketStream.read_bind, PacketStream.frame, List.cons_append,
    settles_client_reader hF hK (PacketStream.run_readType_cons _ _), if_neg hty.toByte_ne_error,
    if_neg hty.toByte_ne_terminate, settles_client_expect hF hK (beq_self_eq_true _),
    settles_client_reader hF hK (hr d)]

theorem settles_client_meets_packet {P : Type} [Packet P] [Wire P] [LawfulWire P] {p : P}
    (hty : Ordinary (Packet.mType P)) {k : P → Prog σ Exn Empty NoAnswer β} :
    Settles E serve F
        ⟨⟨K (PacketStream.readPacket P >>= k), t, o⟩, s, u, packet p ++ d, e⟩ ↔
      Settles E serve F ⟨⟨K (k p), t, o⟩, s, u, d, e⟩ :=
  settles_client_meets hF hK (reads_dec p) hty

/-- The client meets an `Error` packet: whatever it asked for, the packet is thrown. -/
theorem settles_client_meets_error (err : Int32) {k : α → Prog σ Exn Empty NoAnswer β} :
    Settles E serve F
        ⟨⟨K (PacketStream.read ty r >>= k), t, o⟩, s, u, packet (⟨err⟩ : ErrorPacket) ++ d, e⟩ ↔
      Settles E serve F ⟨⟨K (Prog.throw (.errorPacket err)), t, o⟩, s, u, d, e⟩ := by
  have hbody : (dec : Reader Int32).run (enc (⟨err⟩ : ErrorPacket) ++ d) = some (err, d) :=
    reads_dec err d
  have herr : (Packet.mType ErrorPacket).toByte = PacketType.error.toByte := rfl
  rw [PacketStream.read_bind, packet, PacketStream.frame, List.cons_append,
    settles_client_reader hF hK (PacketStream.run_readType_cons _ _), if_pos herr,
    settles_client_reader hF hK hbody]

end Client

/-! ## The server -/

section Server

variable {K : Prog τ Exn C A β → Prog τ Exn C A Bool} (hK : Prog.Context K)
variable {c : Side σ Exn Empty NoAnswer ρ} {t : τ} {o : Bytes}
include hK

theorem settles_server_write {k : Unit → Prog τ Exn C A β} :
    Settles E serve F ⟨c, ⟨K (PacketStream.write ty w >>= k), t, o⟩, u, d, e⟩ ↔
      Settles E serve F ⟨c, ⟨K (k ()), t, o ++ PacketStream.frame ty w⟩, u, d, e⟩ :=
  settles_server_send hF hK

theorem settles_server_writePacket {P : Type} [Packet P] [Wire P] {p : P}
    {k : Unit → Prog τ Exn C A β} :
    Settles E serve F ⟨c, ⟨K (PacketStream.writePacket p >>= k), t, o⟩, u, d, e⟩ ↔
      Settles E serve F ⟨c, ⟨K (k ()), t, o ++ packet p⟩, u, d, e⟩ :=
  settles_server_send hF hK

theorem settles_server_flushes {k : Unit → Prog τ Exn C A β} :
    Settles E serve F ⟨c, ⟨K (PacketStream.flush >>= k), t, o⟩, u, d, e⟩ ↔
      Settles E serve F ⟨c, ⟨K (k ()), t, []⟩, u, d ++ o, e⟩ :=
  settles_server_flush hF hK

/-- The server meets the packet it asks for. -/
theorem settles_server_meets (hr : Reads r w a) (hty : Ordinary ty)
    {k : α → Prog τ Exn C A β} :
    Settles E serve F
        ⟨c, ⟨K (PacketStream.read ty r >>= k), t, o⟩, PacketStream.frame ty w ++ u, d, e⟩ ↔
      Settles E serve F ⟨c, ⟨K (k a), t, o⟩, u, d, e⟩ := by
  rw [PacketStream.read_bind, PacketStream.frame, List.cons_append,
    settles_server_reader hF hK (PacketStream.run_readType_cons _ _), if_neg hty.toByte_ne_error,
    if_neg hty.toByte_ne_terminate, settles_server_expect hF hK (beq_self_eq_true _),
    settles_server_reader hF hK (hr u)]

/-- The same, for a packet that is read by a `noexcept` function. -/
theorem settles_server_meetsNoexcept (hr : Reads r w a) (hty : Ordinary ty)
    {k : α → Prog τ Exn C A β} :
    Settles E serve F
        ⟨c, ⟨K (PacketStream.readNoexcept ty r >>= k), t, o⟩, PacketStream.frame ty w ++ u, d, e⟩ ↔
      Settles E serve F ⟨c, ⟨K (k a), t, o⟩, u, d, e⟩ := by
  have hnoexcept : Prog.Context fun p : Prog τ Exn C A α =>
      K (PacketStream.noexcept p >>= k) :=
    (Prog.Context.tryCatch _).comp ((Prog.Context.bind k).comp hK)
  rw [PacketStream.readNoexcept_bind, PacketStream.frame, List.cons_append,
    settles_server_reader hF hK (PacketStream.run_readType_cons _ _), if_neg hty.toByte_ne_error,
    if_neg hty.toByte_ne_terminate, settles_server_expect hF hK (beq_self_eq_true _),
    ← bind_pure (Prog.ofReader r : Prog τ Exn C A α), settles_server_reader hF hnoexcept (hr u)]
  rfl

theorem settles_server_meets_packet {P : Type} [Packet P] [Wire P] [LawfulWire P] {p : P}
    (hty : Ordinary (Packet.mType P)) {k : P → Prog τ Exn C A β} :
    Settles E serve F
        ⟨c, ⟨K (PacketStream.readPacket P >>= k), t, o⟩, packet p ++ u, d, e⟩ ↔
      Settles E serve F ⟨c, ⟨K (k p), t, o⟩, u, d, e⟩ :=
  settles_server_meets hF hK (reads_dec p) hty

omit hF in
/-- The server meets a packet of another type than the one it asks for: its assertion fails. -/
theorem not_settles_server_meets (hF : Terminal E serve F) {ty' : PacketType}
    (hty : Ordinary ty') (hne : ty' ≠ ty) {k : α → Prog τ Exn C A β} :
    ¬ Settles E serve F
        ⟨c, ⟨K (PacketStream.read ty r >>= k), t, o⟩, PacketStream.frame ty' w ++ u, d, e⟩ := by
  have hty' : (ty'.toByte == ty.toByte) = false :=
    beq_eq_false_iff_ne.mpr fun h => hne (PacketType.toByte_injective h)
  rw [PacketStream.read_bind, PacketStream.frame, List.cons_append,
    settles_server_reader hF.stable hK (PacketStream.run_readType_cons _ _),
    if_neg hty.toByte_ne_error, if_neg hty.toByte_ne_terminate, hty']
  exact fun h => h.server_check hF (hK.check false _)

end Server

end Rules

end RemoteCL

import RemoteCL.Client.Program
import RemoteCL.Session.Rules

/-!
# Setting a kernel argument

The client does not know what kind of argument it has.  It asks, and the server, which asks the
driver, says what it wants next: the ID of a memory object, a size of local memory, or the value
itself.  Then the client sends one more packet, and gets the reply.

The server reads the packet that it has asked for.  What the client sends depends on the size of the
argument as well: where it is asked for an ID it sends one only for an argument of the size of a
handle, and otherwise a payload, of which the server reads two bytes as an ID.  It follows the
handle without asking if it is null.  Both sizes that cross the wire have 32 bits.
-/

namespace RemoteCL

open ByteStream Conversation Client

/-! ## What should happen -/

/-- The kinds of arguments that are told apart. -/
inductive ArgKind where
  | object
  | localSize
  | value
  deriving DecidableEq

/-- The kind of an argument, by the driver's answer to the question for its address space. -/
def ArgKind.of (a : InfoAns) : ArgKind :=
  let AS := UInt32.ofNat (leValue (storeInto (zeros 4) a.data))
  if AS = CL_KERNEL_ARG_ADDRESS_GLOBAL ∨ AS = CL_KERNEL_ARG_ADDRESS_CONSTANT then .object
  else if AS = CL_KERNEL_ARG_ADDRESS_LOCAL then .localSize
  else .value

/-- A driver that answers `a` to queries and `err` to commands.  The environment keeps a list of the
calls. -/
def AnswersArg (a : InfoAns) (err : Int32) :
    List ServerCall → (c : ServerCall) → Ans c → List ServerCall → Prop
  | calls, .info q n, b, calls' => b = a ∧ calls' = calls ++ [.info q n]
  | calls, .status q, b, calls' => b = err ∧ calls' = calls ++ [.status q]
  | calls, c, _, calls' => calls' = calls ++ [c]

section Expected

variable (t : ServerState) (kernel : Handle) (arg_index : UInt32) (arg_size : ℕ)
variable (arg_value : Option ArgValue)

/-- The question for the kind of an argument. -/
def argQuery : ServerCall :=
  .info (.clGetKernelArgInfo (objectAt t.mObjects (GetID kernel)) arg_index
    CL_KERNEL_ARG_ADDRESS_QUALIFIER) 4

/-- The driver is given a size and a value. -/
def argCall (arg : ℕ × Option Bytes) : ServerCall :=
  .status (.clSetKernelArg (objectAt t.mObjects (GetID kernel)) arg_index arg.1 arg.2)

/-- The memory object of the driver that the argument denotes. -/
def argObject : Ptr :=
  match arg_value.bind ArgValue.object with
  | some obj => objectAt t.mObjects (GetID obj)
  | none => 0

/-- What the driver should be given; nothing if the argument does not fit its kind. -/
def expectedArg : ArgKind → Option (ℕ × Option Bytes)
  | .object => if arg_size = 8 then some (8, some (Wire.enc (argObject t arg_value))) else none
  | .localSize => some (arg_size, none)
  | .value => some (arg_size, arg_value.map ArgValue.bytes)

/-- What the call should come to, with a driver that answers `a` and `err`: its errors are returned,
the driver has been given what was expected, and an argument that does not fit is an error. -/
def ArgSet (a : InfoAns) (err : Int32) (s : ClientState) (r : Ret) (s' : ClientState)
    (t' : ServerState) (calls : List ServerCall) : Prop :=
  s' = s ∧ t' = t ∧
    if a.err ≠ CL_SUCCESS then r = .code a.err ∧ calls = [argQuery t kernel arg_index]
    else
      match expectedArg t arg_size arg_value (.of a) with
      | some arg =>
        r = .code err ∧ calls = [argQuery t kernel arg_index, argCall t kernel arg_index arg]
      | none => ∃ code, code ≠ CL_SUCCESS ∧ r = .code code

/-- The arguments that the two sides agree about. -/
def Fits (a : InfoAns) : Prop :=
  a.err ≠ CL_SUCCESS ∨
    match ArgKind.of a with
    | .object => arg_size = 8 ∧ arg_value.bind ArgValue.object ≠ none
    | .localSize | .value => arg_size < 2 ^ 32

end Expected

/-! ## The conversation -/

section Conversation

variable {B : ServerBuild} {C : Build} {a : InfoAns} {err : Int32} {s : ClientState}
variable {t : ServerState} {P : Ret → ClientState → ServerState → List ServerCall → Prop}

/-- The client, after it has sent its second packet. -/
abbrev awaitSet : ClientM Ret :=
  catching CL_OUT_OF_HOST_MEMORY CL_DEVICE_NOT_AVAILABLE
    (PacketStream.readPacket SuccessPacket >>= fun _ => pure (.code CL_SUCCESS))

/-- The driver's result is returned. -/
theorem settles_awaitSet {calls : List ServerCall} :
    Settles (AnswersArg a err) (ServerInstance.serve B) (Final B ∅ P)
        ⟨⟨awaitSet, s, []⟩, ⟨ServerInstance.iteration
          (ServerInstance.replyStatus err >>= fun _ => pure true), t, []⟩, [], [], calls⟩ ↔
      P (.code err) s t calls := by
  have hK := context_catching CL_OUT_OF_HOST_MEMORY CL_DEVICE_NOT_AVAILABLE
  rw [ServerInstance.replyStatus]
  by_cases herr : err = CL_SUCCESS
  · rw [if_neg (not_not.mpr herr), ServerInstance.writeSuccess, herr]
    refine settles_replied.trans ?_
    exact (settles_client_meets_packet (p := (⟨⟩ : SuccessPacket)) (d := []) stable_final hK
      (by decide)).trans (settles_returned.trans (and_iff_right rfl))
  · rw [if_pos herr, ServerInstance.writeError]
    refine settles_replied.trans ?_
    rw [List.nil_append, List.nil_append, ← List.append_nil (PacketStream.frame _ _)]
    exact (settles_client_meets_error stable_final hK err).trans
      (settles_returned.trans (and_iff_right rfl))

/-- The client, after it has asked. -/
abbrev awaitWhat (C : Build) (arg_size : ℕ) (arg_value : Option ArgValue) : ClientM Ret :=
  catching CL_OUT_OF_HOST_MEMORY CL_DEVICE_NOT_AVAILABLE
    (PacketStream.readPacket (SimplePacket .payload UInt8) >>= fun what =>
      writeArg C what.mData arg_size arg_value >>= fun _ => awaitSuccess)

/-- A client that has crashed, and a server that waits for its packet. -/
theorem not_settles_crashed {o : Bytes} {α : Type} {ty : PacketType} {r : Reader α}
    {k : α → ServerM Unit} {calls : List ServerCall} :
    ¬ Settles (AnswersArg a err) (ServerInstance.serve B) (Final B ∅ P)
        ⟨⟨.spin, s, o⟩, ⟨ServerInstance.iteration
          ((PacketStream.read ty r >>= k) >>= fun _ => pure true), t, []⟩, [], [], calls⟩ := by
  obtain ⟨q, hq⟩ := PacketStream.exists_read_bind_eq ty r k
  obtain ⟨k', hserve⟩ := serve_eq_peek (B := B)
  rw [hq, context_handler.read]
  refine not_settles_stopped (fun h => h) (fun h : 1 ≤ 0 => absurd h (by decide)) nofun ?_
  rw [hserve]
  exact nofun

/-- The server wants something and the client reads what it is. -/
theorem settles_what {arg_size : ℕ} {arg_value : Option ArgValue} {what : UInt8}
    {k : ServerM Unit} {calls : List ServerCall} :
    Settles (AnswersArg a err) (ServerInstance.serve B) (Final B ∅ P)
        ⟨⟨awaitWhat C arg_size arg_value, s, []⟩, ⟨ServerInstance.iteration
          ((ServerInstance.writeValue what >>= fun _ => PacketStream.flush >>= fun _ => k) >>=
            fun _ => pure true), t, []⟩, [], [], calls⟩ ↔
      Settles (AnswersArg a err) (ServerInstance.serve B) (Final B ∅ P)
        ⟨⟨catching CL_OUT_OF_HOST_MEMORY CL_DEVICE_NOT_AVAILABLE
          (writeArg C what arg_size arg_value >>= fun _ => awaitSuccess), s, []⟩,
          ⟨ServerInstance.iteration (k >>= fun _ => pure true), t, []⟩, [], [], calls⟩ := by
  have hK := context_catching CL_OUT_OF_HOST_MEMORY CL_DEVICE_NOT_AVAILABLE
  refine (settles_server_writePacket stable_final context_handler).trans ?_
  refine (settles_server_flushes stable_final context_handler).trans ?_
  exact settles_client_meets_packet (p := (⟨what⟩ : SimplePacket .payload UInt8)) (d := [])
    stable_final hK (by decide)

/-- The client has written its packet, and the server goes on. -/
theorem settles_sent {ty : PacketType} {w : Bytes}
    {server : Side ServerState Exn ServerCall Ans Bool} {calls : List ServerCall} :
    Settles (AnswersArg a err) (ServerInstance.serve B) (Final B ∅ P)
        ⟨⟨catching CL_OUT_OF_HOST_MEMORY CL_DEVICE_NOT_AVAILABLE
          ((PacketStream.write ty w : ClientM Unit) >>= fun _ => awaitSuccess), s, []⟩, server,
          [], [], calls⟩ ↔
      Settles (AnswersArg a err) (ServerInstance.serve B) (Final B ∅ P)
        ⟨⟨awaitSet, s, []⟩, server, PacketStream.frame ty w, [], calls⟩ := by
  have hK := context_catching CL_OUT_OF_HOST_MEMORY CL_DEVICE_NOT_AVAILABLE
  refine (settles_client_write stable_final hK).trans ?_
  exact settles_client_flushes stable_final hK

/-- There is one answer to a command. -/
theorem forall_status {q : StatusCall} {calls : List ServerCall}
    {S : Int32 → List ServerCall → Prop} :
    (∀ b calls', AnswersArg a err calls (.status q) b calls' → S b calls') ↔
      S err (calls ++ [.status q]) :=
  ⟨fun h => h _ _ ⟨rfl, rfl⟩, fun h _ _ ⟨hb, hcalls⟩ => by rw [hb, hcalls]; exact h⟩

/-- The driver is given a size and a value, and its result is returned. -/
theorem settles_set {q : StatusCall} {calls : List ServerCall} :
    Settles (AnswersArg a err) (ServerInstance.serve B) (Final B ∅ P)
        ⟨⟨awaitSet, s, []⟩, ⟨ServerInstance.iteration
          ((ServerInstance.status q >>= fun err => ServerInstance.replyStatus err) >>= fun _ =>
            pure true), t, []⟩, [], [], calls⟩ ↔
      P (.code err) s t (calls ++ [.status q]) :=
  (settles_server_ask stable_final context_handler).trans (forall_status.trans settles_awaitSet)

end Conversation

/-! ## What each kind comes to -/

section Kinds

variable {B : ServerBuild} {C : Build} {a : InfoAns} {err : Int32} {s : ClientState}
variable {t : ServerState} {P : Ret → ClientState → ServerState → List ServerCall → Prop}
variable {kernel : Ptr} {arg_index : UInt32} {arg_size : ℕ} {arg_value : Option ArgValue}
variable {calls : List ServerCall}

/-- The server reads the ID of a memory object. -/
abbrev setObject (kernel : Ptr) (arg_index : UInt32) : ServerM Unit :=
  PacketStream.readPacket IDPacket >>= fun argID =>
    ServerInstance.getObj argID.mData >>= fun memObj =>
      ServerInstance.status (.clSetKernelArg kernel arg_index 8 (some (Wire.enc memObj))) >>=
        fun err => ServerInstance.replyStatus err

/-- The server reads a size of local memory. -/
abbrev setLocalSize (kernel : Ptr) (arg_index : UInt32) : ServerM Unit :=
  PacketStream.readPacket (SimplePacket .payload UInt32) >>= fun size =>
    ServerInstance.status (.clSetKernelArg kernel arg_index size.mData.toNat none) >>= fun err =>
      ServerInstance.replyStatus err

/-- The server reads the value. -/
abbrev setValue (B : ServerBuild) (kernel : Ptr) (arg_index : UInt32) : ServerM Unit :=
  ServerInstance.readPayload B >>= fun payload =>
    ServerInstance.status (.clSetKernelArg kernel arg_index payload.length (some payload)) >>=
      fun err => ServerInstance.replyStatus err

/-- The client has read what the server wants, and writes it. -/
abbrev awaitedBy (C : Build) (arg_size : ℕ) (arg_value : Option ArgValue) (s : ClientState)
    (what : UInt8) : Side ClientState Exn Empty NoAnswer Ret :=
  ⟨catching CL_OUT_OF_HOST_MEMORY CL_DEVICE_NOT_AVAILABLE
    (writeArg C what arg_size arg_value >>= fun _ => awaitSuccess), s, []⟩

/-- The server, at something that it does before its reply. -/
abbrev setting (p : ServerM Unit) (t : ServerState) : Side ServerState Exn ServerCall Ans Bool :=
  ⟨ServerInstance.iteration (p >>= fun _ => pure true), t, []⟩

/-- A handle is sent as its ID, which denotes an object of the driver. -/
theorem settles_setObject {obj : Handle} (hsize : arg_size = 8)
    (hobj : arg_value.bind ArgValue.object = some obj) :
    Settles (AnswersArg a err) (ServerInstance.serve B) (Final B ∅ P)
        ⟨awaitedBy C arg_size arg_value s 'I'.toUInt8, setting (setObject kernel arg_index) t,
          [], [], calls⟩ ↔
      P (.code err) s t (calls ++ [.status (.clSetKernelArg kernel arg_index 8
        (some (Wire.enc (objectAt t.mObjects (GetID obj)))))]) := by
  have hwrite : writeArg C 'I'.toUInt8 arg_size arg_value =
      PacketStream.writePacket (⟨GetID obj⟩ : IDPacket) := by
    rw [writeArg.eq_def, if_pos ⟨rfl, hsize⟩, hobj]
  rw [awaitedBy, hwrite]
  refine settles_sent.trans ?_
  rw [← List.append_nil (PacketStream.frame _ _)]
  refine (settles_server_meets_packet (p := (⟨GetID obj⟩ : IDPacket)) stable_final context_handler
    (by decide)).trans ?_
  refine (settles_server_get stable_final context_handler).trans ?_
  exact settles_set

/-- What is not the size of a handle is sent as a value, where an ID is read. -/
theorem not_settles_setObject (h : ¬ (arg_size = 8 ∧ arg_value.bind ArgValue.object ≠ none)) :
    ¬ Settles (AnswersArg a err) (ServerInstance.serve B) (Final B ∅ P)
        ⟨awaitedBy C arg_size arg_value s 'I'.toUInt8, setting (setObject kernel arg_index) t,
          [], [], calls⟩ := by
  have hvalue (w : Bytes) : ¬ Settles (AnswersArg a err) (ServerInstance.serve B) (Final B ∅ P)
      ⟨⟨catching CL_OUT_OF_HOST_MEMORY CL_DEVICE_NOT_AVAILABLE
        ((PacketStream.write .payload w : ClientM Unit) >>= fun _ => awaitSuccess), s, []⟩,
        setting (setObject kernel arg_index) t, [], [], calls⟩ := by
    rw [settles_sent, ← List.append_nil (PacketStream.frame _ _)]
    exact not_settles_server_meets context_handler terminal_final (by decide) (by decide)
  have hcrashed : ¬ Settles (AnswersArg a err) (ServerInstance.serve B) (Final B ∅ P)
      ⟨⟨.spin, s, []⟩, setting (setObject kernel arg_index) t, [], [], calls⟩ := not_settles_crashed
  by_cases hsize : arg_size = 8
  · have hobj : arg_value.bind ArgValue.object = none := by
      by_contra hobj
      exact h ⟨hsize, hobj⟩
    rw [awaitedBy, writeArg.eq_def, if_pos ⟨rfl, hsize⟩, hobj]
    exact hcrashed
  · rw [awaitedBy, writeArg.eq_def, if_neg fun h => hsize h.2, if_neg (by decide)]
    cases arg_value with
    | some value => exact hvalue _
    | none =>
      by_cases hzero : arg_size = 0
      · rw [if_pos hzero]
        exact hvalue _
      · rw [if_neg hzero]
        exact hcrashed

/-- A size is sent as a number of 32 bits. -/
theorem settles_setLocalSize :
    Settles (AnswersArg a err) (ServerInstance.serve B) (Final B ∅ P)
        ⟨awaitedBy C arg_size arg_value s 'S'.toUInt8, setting (setLocalSize kernel arg_index) t,
          [], [], calls⟩ ↔
      P (.code err) s t (calls ++ [.status (.clSetKernelArg kernel arg_index
        (arg_size % 2 ^ 32) none)]) := by
  have hwrite : writeArg C 'S'.toUInt8 arg_size arg_value =
      PacketStream.writePacket (⟨UInt32.ofNat arg_size⟩ : SimplePacket .payload UInt32) := by
    rw [writeArg.eq_def, if_neg fun h => absurd h.1 (by decide), if_pos rfl]
  rw [awaitedBy, hwrite, ← UInt32.toNat_ofNat']
  refine settles_sent.trans ?_
  rw [← List.append_nil (PacketStream.frame _ _)]
  refine (settles_server_meets_packet
    (p := (⟨UInt32.ofNat arg_size⟩ : SimplePacket .payload UInt32)) stable_final context_handler
    (by decide)).trans ?_
  exact settles_set

/-- What the client sends when it is asked for the value. -/
theorem writeArg_value {value : ArgValue} (hv : value.bytes.length = arg_size) :
    writeArg C 'P'.toUInt8 arg_size (some value) =
      PacketStream.write .payload (encPayload C.zlib .uint32 value.bytes) := by
  rw [writeArg.eq_def, if_neg fun h => absurd h.1 (by decide), if_neg (by decide), ← hv]
  exact congrArg (fun data => PacketStream.write .payload (encPayload C.zlib .uint32 data))
    (memRead_length value.bytes)

/-- A value is sent as it is. -/
theorem settles_setValue {value : ArgValue} (hv : value.bytes.length = arg_size)
    (hz : SameFormat C.zlib B.zlib) (hsize : arg_size < 2 ^ 32) :
    Settles (AnswersArg a err) (ServerInstance.serve B) (Final B ∅ P)
        ⟨awaitedBy C arg_size (some value) s 'P'.toUInt8, setting (setValue B kernel arg_index) t,
          [], [], calls⟩ ↔
      P (.code err) s t (calls ++ [.status (.clSetKernelArg kernel arg_index arg_size
        (some value.bytes))]) := by
  have hreads : Reads (decPayload B.zlib .uint32) (encPayload C.zlib .uint32 value.bytes)
      value.bytes := reads_payload hz (by rw [hv]; exact hsize) .payload .payload
  rw [awaitedBy, writeArg_value hv]
  refine settles_sent.trans ?_
  rw [← List.append_nil (PacketStream.frame _ _)]
  refine (settles_server_meets stable_final context_handler hreads (by decide)).trans ?_
  rw [hv]
  exact settles_set

end Kinds

/-! ## The whole call -/

section Call

variable {B : ServerBuild} {C : Build} {a : InfoAns} {err : Int32} {s : ClientState}
variable {t : ServerState} {kernel : Handle} {arg_index : UInt32} {arg_size : ℕ}
variable {arg_value : Option ArgValue}
variable {P : Ret → ClientState → ServerState → List ServerCall → Prop}

/-- The server, when the driver has answered. -/
abbrev answerKind (B : ServerBuild) (kernel : Ptr) (arg_index : UInt32) (a : InfoAns) :
    ServerM Unit :=
  if a.err ≠ CL_SUCCESS then ServerInstance.writeError a.err
  else
    match ArgKind.of a with
    | .object => ServerInstance.writeValue 'I'.toUInt8 >>= fun _ => PacketStream.flush >>= fun _ =>
        setObject kernel arg_index
    | .localSize => ServerInstance.writeValue 'S'.toUInt8 >>= fun _ =>
        PacketStream.flush >>= fun _ => setLocalSize kernel arg_index
    | .value => ServerInstance.writeValue 'P'.toUInt8 >>= fun _ => PacketStream.flush >>= fun _ =>
        setValue B kernel arg_index

theorem setKernelArg_eq (B : ServerBuild) :
    ServerInstance.setKernelArg B = PacketStream.readPacket KernelArg >>= fun arg =>
      ServerInstance.getObj arg.mKernelID >>= fun kernel =>
        ServerInstance.info
          (.clGetKernelArgInfo kernel arg.mArgIndex CL_KERNEL_ARG_ADDRESS_QUALIFIER) 4 >>= fun a =>
            answerKind B kernel arg.mArgIndex a := by
  rw [ServerInstance.setKernelArg]
  refine bind_congr fun arg => bind_congr fun kernel => bind_congr fun a => ?_
  by_cases herr : a.err = CL_SUCCESS
  · rw [answerKind, if_neg (not_not.mpr herr), if_neg (not_not.mpr herr), ArgKind.of]
    dsimp only
    split_ifs <;> rfl
  · rw [answerKind, if_pos herr, if_pos herr]

/-- There is one answer to a query. -/
theorem forall_info {q : InfoQuery} {n : ℕ} {calls : List ServerCall}
    {S : InfoAns → List ServerCall → Prop} :
    (∀ b calls', AnswersArg a err calls (.info q n) b calls' → S b calls') ↔
      S a (calls ++ [.info q n]) :=
  ⟨fun h => h _ _ ⟨rfl, rfl⟩, fun h _ _ ⟨hb, hcalls⟩ => by rw [hb, hcalls]; exact h⟩

/-- The request reaches the server, which asks the driver. -/
theorem settles_asked :
    Settles (AnswersArg a err) (ServerInstance.serve B) (Final B ∅ P)
        (start B (clSetKernelArg C (some kernel) arg_index arg_size arg_value) s t []) ↔
      Settles (AnswersArg a err) (ServerInstance.serve B) (Final B ∅ P)
        ⟨⟨awaitWhat C arg_size arg_value, s, []⟩,
          setting (answerKind B (objectAt t.mObjects (GetID kernel)) arg_index a) t, [], [],
          [argQuery t kernel arg_index]⟩ := by
  have hK := context_catching CL_OUT_OF_HOST_MEMORY CL_DEVICE_NOT_AVAILABLE
  have hhandler : ServerInstance.handler B .setKernelArg = some _ := rfl
  rw [clSetKernelArg]
  refine (settles_client_writePacket stable_final hK).trans ?_
  refine (settles_client_flushes stable_final hK).trans ?_
  refine (settles_dispatch hhandler rfl).trans ?_
  rw [setKernelArg_eq]
  refine (settles_server_meets_packet (p := (⟨arg_index, GetID kernel⟩ : KernelArg)) (u := [])
    stable_final context_handler (by decide)).trans ?_
  refine (settles_server_get stable_final context_handler).trans ?_
  exact (settles_server_ask stable_final context_handler).trans forall_info

/-- The driver has refused the question. -/
theorem settles_refused (herr : a.err ≠ CL_SUCCESS) {calls : List ServerCall} {k : Ptr} :
    Settles (AnswersArg a err) (ServerInstance.serve B) (Final B ∅ P)
        ⟨⟨awaitWhat C arg_size arg_value, s, []⟩, setting (answerKind B k arg_index a) t, [], [],
          calls⟩ ↔
      P (.code a.err) s t calls := by
  have hK := context_catching CL_OUT_OF_HOST_MEMORY CL_DEVICE_NOT_AVAILABLE
  rw [answerKind, if_pos herr, ServerInstance.writeError]
  refine settles_replied.trans ?_
  rw [List.nil_append, List.nil_append, ← List.append_nil (PacketStream.frame _ _)]
  exact (settles_client_meets_error stable_final hK a.err).trans
    (settles_returned.trans (and_iff_right rfl))

/-- A size that has more than 32 bits is not what the driver is given. -/
theorem argCall_ne {k k' : Ptr} {i i' : UInt32} {n n' : ℕ} {v v' : Option Bytes} (h : n ≠ n') :
    ServerCall.status (.clSetKernelArg k i n v) ≠ .status (.clSetKernelArg k' i' n' v') := by
  intro heq
  simp only [ServerCall.status.injEq, StatusCall.clSetKernelArg.injEq] at heq
  exact h heq.2.2.1

theorem answers_arg : Answers (AnswersArg a err) := by
  intro calls c
  cases c with
  | info q n => exact ⟨a, _, rfl, rfl⟩
  | status q => exact ⟨err, _, rfl, rfl⟩
  | _ => exact ⟨refuse _, _, rfl⟩

/-- What has been called stays in the list. -/
theorem mem_calls {c : ServerCall} (calls : List ServerCall) (q : ServerCall) (b : Ans q)
    (calls' : List ServerCall) (h : AnswersArg a err calls q b calls') (hc : c ∈ calls) :
    c ∈ calls' := by
  have happend : calls' = calls ++ [q] := by
    cases q with
    | info q n => exact h.2
    | status q => exact h.2
    | _ => exact h
  rw [happend]
  exact List.mem_append_left _ hc

/-- A value that is too long for its size field reaches the driver as a shorter one. -/
theorem not_settles_setValue {value : ArgValue} (hv : value.bytes.length = arg_size)
    (hz : SameFormat C.zlib B.zlib) (hfills : Zlib.Fills B.zlib) (hsize : 2 ^ 32 ≤ arg_size)
    (hkind : ArgKind.of a = .value) (ha : a.err = CL_SUCCESS) {calls : List ServerCall} :
    ¬ Settles (AnswersArg a err) (ServerInstance.serve B)
        (Final B ∅ (ArgSet t kernel arg_index arg_size (some value) a err s))
        ⟨awaitedBy C arg_size (some value) s 'P'.toUInt8,
          setting (setValue B (objectAt t.mObjects (GetID kernel)) arg_index) t, [], [],
          calls⟩ := by
  obtain ⟨w, x, rest, hw, hreads, hx⟩ :=
    exists_reads_decPayload hz hfills .uint32 value.bytes
  have hframe : PacketStream.frame .payload (encPayload C.zlib .uint32 value.bytes) =
      PacketStream.frame .payload w ++ rest := by
    rw [hw]
    rfl
  rw [awaitedBy, writeArg_value hv, settles_sent, hframe]
  intro h
  have hread := (settles_server_meets stable_final context_handler hreads (by decide)).mp h
  -- the driver has been called with what was read, and the list keeps it
  have hcall := (settles_server_ask stable_final context_handler).mp hread err _ ⟨rfl, rfl⟩
  obtain ⟨y, hrun, hfinal⟩ := hcall.exists_final answers_arg
  have hmem := env_of_run mem_calls (List.mem_append_right calls (List.mem_singleton_self _)) hrun
  obtain ⟨r, s', t', calls', ⟨-, -, hset⟩, rfl⟩ := (final_empty _).mp hfinal
  rw [if_neg (not_not.mpr ha), hkind] at hset
  rw [start, hset.2] at hmem
  have hlen : x.length ≠ arg_size := ne_of_lt (lt_of_lt_of_le hx hsize)
  rcases List.mem_cons.mp hmem with heq | hmem
  · exact absurd heq (by simp [argQuery])
  · exact argCall_ne hlen (List.mem_singleton.mp hmem)

/-- The call settles if and only if the two sides agree about the argument. -/
theorem settles_clSetKernelArg (hz : SameFormat C.zlib B.zlib) (hfills : Zlib.Fills B.zlib)
    (hv : ∀ value, arg_value = some value → value.bytes.length = arg_size)
    (hnull : a.err = CL_SUCCESS → ArgKind.of a = .value → arg_value ≠ none) :
    Settles (AnswersArg a err) (ServerInstance.serve B)
        (Final B ∅ (ArgSet t kernel arg_index arg_size arg_value a err s))
        (start B (clSetKernelArg C (some kernel) arg_index arg_size arg_value) s t []) ↔
      Fits arg_size arg_value a := by
  refine settles_asked.trans ?_
  by_cases ha : a.err = CL_SUCCESS
  swap
  · refine (settles_refused ha).trans (iff_of_true ⟨rfl, rfl, ?_⟩ (Or.inl ha))
    rw [if_pos ha]
    exact ⟨rfl, rfl⟩
  rw [Fits, or_iff_right (not_not.mpr ha), setting, answerKind, if_neg (not_not.mpr ha)]
  cases hkind : ArgKind.of a with
  | object =>
    refine settles_what.trans ?_
    by_cases hobj : arg_size = 8 ∧ arg_value.bind ArgValue.object ≠ none
    · obtain ⟨obj, hobj'⟩ := Option.ne_none_iff_exists'.mp hobj.2
      refine (settles_setObject hobj.1 hobj').trans (iff_of_true ⟨rfl, rfl, ?_⟩ hobj)
      rw [if_neg (not_not.mpr ha), hkind, expectedArg, if_pos hobj.1, argObject, hobj']
      exact ⟨rfl, rfl⟩
    · exact iff_of_false (not_settles_setObject hobj) hobj
  | localSize =>
    refine settles_what.trans (settles_setLocalSize.trans ?_)
    rw [ArgSet, if_neg (not_not.mpr ha), hkind]
    constructor
    · rintro ⟨-, -, -, hcalls⟩
      by_contra hsize
      have hlt : arg_size % 2 ^ 32 < 2 ^ 32 := Nat.mod_lt _ (by decide)
      simp only [List.cons_append, List.nil_append, List.cons.injEq, and_true, true_and] at hcalls
      exact argCall_ne (ne_of_lt (lt_of_lt_of_le hlt (not_lt.mp hsize))) hcalls
    · intro hsize
      rw [Nat.mod_eq_of_lt hsize]
      exact ⟨rfl, rfl, rfl, rfl⟩
  | value =>
    refine settles_what.trans ?_
    obtain ⟨value, rfl⟩ := Option.ne_none_iff_exists'.mp (hnull ha hkind)
    by_cases hsize : arg_size < 2 ^ 32
    · refine (settles_setValue (hv value rfl) hz hsize).trans (iff_of_true ⟨rfl, rfl, ?_⟩ hsize)
      rw [if_neg (not_not.mpr ha), hkind]
      exact ⟨rfl, rfl⟩
    · exact iff_of_false
        (not_settles_setValue (hv value rfl) hz hfills (not_lt.mp hsize) hkind ha) hsize

end Call

/-- What a call with any kernel should come to. -/
def KernelArgSet (t : ServerState) (kernel : Option Handle) (arg_index : UInt32) (arg_size : ℕ)
    (arg_value : Option ArgValue) (a : InfoAns) (err : Int32) (s : ClientState) (r : Ret)
    (s' : ClientState) (t' : ServerState) (calls : List ServerCall) : Prop :=
  match kernel with
  | none => r = .code CL_INVALID_KERNEL ∧ s' = s ∧ t' = t ∧ calls = []
  | some kernel => ArgSet t kernel arg_index arg_size arg_value a err s r s' t' calls

/-- **Setting a kernel argument**: the two sides agree about the packets, and the driver is given
what the application has given, if and only if the argument is the handle of an object where an
object is wanted, and has at most 32 bits of size elsewhere. -/
theorem kernelArg_settles_iff (C : Build) (B : ServerBuild) (hz : SameFormat C.zlib B.zlib)
    (hfills : Zlib.Fills B.zlib) (s : ClientState) (t : ServerState) (kernel : Option Handle)
    (arg_index : UInt32) (arg_size : ℕ) (arg_value : Option ArgValue) (a : InfoAns) (err : Int32)
    (hv : ∀ value, arg_value = some value → value.bytes.length = arg_size)
    (hnull : a.err = CL_SUCCESS → ArgKind.of a = .value → arg_value ≠ none) :
    Settles (AnswersArg a err) (ServerInstance.serve B)
        (Final B ∅ (KernelArgSet t kernel arg_index arg_size arg_value a err s))
        (start B (clSetKernelArg C kernel arg_index arg_size arg_value) s t []) ↔
      kernel = none ∨ Fits arg_size arg_value a := by
  cases kernel with
  | none => exact iff_of_true (settles_return ⟨rfl, rfl, rfl, rfl⟩) (Or.inl rfl)
  | some kernel =>
    rw [or_iff_right (Option.some_ne_none kernel)]
    exact settles_clSetKernelArg hz hfills hv hnull

/-- A driver that has found the address space of the argument. -/
def addressAns (AS : UInt32) : InfoAns := ⟨CL_SUCCESS, some 4, Wire.enc AS⟩

/-- The four bytes of a private argument. -/
theorem kernelArg_settles_iff_private :
    Settles (AnswersArg (addressAns 0x119E) CL_SUCCESS) (ServerInstance.serve ⟨plainBuild, 210⟩)
      (Final ⟨plainBuild, 210⟩ ∅ (KernelArgSet ⟨[5], none⟩ (some ⟨0, 0, .kernel⟩) 0 4
        (some ⟨[1, 2, 3, 4], none⟩) (addressAns 0x119E) CL_SUCCESS ⟨[], 0, [], false, []⟩))
      (start ⟨plainBuild, 210⟩ (clSetKernelArg plainBuild (some ⟨0, 0, .kernel⟩) 0 4
        (some ⟨[1, 2, 3, 4], none⟩)) ⟨[], 0, [], false, []⟩ ⟨[5], none⟩ []) := by
  have hkind : ArgKind.of (addressAns 0x119E) = .value := by decide
  have hfits : Fits 4 (some ⟨[1, 2, 3, 4], none⟩) (addressAns 0x119E) := by
    rw [Fits, hkind]
    exact Or.inr (by decide)
  exact (kernelArg_settles_iff plainBuild ⟨plainBuild, 210⟩ .plain nofun ⟨[], 0, [], false, []⟩
    ⟨[5], none⟩ (some ⟨0, 0, .kernel⟩) 0 4 (some ⟨[1, 2, 3, 4], none⟩) (addressAns 0x119E)
    CL_SUCCESS (fun value h => by rw [← Option.some.inj h]; rfl)
    fun _ _ => Option.some_ne_none _).mpr
    (Or.inr hfits)

/-- Four bytes for a buffer: the client sends them as a payload, and the server reads an ID. -/
theorem kernelArg_misread :
    ¬ ∀ (C : Build) (B : ServerBuild), SameFormat C.zlib B.zlib → Zlib.Fills B.zlib →
      ∀ (s : ClientState) (t : ServerState) (kernel : Option Handle) (arg_index : UInt32)
        (arg_size : ℕ) (arg_value : Option ArgValue) (a : InfoAns) (err : Int32),
        (∀ value, arg_value = some value → value.bytes.length = arg_size) →
        (a.err = CL_SUCCESS → ArgKind.of a = .value → arg_value ≠ none) →
        Settles (AnswersArg a err) (ServerInstance.serve B)
          (Final B ∅ (KernelArgSet t kernel arg_index arg_size arg_value a err s))
          (start B (clSetKernelArg C kernel arg_index arg_size arg_value) s t []) := by
  intro h
  have hsettles := h plainBuild ⟨plainBuild, 210⟩ .plain nofun ⟨[], 0, [], false, []⟩ ⟨[5], none⟩
    (some ⟨0, 0, .kernel⟩) 0 4 (some ⟨[1, 2, 3, 4], none⟩)
    (addressAns CL_KERNEL_ARG_ADDRESS_GLOBAL) CL_SUCCESS
    (fun value h => by rw [← Option.some.inj h]; rfl) fun _ _ => Option.some_ne_none _
  have hkind : ArgKind.of (addressAns CL_KERNEL_ARG_ADDRESS_GLOBAL) = .object := by decide
  have hanswered := settles_asked.mp hsettles
  rw [setting, answerKind, if_neg (by decide), hkind] at hanswered
  exact not_settles_setObject (fun h => absurd h.1 (by decide)) (settles_what.mp hanswered)

end RemoteCL

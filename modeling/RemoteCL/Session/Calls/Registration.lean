import RemoteCL.Client.Memory
import RemoteCL.Session.Rules

/-!
# Registering an event callback

The registration is answered like a request that returns nothing, except that the handler goes on
after it has written an error, and writes a success behind it.  The client takes the error for its
reply, and its next call finds the success.
-/

namespace RemoteCL

open ByteStream Conversation Client

/-- A driver that answers `err` to whatever returns only a status. -/
def AnswersStatus (err : Int32) : Unit → (c : ServerCall) → Ans c → Unit → Prop
  | _, .status _, a, _ => a = err
  | _, _, _, _ => True

/-- What a registration should come to: the client returns what the driver returned, and has the
callback in its list, and the server has not changed. -/
def Registered (err : Int32) (callback : Callback) (s : ClientState) (t : ServerState) (r : Ret)
    (s' : ClientState) (t' : ServerState) (_ : Unit) : Prop :=
  r = .code err ∧ t' = t ∧ s' = { s with mCallbacks := s.mCallbacks ++ [callback] }

section Registration

variable {B : ServerBuild} {s s' : ClientState} {t : ServerState} {err : Int32}
variable {callback : Callback}

/-- The `catch` clauses of `clSetEventCallback`. -/
def onCallback : Exn → ClientM Ret
  | .errorPacket e => pure (.code e)
  | .badAlloc => pure (.code CL_OUT_OF_HOST_MEMORY)
  | .terminate => Prog.throw .terminate
  | _ => pure (.code CL_DEVICE_NOT_AVAILABLE)

/-- The client, from the flush of its request on. -/
abbrev awaitRegistered : ClientM Ret :=
  (PacketStream.readPacket SuccessPacket >>= fun _ => pure (.code CL_SUCCESS)).tryCatch onCallback

/-- The client's side of a registration. -/
theorem clSetEventCallback_eq (event : Handle) (type : UInt32) (pfn_notify user_data : ℕ) :
    clSetEventCallback (some event) type (some pfn_notify) user_data =
      Prog.getState >>= fun s =>
        if !s.hasEventStream then pure (.code CL_INVALID_OPERATION)
        else (Prog.getState >>= fun s =>
          Prog.putState { s with
            mCallbacks := s.mCallbacks ++ [.event event pfn_notify user_data] } >>= fun _ =>
          PacketStream.writeNoexcept .registerEventCallback (Wire.enc
            (⟨GetID event, (UInt32.ofNat s.mCallbacks.length).toUInt16, type⟩ :
              RegisterEventCallback)) >>= fun _ =>
          PacketStream.flush >>= fun _ =>
          PacketStream.readPacket SuccessPacket >>= fun _ =>
            pure (.code CL_SUCCESS)).tryCatch onCallback := by
  have hcatch : onCallback = fun
      | .errorPacket e => pure (.code e)
      | .badAlloc => pure (.code CL_OUT_OF_HOST_MEMORY)
      | .terminate => Prog.throw .terminate
      | _ => pure (.code CL_DEVICE_NOT_AVAILABLE) := by
    funext e
    cases e <;> rfl
  rw [hcatch, clSetEventCallback]
  exact bind_congr fun s => if_congr Iff.rfl rfl (congrArg (Prog.tryCatch · _) rfl)

/-- The client takes one packet, and nothing may be left. -/
theorem settles_awaitRegistered_success (d : Bytes) :
    Settles (AnswersStatus err) (ServerInstance.serve B) (Final B ∅ (Registered err callback s t))
        ⟨⟨awaitRegistered, s', []⟩, ⟨ServerInstance.serve B, t, []⟩, [],
          packet (⟨⟩ : SuccessPacket) ++ d, ()⟩ ↔
      d = [] ∧ Registered err callback s t (.code CL_SUCCESS) s' t () :=
  (settles_client_meets_packet stable_final (Prog.Context.tryCatch onCallback) (by decide)).trans
    settles_returned

theorem settles_awaitRegistered_error (e : Int32) (d : Bytes) :
    Settles (AnswersStatus err) (ServerInstance.serve B) (Final B ∅ (Registered err callback s t))
        ⟨⟨awaitRegistered, s', []⟩, ⟨ServerInstance.serve B, t, []⟩, [],
          packet (⟨e⟩ : ErrorPacket) ++ d, ()⟩ ↔
      d = [] ∧ Registered err callback s t (.code e) s' t () :=
  (settles_client_meets_error stable_final (Prog.Context.tryCatch onCallback) e).trans
    settles_returned

/-- The server writes one packet, or two. -/
theorem settles_registerEventCallback (P : RegisterEventCallback) (callback : Callback) :
    Settles (AnswersStatus err) (ServerInstance.serve B) (Final B ∅ (Registered err callback s t))
        ⟨⟨awaitRegistered, { s with mCallbacks := s.mCallbacks ++ [callback] }, []⟩,
          ⟨ServerInstance.serve B, t, []⟩, packet P, [], ()⟩ ↔
      err = CL_SUCCESS := by
  have hhandler : ServerInstance.handler B .registerEventCallback = some _ := rfl
  have hK (onError : Exn → ServerM Unit) : Prog.Context fun p : ServerM Unit =>
      ServerInstance.iteration (p.tryCatch onError >>= fun _ => pure true) :=
    (Prog.Context.tryCatch onError).comp context_handler
  refine (settles_dispatch hhandler rfl).trans ?_
  rw [ServerInstance.registerEventCallback, ← List.append_nil (packet P)]
  refine (settles_server_meetsNoexcept stable_final (hK _) (LawfulWire.reads_dec P)
    (by decide)).trans ?_
  refine (settles_server_get stable_final (hK _)).trans ?_
  refine (settles_server_ask stable_final (hK _)).trans ?_
  have hanswer {S : Int32 → Unit → Prop} (q : StatusCall) :
      (∀ a e', AnswersStatus err () (.status q) a e' → S a e') ↔ S err () :=
    ⟨fun h => h err () rfl, fun h a _ ha => by rw [show a = err from ha]; exact h⟩
  refine (hanswer _).trans ?_
  by_cases herr : err = CL_SUCCESS
  · refine iff_of_true ?_ herr
    rw [if_neg (not_not.mpr herr), ServerInstance.writeSuccess,
      ← bind_pure (PacketStream.writePacket _ : ServerM Unit)]
    refine (settles_server_writePacket stable_final (hK _)).mpr (settles_handled.mpr ?_)
    rw [List.nil_append, List.nil_append, ← List.append_nil (packet _),
      settles_awaitRegistered_success]
    exact ⟨rfl, by rw [herr], rfl, rfl⟩
  · refine iff_of_false (fun h => ?_) herr
    rw [if_pos herr, ServerInstance.writeError, ServerInstance.writeSuccess,
      settles_server_writePacket stable_final (hK _),
      ← bind_pure (PacketStream.writePacket _ : ServerM Unit),
      settles_server_writePacket stable_final (hK _)] at h
    have h' := settles_handled.mp h
    rw [List.nil_append, List.nil_append, settles_awaitRegistered_error] at h'
    exact absurd h'.1 (List.cons_ne_nil _ _)

/-- The request of a registration reaches the server, and the client waits. -/
theorem settles_clSetEventCallback (hs : s.hasEventStream = true) (event : Handle) (type : UInt32)
    (pfn_notify user_data : ℕ) :
    Settles (AnswersStatus err) (ServerInstance.serve B)
        (Final B ∅ (Registered err (.event event pfn_notify user_data) s t))
        (start B (clSetEventCallback (some event) type (some pfn_notify) user_data) s t ()) ↔
      err = CL_SUCCESS := by
  have hK := Prog.Context.tryCatch (C := Empty) (A := NoAnswer) (σ := ClientState) onCallback
  rw [clSetEventCallback_eq]
  refine (settles_client_get stable_final Prog.Context.hole).trans ?_
  rw [hs, if_neg (by decide)]
  refine (settles_client_get stable_final hK).trans ?_
  refine (settles_client_put stable_final hK).trans ?_
  refine (settles_client_writeNoexcept stable_final hK).trans ?_
  refine (settles_client_flushes stable_final hK).trans ?_
  exact settles_registerEventCallback _ _

end Registration

/-- **Registering an event callback**: it is answered exactly once, and the client returns the
driver's result, if and only if this is a success. -/
theorem registration_settles_iff (B : ServerBuild) (s : ClientState) (t : ServerState)
    (event : Handle) (type : UInt32) (pfn_notify user_data : ℕ) (err : Int32) :
    Settles (AnswersStatus err) (ServerInstance.serve B)
        (Final B ∅ (Registered err (.event event pfn_notify user_data)
          { s with hasEventStream := true } t))
        (start B (clSetEventCallback (some event) type (some pfn_notify) user_data)
          { s with hasEventStream := true } t ()) ↔
      err = CL_SUCCESS :=
  settles_clSetEventCallback rfl event type pfn_notify user_data

/-- The driver refuses a callback: an error is written, and a success behind it. -/
theorem registration_answers_twice :
    ¬ ∀ (B : ServerBuild) (s : ClientState) (t : ServerState) (event : Handle) (type : UInt32)
      (pfn_notify user_data : ℕ) (err : Int32),
      Settles (AnswersStatus err) (ServerInstance.serve B)
        (Final B ∅ (Registered err (.event event pfn_notify user_data)
          { s with hasEventStream := true } t))
        (start B (clSetEventCallback (some event) type (some pfn_notify) user_data)
          { s with hasEventStream := true } t ()) := by
  intro h
  have hsettles := h ⟨plainBuild, 210⟩ ⟨[], 0, [], false, []⟩ ⟨[], none⟩ ⟨0, 0, .event⟩ 0 0 0
    CL_INVALID_VALUE
  exact absurd ((settles_clSetEventCallback rfl _ _ _ _).mp hsettles) (by decide)

end RemoteCL

import RemoteCL.Session.Runs
import RemoteCL.Session.WaitLists
import RemoteCL.Session.Waiting
import RemoteCL.Theory.Asking
import RemoteCL.Theory.Determinism

/-!
# Calls that wait for events, as programs

`RemoteCL.Session.Waiting` speaks of calls by what the driver does for them.  Here the programs of
the client and the server are run with a driver of that kind.

A call of the client *passes on* a question if that is the one question that the driver is asked for
it, and an error of the driver is the result of the call.  `clWaitForEvents`, `clFinish`,
`clSetUserEventStatus` and `clEnqueueReadBuffer` are such calls (`passesOn_clWaitForEvents` and so
on; a read always blocks on the server's side).  So the client cannot have returned, and no other
question can have been asked, before the driver has answered (`PassesOn.not_returned`,
`PassesOn.question_eq`).

Hence a call that waits for a user event keeps the connection, and nobody else gets through to the
driver (`keeps_connection`), and with the connection free the status of a user event gets there
(`setUserEventStatus_gets_through`).
-/

namespace RemoteCL
namespace Waiting

open ByteStream Conversation Wire LawfulWire Client Dependencies

/-! ## The driver -/

/-- A driver that has events.  `does` says what its functions do about them.  A function returns
when it may, and commands may be completed before. -/
def driver (does : ServerCall → Call) (events : Events) (c : ServerCall) (_ : Ans c)
    (events' : Events) : Prop :=
  ∃ ticked, Ticks events ticked ∧ (does c).Returns ticked ∧ events' = (does c).run ticked

/-- A function that waits for a user event does not return. -/
theorem not_driver_of_blocked {does : ServerCall → Call} {events : Events} {c : ServerCall}
    {event_list : List ℕ} {event : ℕ} (hc : does c = .await event_list)
    (hevent : event ∈ event_list) (hblocked : Blocked events event) (a : Ans c)
    (events' : Events) : ¬ driver does events c a events' := by
  rintro ⟨ticked, hticks, hreturns, -⟩
  rw [hc] at hreturns
  exact hreturns event hevent (hticks.blocked_iff.mpr hblocked).pending

/-! ## Calls that pass on a question -/

/-- A driver whose commands fail with this error, and whatever else returns a status. -/
def failing (err : Int32) : Driver
  | _, .status _ => err
  | _, .enqueue _ => ⟨err, 0, []⟩
  | _, c => refuse c

/-- The call asks the driver this, and nothing else, and returns the error. -/
def Fails (err : Int32) (c : ServerCall) (r : Ret) (_ : ClientState) (_ : ServerState)
    (log : List Asked) : Prop :=
  r = .code err ∧ ∃ a, log = [⟨c, a⟩]

/-- What the driver answers to this question, if it is an error, is the result of the call. -/
def PassesOn (B : ServerBuild) (p : ClientM Ret) (s : ClientState) (t : ServerState)
    (c : ServerCall) : Prop :=
  ∀ err, err ≠ CL_SUCCESS → Settles (failing err).environment (ServerInstance.serve B)
    (Ended B (Fails err c) False) (start B p s t [])

section PassesOn

variable {B : ServerBuild} {C : Build} {p : ClientM Ret} {s : ClientState} {t : ServerState}
variable {c : ServerCall} {δ : Type} {e : δ}

/-- With such a driver the call returns the error. -/
theorem PassesOn.exists_final (h : PassesOn B p s t c) {err : Int32} (herr : err ≠ CL_SUCCESS)
    {y : CallConfig (List Asked)}
    (hrun : Relation.ReflTransGen
      (Conversation.Step (failing err).environment (ServerInstance.serve B)) (start B p s t []) y) :
    ∃ z, Relation.ReflTransGen
        (Conversation.Step (failing err).environment (ServerInstance.serve B)) y z ∧
      z.client.prog = .ret (.code err) ∧ ∃ a, z.env = [⟨c, a⟩] := by
  have hsettles := (h err herr).run stable_ended hrun
  obtain ⟨z, hyz, hended⟩ := hsettles.exists_final (failing err).answers
  obtain ⟨r, s', t', log, ⟨rfl, hlog⟩, rfl⟩ | ⟨hfalse, -⟩ := hended
  · exact ⟨_, hyz, rfl, hlog⟩
  · exact hfalse.elim

/-- As long as the driver has not answered, the call has not returned: the result depends on the
answer. -/
theorem PassesOn.not_returned (h : PassesOn B p s t c) {y : CallConfig δ}
    (hrun : Quiet (ServerInstance.serve B) (start B p s t e) y) (r : Ret) :
    y.client.prog ≠ .ret r := by
  intro hr
  have hresult (err : Int32) (herr : err ≠ CL_SUCCESS) : r = .code err := by
    obtain ⟨z, hyz, hz, -⟩ := h.exists_final herr (hrun.run (failing err).environment [])
    have hkept := prog_of_run (x := y.withEnv []) hr hyz
    exact Prog.ret.inj (hkept.symm.trans hz)
  have hsame := (hresult (-5) (by decide)).symm.trans (hresult (-30) (by decide))
  exact absurd (Ret.code.inj hsame) (by decide)

/-- The driver can have been asked one thing only. -/
theorem PassesOn.question_eq (h : PassesOn B p s t c) {y : CallConfig δ}
    (hrun : Quiet (ServerInstance.serve B) (start B p s t e) y) {c' : ServerCall}
    {k : Ans c' → ServerM Bool} (hcall : y.server.prog = .call c' k) : c' = c := by
  have hasked := hrun.run (failing (-5)).environment []
  obtain ⟨client, ⟨prog, t', o⟩, u, d, e'⟩ := y
  cases hcall
  have hstep : Conversation.Step (failing (-5)).environment (ServerInstance.serve B)
      ⟨client, ⟨.call c' k, t', o⟩, u, d, []⟩ _ :=
    .server (Move.call (i := u) (d := []) ⟨rfl, rfl⟩)
  obtain ⟨z, hyz, -, a, hz⟩ := h.exists_final (by decide) (hasked.tail hstep)
  obtain ⟨more, hmore⟩ := Driver.prefix_of_run hyz
  rw [hz] at hmore
  exact congrArg Sigma.fst (List.cons.inj hmore).1

/-- The question gets to the driver. -/
theorem PassesOn.asked (h : PassesOn B p s t c) :
    ∃ (y : CallConfig δ) (k : Ans c → ServerM Bool),
      Quiet (ServerInstance.serve B) (start B p s t e) y ∧ y.server.prog = .call c k := by
  have herr : (-5 : Int32) ≠ CL_SUCCESS := by decide
  obtain ⟨z, hrun, hz, -⟩ := h.exists_final herr .refl
  rcases quiet_or_asked hrun with hquiet | ⟨y, c', k, hquiet, hcall⟩
  · exact absurd hz (h.not_returned hquiet _)
  · obtain rfl := h.question_eq hquiet hcall
    exact ⟨y.withEnv e, k, hquiet.run (fun _ _ _ _ => False) e, hcall⟩

end PassesOn

section Calls

variable {B : ServerBuild} {C : Build} {s : ClientState} {t : ServerState}

/-- The driver's function returns the error, and the server replies. -/
theorem settles_fails {err badAlloc others : Int32} (herr : err ≠ CL_SUCCESS) {q : StatusCall} :
    Settles (failing err).environment (ServerInstance.serve B)
      (Ended B (Fails err (.status q)) False)
      ⟨⟨catching badAlloc others (PacketStream.readPacket SuccessPacket >>= fun _ =>
          pure (.code CL_SUCCESS)), s, []⟩,
        ⟨handling (ServerInstance.status q >>= ServerInstance.replyStatus), t, []⟩,
        [], [], []⟩ := by
  have hanswer : failing err [] (.status q) = err := rfl
  refine (Driver.settles_ask stable_ended context_handler).mpr ?_
  rw [hanswer, ServerInstance.replyStatus, if_pos herr]
  refine (settles_replies stable_ended).mpr ((settles_error stable_ended).mpr (.final (Or.inl ?_)))
  exact ⟨_, _, _, _, ⟨rfl, _, rfl⟩, rfl⟩

variable {event_list : List Handle} {queue buffer event : Handle}

theorem passesOn_clFinish :
    PassesOn B (clFinish (some queue)) s t
      (.status (.clFinish (objectAt t.mObjects (GetID queue)))) := by
  intro err herr
  have hK := context_catching CL_DEVICE_NOT_AVAILABLE CL_DEVICE_NOT_AVAILABLE
  refine (settles_sends stable_ended hK).mpr ?_
  refine (settles_dispatches (h := ServerInstance.finishQueue) stable_ended rfl rfl).mpr ?_
  rw [← List.append_nil (packet _)]
  refine (settles_server_meets_packet stable_ended context_handler (by decide)).mpr ?_
  refine (settles_server_get stable_ended context_handler).mpr ?_
  exact settles_fails herr

theorem passesOn_clSetUserEventStatus {execution_status : UInt32} :
    PassesOn B (clSetUserEventStatus (some event) execution_status) s t
      (.status (.clSetUserEventStatus (objectAt t.mObjects (GetID event)) execution_status)) := by
  intro err herr
  have hK := context_catching CL_OUT_OF_HOST_MEMORY CL_DEVICE_NOT_AVAILABLE
  refine (settles_sends stable_ended hK).mpr ?_
  refine (settles_dispatches (h := ServerInstance.setUserEventStatus) stable_ended rfl rfl).mpr ?_
  rw [← List.append_nil (packet _)]
  refine (settles_server_meets_packet stable_ended context_handler (by decide)).mpr ?_
  refine (settles_server_get stable_ended context_handler).mpr ?_
  exact settles_fails herr

theorem passesOn_clWaitForEvents (hlen : event_list.length ≤ 255) (hne : event_list ≠ []) :
    PassesOn B (clWaitForEvents event_list.length (some (event_list.map some))) s t
      (.status (.clWaitForEvents (objectsOf t event_list))) := by
  intro err herr
  have hK := context_catching CL_OUT_OF_HOST_MEMORY CL_DEVICE_NOT_AVAILABLE
  have hshort : (event_list.map GetID).length < SizeT.range .uint8 := by
    rw [List.length_map]
    exact Nat.lt_succ_of_le hlen
  rw [WaitCall.clWaitForEvents_eq hne]
  refine (settles_client_writePacket stable_ended hK).mpr ?_
  refine (settles_client_writePacket stable_ended hK).mpr ?_
  refine (settles_client_flushes stable_ended hK).mpr ?_
  rw [List.nil_append, List.nil_append, ← List.append_nil (packet (⟨_⟩ : IDListPacket)),
    ← List.append_assoc, List.append_assoc]
  refine (settles_dispatches (h := ServerInstance.waitForEvents) stable_ended rfl rfl).mpr ?_
  refine (settles_server_meets_packet stable_ended context_handler (by decide)).mpr ?_
  rw [ServerInstance.readEvents, if_pos rfl, bind_assoc (PacketStream.readPacket IDListPacket)]
  refine (settles_server_meets stable_ended context_handler (reads_idListPacket hshort)
    (show Ordinary PacketType.idList by decide)).mpr ?_
  refine (settles_server_get stable_ended context_handler).mpr ?_
  rw [← map_objectAt_map_GetID]
  exact settles_fails herr

/-- A read of a buffer is a blocking one on the server's side. -/
theorem passesOn_clEnqueueReadBuffer (hlen : event_list.length ≤ 255) {block wantEvent : Bool}
    {offset size : UInt64} :
    PassesOn B (clEnqueueReadBuffer C (some queue) (some buffer) block offset size
        (waitArgs event_list wantEvent)) s t
      (.enqueue
        { queue := objectAt t.mObjects (GetID queue), events := objectsOf t event_list, wantEvent,
          command := .clEnqueueReadBuffer (objectAt t.mObjects (GetID buffer)) true
            offset.toUInt32.toNat size.toUInt32.toNat }) := by
  intro err herr
  have hK := context_catching CL_OUT_OF_HOST_MEMORY CL_DEVICE_NOT_AVAILABLE
  rw [clEnqueueReadBuffer, withEvents_waitArgs]
  refine (settles_commandSent stable_ended hK rfl (by decide)).mpr ?_
  rw [← List.append_nil (eventPacket _ _)]
  refine (settles_readsEvents stable_ended (eventIDs_waitArgs event_list wantEvent) hlen).mpr ?_
  refine (settles_server_get stable_ended context_handler).mpr ?_
  refine (settles_server_get stable_ended context_handler).mpr ?_
  have hanswer (q : Enqueue) : (failing err [] (.enqueue q)).err = err := rfl
  refine (Driver.settles_ask stable_ended context_handler).mpr ?_
  rw [ServerInstance.replyRead, hanswer, if_pos herr]
  refine (settles_replies stable_ended).mpr ?_
  refine (settles_error_event stable_ended).mpr (.final (Or.inl ?_))
  refine ⟨_, _, _, _, ⟨rfl, ⟨err, 0, []⟩, ?_⟩, rfl⟩
  rw [← map_objectAt_map_GetID]
  rfl

end Calls

/-! ## Threads -/

section Threads

variable {ι : Type} [DecidableEq ι] {I : Interface Events} {does : ServerCall → Call}
variable {B : ServerBuild} {p : ClientM Ret} {s : ClientState} {t : ServerState} {c : ServerCall}
variable {w : ι → Option I.Call} {i : ι} {events : Events}

/-- **A call that waits for a user event keeps the connection**, whatever the other threads do, and
the driver is asked nothing else. -/
theorem keeps_connection {event_list : List ℕ} {event : ℕ} (hdoes : does c = .await event_list)
    (hevent : event ∈ event_list) (hblocked : Blocked events event) (hcall : PassesOn B p s t c)
    {y : Threads ι I} (hrun : Relation.ReflTransGen (Threads.Step (driver does) B)
      ⟨w, some i, start B p s t events⟩ y) :
    y.holder = some i ∧ ∀ c' k, y.conv.server.prog = .call c' k → c' = c := by
  suffices h : y.holder = some i ∧
      Quiet (ServerInstance.serve B) (start B p s t events) y.conv from
    ⟨h.1, fun c' k => hcall.question_eq h.2⟩
  induction hrun with
  | refl => exact ⟨rfl, .refl⟩
  | tail _ hstep ih =>
    obtain ⟨hholder, hquiet⟩ := ih
    cases hstep with
    | call => exact ⟨hholder, hquiet⟩
    | lock => cases hholder
    | unlock hr => exact absurd hr (hcall.not_returned hquiet _)
    | talk hx =>
      refine ⟨hholder, ?_⟩
      rcases quiet_or_answered hx with hx | ⟨c', k, a, hasked, hanswered⟩
      · exact hquiet.tail hx
      · -- the driver cannot have answered
        obtain rfl := hcall.question_eq hquiet hasked
        rw [hquiet.env_eq] at hanswered
        exact absurd hanswered (not_driver_of_blocked hdoes hevent hblocked _ _)

/-- A driver that numbers its events, and waits for those of a list. -/
theorem clWaitForEvents_keeps_connection {number : Ptr → ℕ}
    (hdoes : ∀ objects, does (.status (.clWaitForEvents objects)) = .await (objects.map number))
    {event_list : List Handle} (hlen : event_list.length ≤ 255) {event : Handle}
    (hevent : event ∈ event_list)
    (hblocked : Blocked events (number (objectAt t.mObjects (GetID event)))) {y : Threads ι I}
    (hrun : Relation.ReflTransGen (Threads.Step (driver does) B)
      ⟨w, some i, start B (clWaitForEvents event_list.length (some (event_list.map some))) s t
        events⟩ y) :
    y.holder = some i ∧ ∀ event execution_status k,
      y.conv.server.prog ≠ .call (.status (.clSetUserEventStatus event execution_status)) k := by
  have hobject : objectAt t.mObjects (GetID event) ∈ objectsOf t event_list :=
    List.mem_map_of_mem hevent
  obtain ⟨hholder, hasked⟩ := keeps_connection (hdoes _) (List.mem_map_of_mem hobject) hblocked
    (passesOn_clWaitForEvents hlen (List.ne_nil_of_mem hevent)) hrun
  refine ⟨hholder, fun event execution_status k hcall => ?_⟩
  cases hasked _ _ hcall

/-- **With the connection free a status gets through** to the driver. -/
theorem setUserEventStatus_gets_through {call : I.Call} {event : Handle} {execution_status : UInt32}
    {r : Ret} (hi : w i = some call)
    (hcall : I.program call = clSetUserEventStatus (some event) execution_status)
    (hsafe : ∀ t e, I.Safe call t e) :
    ∃ (y : Threads ι I) (k : Int32 → ServerM Bool),
      Relation.ReflTransGen (Threads.Step (driver does) B)
        ⟨w, none, start B (.ret r) s t events⟩ y ∧ y.conv.env = events ∧
      y.conv.server.prog = .call (.status (.clSetUserEventStatus (objectAt t.mObjects (GetID event))
        execution_status)) k := by
  have hpasses : PassesOn B (clSetUserEventStatus (some event) execution_status) s t _ :=
    passesOn_clSetUserEventStatus
  obtain ⟨y, k, hquiet, hasked⟩ := hpasses.asked (e := events)
  have hlock := Threads.Step.lock (E := driver does) (B := B) (x := start B (.ret r) s t events) hi
    fun _ _ _ => hsafe _ _
  refine ⟨⟨Function.update w i none, some i, y⟩, k, .head hlock ?_, hquiet.env_eq, hasked⟩
  have hstart : resume (I.program call) (start B (.ret r) s t events) =
      start B (clSetUserEventStatus (some event) execution_status) s t events := by
    rw [hcall]
    rfl
  have hrun := hquiet.run (driver does) events
  obtain ⟨client, server, u, d, e⟩ := y
  obtain rfl : e = events := hquiet.env_eq
  rw [hstart]
  exact Threads.talks hrun

end Threads

end Waiting
end RemoteCL

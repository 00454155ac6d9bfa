import RemoteCL.Client.Callbacks
import RemoteCL.Common.Unreliable
import RemoteCL.Session.ProgramBuilds
import RemoteCL.Session.RawValues

/-!
# Notifications about programs

The application may give a function to the calls that compile, link and build programs.  There are
two ways for it to be called.  `clLinkProgram` calls it itself, and so does `clCompileProgram` on a
connection without an event stream.  With an event stream `clCompileProgram` registers a callback,
and the driver is given `ProgramCallback` on the server.  It reaches the client only if its block
happens to point to the server's instance, and what it writes is not flushed (`not_triggerSent`).
`clBuildProgram` does not look at its function at all.

`notified_once_iff` says of which calls the application is notified.
-/

namespace RemoteCL

open ByteStream Conversation Wire LawfulWire Client

/-! ## Calls -/

/-- A call that compiles, links or builds programs, which the client accepts. -/
inductive ProgramCall where
  | clCompileProgram (program : Handle) (devices : List Handle) (options : Option Bytes)
      (headers : List (Handle × Bytes))
  | clLinkProgram (context : Handle) (devices : List Handle) (options : Option Bytes)
      (programs : List Handle) (errcode_ret : Bool)
  | clBuildProgram (program : Handle) (devices : List Handle) (options : Option Bytes)
  deriving DecidableEq

namespace ProgramCall

/-- The program of a call. -/
def call (notify : Notify) : ProgramCall → ClientM Ret
  | clCompileProgram program devices options headers =>
    (BuildCall.clCompileProgram program devices options headers notify).call
  | clLinkProgram context devices options programs errcode_ret =>
    (BuildCall.clLinkProgram context devices options programs notify errcode_ret).call
  | clBuildProgram program devices options =>
    Client.clBuildProgram (some program) devices.length (arrayOf devices) options notify

/-- The lists and strings have room in the request, and there is something to link. -/
def Fits : ProgramCall → Prop
  | clCompileProgram _ devices options _ | clBuildProgram _ devices options =>
    devices.length ≤ 255 ∧ StringFits (stringOf options)
  | clLinkProgram _ devices options programs _ =>
    devices.length ≤ 255 ∧ StringFits (stringOf options) ∧ programs.length ≤ 255 ∧ programs ≠ []

/-- The headers of a call. -/
def headers : ProgramCall → List (Handle × Bytes)
  | clCompileProgram _ _ _ headers => headers
  | _ => []

/-- The program that a successful call is about. -/
def program (r : Ret) : ProgramCall → Option Handle
  | clCompileProgram program _ _ _ | clBuildProgram program _ _ =>
    if r = .code CL_SUCCESS then some program else none
  | clLinkProgram _ _ _ _ _ =>
    match r with
    | .handle .program (some (.object program)) => some program
    | _ => none

/-- The client notifies the application itself. -/
def Direct (s : ClientState) : ProgramCall → Bool
  | clCompileProgram _ _ _ _ => !s.hasEventStream
  | clLinkProgram _ _ _ _ _ => true
  | clBuildProgram _ _ _ => false

/-- The question that the driver is asked. -/
def asked (notify : Notify) (s : ClientState) (t : ServerState) : ProgramCall → ServerCall
  | clCompileProgram program devices options _ =>
    .status (compileAsked t program devices options
      (if notify.pfn_notify.isSome && s.hasEventStream then
        some (UInt32.ofNat s.mCallbacks.length).toUInt16 else none))
  | clLinkProgram context devices options programs _ =>
    .create (linkAsked t context devices options programs)
  | clBuildProgram program devices options => .status (buildAsked t program devices options)

end ProgramCall

/-! ## The two ways -/

/-- A call of the user's function by the client itself. -/
def ClientEvent.userCall : ClientEvent → Option UserCall
  | .store (.notify (.object program) pfn_notify user_data) =>
    some (.program pfn_notify program user_data)
  | _ => none

/-- The calls that the client has made itself. -/
def directCalls (s s' : ClientState) : List UserCall :=
  (eventsSince s s').filterMap ClientEvent.userCall

/-- The callbacks that the driver has been given with a program. -/
def callbackGiven : Asked → Option IDType
  | ⟨.status (.clCompileProgram _ _ _ _ _ callback), _⟩ => callback
  | _ => none

/-- The driver calls `ProgramCallback`, and all that it writes to the event stream is sent, however
much there is in the cache. -/
def TriggerSent (this : Ptr) (t : ServerState) (block : ServerInstance.CallbackBlock) : Prop :=
  ∃ p, ServerInstance.ProgramCallback this block = some p ∧
    ∀ w < BufferSize, ∀ o,
      Prog.Faulty medium (fun (_ : Unit) _ _ _ => True) none p t [] w () o [] →
        ∃ t' u, o = .done (.ok ()) t' u 0 ()

/-- The client's thread has dispatched a trigger, and has called a function. -/
def Dispatches (s : ClientState) (index : UInt32) (call : UserCall) : Prop :=
  ∃ s', Prog.Faulty medium (fun calls c (_ : Unit) calls' => calls' = calls ++ [c]) none
    callbackThreadRound s (packet (⟨index⟩ : CallbackTriggerPacket)) 0 []
    (.done (.ok true) s' [] 0 [call]) []

/-- The driver has called what it was given, and the client has called the user's functions. -/
inductive CalledBack (this : Ptr) (s : ClientState) (t : ServerState) :
    List ServerInstance.CallbackBlock → List UserCall → Prop
  | nil : CalledBack this s t [] []
  | cons {block blocks call calls} (hsent : TriggerSent this t block)
      (hcall : Dispatches s block.ID.toUInt32 call) (h : CalledBack this s t blocks calls) :
      CalledBack this s t (block :: blocks) (call :: calls)

/-- The application has been notified once, when the driver has completed the operation.
`instancePtr` is in the memory of the block that the server has not set. -/
def NotifiedOnce (this instancePtr : Ptr) (notify : Notify) (s s' : ClientState) (t' : ServerState)
    (asked : List Asked) (program : Handle) : Prop :=
  ∃ calls, CalledBack this s' t' ((asked.filterMap callbackGiven).map (⟨instancePtr, ·⟩)) calls ∧
      directCalls s s' ++ calls =
        [.program (notify.pfn_notify.getD 0) program (notify.user_data.getD 0)]

/-- **No trigger for a program is certain to be sent**: there is no instance to send it, or it stays
in the cache. -/
theorem not_triggerSent (this : Ptr) (t : ServerState) (block : ServerInstance.CallbackBlock) :
    ¬ TriggerSent this t block := by
  rintro ⟨p, hp, hsent⟩
  rw [ServerInstance.ProgramCallback] at hp
  split at hp
  · obtain rfl := Option.some.inj hp
    obtain ⟨mObjects, mEventStream⟩ := t
    cases mEventStream with
    | none =>
      -- nothing is written, and what was in the cache stays there
      obtain ⟨t', u, heq⟩ := hsent 1 (by decide) _ (.get .ret)
      cases heq
    | some out =>
      obtain ⟨t', u, heq⟩ := hsent 0 (by decide) _
        (.get (.write (show 0 + 5 < BufferSize by decide) .ret))
      cases heq
  · cases hp

/-- So the client calls no function for the driver. -/
theorem CalledBack.eq_nil {this : Ptr} {s : ClientState} {t : ServerState}
    {blocks : List ServerInstance.CallbackBlock} {calls : List UserCall}
    (h : CalledBack this s t blocks calls) : blocks = [] ∧ calls = [] := by
  cases h with
  | nil => exact ⟨rfl, rfl⟩
  | cons hsent => exact absurd hsent (not_triggerSent this t _)

/-- There is only the one way. -/
theorem not_notifiedOnce {this instancePtr : Ptr} {notify : Notify} {s s' : ClientState}
    {t' : ServerState} {asked : List Asked} {program : Handle} (h : directCalls s s' = []) :
    ¬ NotifiedOnce this instancePtr notify s s' t' asked program := by
  rintro ⟨calls, hcalled, hcalls⟩
  rw [h, hcalled.eq_nil.2] at hcalls
  cases hcalls

/-! ## What a call does -/

section Calls

variable {D : Driver} {B : ServerBuild} {s s' : ClientState} {t t' : ServerState}
variable {log asked : List Asked} {q : ProgramCall} {notify : Notify}

/-- What a call has done that has returned: it has asked one question, and if it has been
successful, it has notified the application if it is one that does so itself. -/
structure CallOutcome (D : Driver) (q : ProgramCall) (notify : Notify) (s : ClientState)
    (t : ServerState) (log : List Asked) (r : Ret) (s' : ClientState) (asked : List Asked) :
    Prop where
  asked : asked = [⟨q.asked notify s t, D log (q.asked notify s t)⟩]
  direct : ∀ program, q.program r = some program →
    directCalls s s' = if notify.pfn_notify.isSome && q.Direct s then
      [.program (notify.pfn_notify.getD 0) program (notify.user_data.getD 0)] else []

/-- The call has ended, with such an outcome if it has returned. -/
def CallEnded (D : Driver) (B : ServerBuild) (q : ProgramCall) (notify : Notify) (s : ClientState)
    (t : ServerState) (log : List Asked) : CallConfig (List Asked) → Prop :=
  Ended B (fun r s' _ log' => ∃ asked, log' = log ++ asked ∧
    CallOutcome D q notify s t log r s' asked) True

theorem CallEnded.rest {r : Ret} (h : CallOutcome D q notify s t log r s' asked) :
    CallEnded D B q notify s t log (start B (.ret r) s' t' (log ++ asked)) :=
  Or.inl ⟨r, s', t', _, ⟨asked, rfl, h⟩, rfl⟩

/-- A call that returns an error. -/
theorem CallOutcome.error {r : Ret} (h : q.program r = none) :
    CallOutcome D q notify s t log r s' [⟨q.asked notify s t, D log (q.asked notify s t)⟩] where
  asked := rfl
  direct program hprogram := by
    rw [h] at hprogram
    cases hprogram

/-- A status is replied: the client goes on, or returns the error. -/
theorem settles_statusReplied {F : CallConfig (List Asked) → Prop}
    (hF : Stable D.environment (ServerInstance.serve B) F) {badAlloc others e : Int32}
    {k : ClientM Ret}
    (hok : e = CL_SUCCESS → Settles D.environment (ServerInstance.serve B) F
      (start B (catching badAlloc others k) s t log))
    (herr : e ≠ CL_SUCCESS → Settles D.environment (ServerInstance.serve B) F
      (start B (.ret (.code e)) s t log)) :
    Settles D.environment (ServerInstance.serve B) F
      ⟨⟨catching badAlloc others (PacketStream.readPacket SuccessPacket >>= fun _ => k), s, []⟩,
        ⟨ServerInstance.iteration (ServerInstance.replyStatus e >>= fun _ => pure true), t, []⟩,
        [], [], log⟩ := by
  rw [ServerInstance.replyStatus]
  split
  · rename_i he
    exact (settles_replies hF).mpr ((settles_told hF).mpr (herr he))
  · rename_i he
    refine (settles_replies hF).mpr ?_
    rw [List.nil_append, List.nil_append, ← List.append_nil (PacketStream.frame _ _)]
    exact (settles_client_meets_packet (p := (⟨⟩ : SuccessPacket)) hF (context_catching _ _)
      (by decide)).mpr (hok (not_not.mp he))

theorem stops_compile (program : Handle) {devices : List Handle} {options : Option Bytes}
    (hnotify : notify.invalid = false) (hdevices : devices.length ≤ 255)
    (hoptions : StringFits (stringOf options)) :
    Settles D.environment (ServerInstance.serve B)
      (CallEnded D B (.clCompileProgram program devices options []) notify s t log)
      (start B ((ProgramCall.clCompileProgram program devices options []).call notify) s t
        log) := by
  have hK := context_catching CL_OUT_OF_HOST_MEMORY CL_DEVICE_NOT_AVAILABLE
  rw [ProgramCall.call, call_clCompileProgram program devices options hnotify]
  refine (settles_client_get stable_ended hK).mpr ?_
  cases hcallback : notify.pfn_notify.isSome && s.hasEventStream with
  | false =>
    have hasked : compileAsked t program devices options none = compileAsked t program devices
        options (if notify.pfn_notify.isSome && s.hasEventStream then
          some (UInt32.ofNat s.mCallbacks.length).toUInt16 else none) := by
      rw [hcallback, if_neg Bool.false_ne_true]
    refine (settles_compileWith stable_ended program hdevices hoptions _ false 0 hasked).mpr
      (settles_statusReplied stable_ended (fun _ => ?_) fun herr => ?_)
    · refine (settles_client_store stable_ended hK).mpr (.final (CallEnded.rest ⟨rfl, ?_⟩))
      intro p hp
      have hevents := ((Extends.refl s).stored (notify.pfn_notify.isSome && !false)
        (.notify (.object program) (notify.pfn_notify.getD 0)
          (notify.user_data.getD 0))).eventsSince
      obtain rfl : program = p := Option.some.inj hp
      rw [directCalls, hevents, ProgramCall.Direct]
      revert hcallback
      cases notify.pfn_notify.isSome <;> cases s.hasEventStream <;> simp [ClientEvent.userCall]
    · exact .final (CallEnded.rest (CallOutcome.error (if_neg fun h => herr (Ret.code.inj h))))
  | true =>
    have hasked : compileAsked t program devices options
        (some (UInt32.ofNat s.mCallbacks.length).toUInt16) = compileAsked t program devices options
          (if notify.pfn_notify.isSome && s.hasEventStream then
            some (UInt32.ofNat s.mCallbacks.length).toUInt16 else none) := by
      rw [hcallback, if_pos rfl]
    refine (settles_client_get stable_ended hK).mpr ?_
    refine (settles_client_put (k := fun _ => compileWith program devices options notify true
      (UInt32.ofNat s.mCallbacks.length)) stable_ended hK).mpr ?_
    refine (settles_compileWith stable_ended program hdevices hoptions _ true _ hasked).mpr
      (settles_statusReplied stable_ended (fun _ => ?_) fun herr => ?_)
    · refine (settles_client_store stable_ended hK).mpr (.final (CallEnded.rest ⟨rfl, ?_⟩))
      intro p hp
      have hevents : eventsSince s { s with mCallbacks := s.mCallbacks ++
          [.program program (notify.pfn_notify.getD 0) (notify.user_data.getD 0)] } = [] :=
        (Extends.refl s).eventsSince
      obtain ⟨hpfn, hstream⟩ := Bool.and_eq_true_iff.mp hcallback
      rw [directCalls, ProgramCall.Direct, hpfn, hstream]
      exact congrArg (List.filterMap ClientEvent.userCall) hevents
    · exact .final (CallEnded.rest (CallOutcome.error (if_neg fun h => herr (Ret.code.inj h))))

theorem stops_build (program : Handle) {devices : List Handle} {options : Option Bytes}
    (hnotify : notify.invalid = false) (hdevices : devices.length ≤ 255)
    (hoptions : StringFits (stringOf options)) :
    Settles D.environment (ServerInstance.serve B)
      (CallEnded D B (.clBuildProgram program devices options) notify s t log)
      (start B ((ProgramCall.clBuildProgram program devices options).call notify) s t log) := by
  refine (settles_build stable_ended program hnotify hdevices hoptions rfl).mpr
    (settles_statusReplied stable_ended (fun _ => ?_) fun herr => ?_)
  · refine .final (CallEnded.rest ⟨rfl, fun p _ => ?_⟩)
    rw [ProgramCall.Direct, Bool.and_false]
    exact congrArg (List.filterMap ClientEvent.userCall) (Extends.refl s).eventsSince
  · exact .final (CallEnded.rest (CallOutcome.error (if_neg fun h => herr (Ret.code.inj h))))

/-- The first thing that a call does when it waits is to read a byte. -/
theorem exists_read_catchingError (kind : Kind) (errcode_ret : Bool) (badAlloc : Int32) {α : Type}
    (ty : PacketType) (r : Reader α) (k : α → ClientM Ret) :
    ∃ q, catchingError kind errcode_ret badAlloc (PacketStream.read ty r >>= k) =
      Prog.read 1 q := by
  rw [(PacketStream.read_bind ty r k).trans (Prog.ofReader_take_bind _ _ _)]
  exact ⟨_, rfl⟩

/-- The ID of a linked program is replied, and the client returns the program. -/
theorem settles_linked {F : CallConfig (List Asked) → Prop}
    (hF : Stable D.environment (ServerInstance.serve B) F) {errcode_ret : Bool} {object : Ptr}
    {id : IDType} {mObjects : List Ptr} (hid : assignID t.mObjects object = some (id, mObjects))
    (h : Settles D.environment (ServerInstance.serve B) F
      (start B (.ret (.handle .program (some (Resolve.registerID.apply s .program id).1)))
        ((Resolve.registerID.apply s .program id).2.stored notify.pfn_notify.isSome
          (.notify (Resolve.registerID.apply s .program id).1 (notify.pfn_notify.getD 0)
            (notify.user_data.getD 0))) { t with mObjects := mObjects } log)) :
    Settles D.environment (ServerInstance.serve B) F
      ⟨⟨catchingError .program errcode_ret CL_OUT_OF_HOST_MEMORY
          (PacketStream.readPacket IDPacket >>= fun id =>
            resolve .registerID .program id.mData >>= fun P =>
              store notify.pfn_notify.isSome
                (.notify P (notify.pfn_notify.getD 0) (notify.user_data.getD 0)) >>= fun _ =>
                  pure (.handle .program (some P))), s, []⟩,
        ⟨ServerInstance.iteration (ServerInstance.writeID object >>= fun _ => pure true), t, []⟩,
        [], [], log⟩ := by
  have hK := context_catchingError .program errcode_ret CL_OUT_OF_HOST_MEMORY
  rw [ServerInstance.writeID, bind_assoc, ServerInstance.getIDFor, bind_assoc]
  refine (settles_server_get hF ServerInstance.context_iteration).mpr ?_
  rw [hid]
  dsimp only
  rw [bind_assoc]
  refine (settles_server_put hF ServerInstance.context_iteration).mpr ?_
  refine (settles_replies hF).mpr ?_
  rw [List.nil_append, List.nil_append, ← List.append_nil (PacketStream.frame _ _)]
  refine (settles_client_meets_packet (p := (⟨id⟩ : IDPacket)) hF hK (by decide)).mpr ?_
  refine settles_client_wp hF hK (H := fun _ _ _ => False) (fun _ _ _ h => h.elim) ?_
  simp only [Prog.wp_bind, wp_resolve, wp_store, Prog.afterBind_ok]
  exact h

theorem stops_link (context : Handle) {devices : List Handle} {options : Option Bytes}
    {programs : List Handle} (errcode_ret : Bool) (hnotify : notify.invalid = false)
    (hdevices : devices.length ≤ 255) (hoptions : StringFits (stringOf options))
    (hlen : programs.length ≤ 255) (hprograms : programs ≠ []) :
    Settles D.environment (ServerInstance.serve B)
      (CallEnded D B (.clLinkProgram context devices options programs errcode_ret) notify s t log)
      (start B ((ProgramCall.clLinkProgram context devices options programs errcode_ret).call
        notify) s t log) := by
  have hK := context_catchingError .program errcode_ret CL_OUT_OF_HOST_MEMORY
  refine (settles_link stable_ended context errcode_ret hnotify hprograms hdevices hoptions hlen
    rfl).mpr ?_
  rw [ServerInstance.replyCreated]
  split
  · refine (settles_replies stable_ended).mpr ?_
    rw [List.nil_append, List.nil_append, ← List.append_nil (PacketStream.frame _ _)]
    refine (settles_client_meets_error stable_ended hK _).mpr ?_
    exact (settles_client_store stable_ended Prog.Context.hole).mpr
      (.final (CallEnded.rest (CallOutcome.error rfl)))
  cases hid : assignID t.mObjects
      (D log (.create (linkAsked t context devices options programs))).object with
  | none =>
    rw [ServerInstance.writeID, bind_assoc, ServerInstance.getIDFor, bind_assoc]
    refine (settles_server_get stable_ended ServerInstance.context_iteration).mpr ?_
    obtain ⟨k, hk⟩ := exists_read_catchingError .program errcode_ret CL_OUT_OF_HOST_MEMORY
      (Packet.mType IDPacket) (dec : Reader IDPacket) _
    rw [hid, PacketStream.readPacket, hk]
    exact .final (Or.inr ⟨trivial, k, s, t, _, _, hid, rfl⟩)
  | some a =>
    obtain ⟨id, mObjects⟩ := a
    refine settles_linked stable_ended hid (.final (CallEnded.rest ⟨rfl, fun p hp => ?_⟩))
    have hevents := (((Extends.refl s).apply .registerID .program id).stored
      notify.pfn_notify.isSome (.notify (Resolve.registerID.apply s .program id).1
        (notify.pfn_notify.getD 0) (notify.user_data.getD 0))).eventsSince
    obtain rfl := Option.some.inj hp
    rw [directCalls, hevents, ProgramCall.Direct, Bool.and_true]
    cases notify.pfn_notify.isSome <;> rfl

/-- **Every call stops** that is not about headers, and has asked its question by then. -/
theorem ProgramCall.stops (hq : q.Fits) (hnotify : notify.invalid = false)
    (hheaders : q.headers = []) :
    Settles D.environment (ServerInstance.serve B) (CallEnded D B q notify s t log)
      (start B (q.call notify) s t log) := by
  cases q with
  | clCompileProgram program devices options headers =>
    obtain rfl : headers = [] := hheaders
    exact stops_compile program hnotify hq.1 hq.2
  | clLinkProgram context devices options programs errcode_ret =>
    exact stops_link context errcode_ret hnotify hq.1 hq.2.1 hq.2.2.1 hq.2.2.2
  | clBuildProgram program devices options => exact stops_build program hnotify hq.1 hq.2

/-- A call that is about headers does not return. -/
theorem ProgramCall.headers_eq_nil (hnotify : notify.invalid = false) {r : Ret}
    (hrun : Relation.ReflTransGen (Step D.environment (ServerInstance.serve B))
      (start B (q.call notify) s t log) (start B (.ret r) s' t' (log ++ asked))) :
    q.headers = [] := by
  cases q with
  | clCompileProgram program devices options headers =>
    by_contra (hheaders : ¬ headers = [])
    rw [call, call_clCompileProgram_headers program devices options hnotify hheaders] at hrun
    rcases Relation.ReflTransGen.cases_head hrun with hnone | ⟨y, hstep, -⟩
    · cases hnone
    · exact not_step_overrun hstep
  | _ => rfl

/-- What a call has done when it has returned. -/
theorem ProgramCall.outcome (hq : q.Fits) (hnotify : notify.invalid = false) {r : Ret}
    (hrun : Relation.ReflTransGen (Step D.environment (ServerInstance.serve B))
      (start B (q.call notify) s t log) (start B (.ret r) s' t' (log ++ asked))) :
    CallOutcome D q notify s t log r s' asked := by
  obtain ⟨asked', hlog, houtcome⟩ := returned_of_run D.answers
    (ProgramCall.stops hq hnotify (ProgramCall.headers_eq_nil hnotify hrun)) hrun
  obtain rfl := List.append_cancel_left hlog
  exact houtcome

/-- Where the client notifies the application, the driver is given no callback. -/
theorem ProgramCall.callbackGiven_eq_none {a : Ans (q.asked notify s t)} (h : q.Direct s = true) :
    callbackGiven ⟨q.asked notify s t, a⟩ = none := by
  cases q with
  | clCompileProgram =>
    rw [Direct, Bool.not_eq_true'] at h
    show (if notify.pfn_notify.isSome && s.hasEventStream then
      some (UInt32.ofNat s.mCallbacks.length).toUInt16 else none) = none
    rw [h, Bool.and_false, if_neg Bool.false_ne_true]
  | _ => rfl

/-- **Of which calls the application is notified once**: of those that the client notifies it of
itself.  These are the successful calls that link a program, and on a connection without an event
stream those that compile one. -/
theorem notified_once_iff (this instancePtr : Ptr) (hq : q.Fits) (pfn_notify : ℕ)
    (user_data : Option ℕ) {r : Ret} {program : Handle}
    (hrun : Relation.ReflTransGen (Step D.environment (ServerInstance.serve B))
      (start B (q.call ⟨some pfn_notify, user_data⟩) s t log)
      (start B (.ret r) s' t' (log ++ asked)))
    (hr : q.program r = some program) :
    NotifiedOnce this instancePtr ⟨some pfn_notify, user_data⟩ s s' t' asked program ↔
      q.Direct s = true := by
  obtain ⟨hasked, hdirect⟩ := ProgramCall.outcome hq rfl hrun
  replace hdirect := hdirect program hr
  constructor
  · intro hnotified
    by_contra hnot
    rw [Option.isSome_some, Bool.true_and, if_neg hnot] at hdirect
    exact not_notifiedOnce hdirect hnotified
  · intro hq
    refine ⟨[], ?_, ?_⟩
    · rw [hasked, List.filterMap_cons_none (ProgramCall.callbackGiven_eq_none hq)]
      exact .nil
    · rw [hdirect, Option.isSome_some, Bool.true_and, if_pos hq]
      rfl

end Calls

/-! ### A program is compiled -/

/-- A driver that accepts every request without a result. -/
def acceptingDriver : Driver
  | _, .status _ => CL_SUCCESS
  | _, c => refuse c

/-- The application compiles a program, with a function to be notified by. -/
def compileCall : ProgramCall := .clCompileProgram ⟨0, 0, .program⟩ [] none []

/-- The client, when the application has a program. -/
def compileClient (hasEventStream : Bool) : ClientState :=
  ⟨[some ⟨⟨0, 0, .program⟩, []⟩], 1, [], hasEventStream, []⟩

/-- What the driver has been asked. -/
def compileLog (callback : Option IDType) : List Asked :=
  [⟨.status (.clCompileProgram 66 [] [] [] [] callback), CL_SUCCESS⟩]

/-- Where a call comes to rest in one configuration, it can be run. -/
theorem run_of_settles {D : Driver} {B : ServerBuild} {x : CallConfig (List Asked)} {r : Ret}
    {s : ClientState} {t : ServerState} {log : List Asked}
    (h : Stable D.environment (ServerInstance.serve B) (· = start B (.ret r) s t log) →
      Settles D.environment (ServerInstance.serve B) (· = start B (.ret r) s t log) x) :
    Relation.ReflTransGen (Step D.environment (ServerInstance.serve B)) x
      (start B (.ret r) s t log) := by
  have hstable : Stable D.environment (ServerInstance.serve B) (· = start B (.ret r) s t log) := by
    rintro _ y rfl hstep
    exact absurd hstep not_step_rest
  obtain ⟨y, hrun, rfl⟩ := (h hstable).exists_final D.answers
  exact hrun

theorem run_compile_direct :
    Relation.ReflTransGen
      (Step acceptingDriver.environment (ServerInstance.serve ⟨plainBuild, 210⟩))
      (start ⟨plainBuild, 210⟩ (compileCall.call ⟨some 1, some 2⟩) (compileClient false)
        ⟨[66], none⟩ [])
      (start ⟨plainBuild, 210⟩ (.ret (.code CL_SUCCESS))
        ((compileClient false).stored true (.notify (.object ⟨0, 0, .program⟩) 1 2))
        ⟨[66], none⟩ ([] ++ compileLog none)) := by
  refine run_of_settles fun hF => ?_
  have hK := context_catching CL_OUT_OF_HOST_MEMORY CL_DEVICE_NOT_AVAILABLE
  rw [compileCall, ProgramCall.call, call_clCompileProgram _ _ _ rfl]
  refine (settles_client_get hF hK).mpr ?_
  refine (settles_compileWith hF _ (Nat.zero_le _) (Nat.zero_le _) _ false 0 rfl).mpr
    (settles_statusReplied hF (fun _ => ?_) fun herr => absurd rfl herr)
  exact (settles_client_store hF hK).mpr (.final rfl)

theorem run_compile_registered :
    Relation.ReflTransGen
      (Step acceptingDriver.environment (ServerInstance.serve ⟨plainBuild, 210⟩))
      (start ⟨plainBuild, 210⟩ (compileCall.call ⟨some 1, some 2⟩) (compileClient true)
        ⟨[66], some []⟩ [])
      (start ⟨plainBuild, 210⟩ (.ret (.code CL_SUCCESS))
        { compileClient true with mCallbacks := [.program ⟨0, 0, .program⟩ 1 2] }
        ⟨[66], some []⟩ ([] ++ compileLog (some 0))) := by
  refine run_of_settles fun hF => ?_
  have hK := context_catching CL_OUT_OF_HOST_MEMORY CL_DEVICE_NOT_AVAILABLE
  rw [compileCall, ProgramCall.call, call_clCompileProgram _ _ _ rfl]
  refine (settles_client_get hF hK).mpr ((settles_client_get hF hK).mpr ?_)
  refine (settles_client_put (k := fun _ => compileWith ⟨0, 0, .program⟩ [] none
    ⟨some 1, some 2⟩ true 0) hF hK).mpr ?_
  refine (settles_compileWith hF _ (Nat.zero_le _) (Nat.zero_le _) _ true 0 rfl).mpr
    (settles_statusReplied hF (fun _ => ?_) fun herr => absurd rfl herr)
  exact (settles_client_store hF hK).mpr (.final rfl)

/-- Without an event stream, the application is notified. -/
theorem notified_once_iff_direct :
    NotifiedOnce 1000 0 ⟨some 1, some 2⟩ (compileClient false)
      ((compileClient false).stored true (.notify (.object ⟨0, 0, .program⟩) 1 2)) ⟨[66], none⟩
      (compileLog none) ⟨0, 0, .program⟩ :=
  (notified_once_iff (q := compileCall) 1000 0 ⟨Nat.zero_le _, Nat.zero_le _⟩ 1 (some 2)
    run_compile_direct rfl).mpr rfl

/-- With an event stream, it is not: the driver has been given a callback, and has nothing to reach
the client by. -/
theorem compilation_not_notified :
    Relation.ReflTransGen
        (Step acceptingDriver.environment (ServerInstance.serve ⟨plainBuild, 210⟩))
        (start ⟨plainBuild, 210⟩ (compileCall.call ⟨some 1, some 2⟩) (compileClient true)
          ⟨[66], some []⟩ [])
        (start ⟨plainBuild, 210⟩ (.ret (.code CL_SUCCESS))
          { compileClient true with mCallbacks := [.program ⟨0, 0, .program⟩ 1 2] }
          ⟨[66], some []⟩ ([] ++ compileLog (some 0))) ∧
      ∀ this instancePtr, ¬ NotifiedOnce this instancePtr ⟨some 1, some 2⟩ (compileClient true)
        { compileClient true with mCallbacks := [.program ⟨0, 0, .program⟩ 1 2] }
        ⟨[66], some []⟩ (compileLog (some 0)) ⟨0, 0, .program⟩ :=
  ⟨run_compile_registered, fun _ _ => not_notifiedOnce rfl⟩

end RemoteCL

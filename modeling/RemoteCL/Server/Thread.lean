import Mathlib.Order.OrderIsoNat
import RemoteCL.Common.Unreliable
import RemoteCL.Server.Parts
import RemoteCL.Server.Progress
import RemoteCL.Theory.Traces

/-!
# The thread that serves a connection

`main` starts a thread for each connection: it makes a `ServerInstance`, calls `run` and catches
nothing.  Here the executions of the thread are described with a record of their steps.  A step is
recorded with what it finds: a read with the bytes that are left, a property list with its words, an
object that needs an ID with the table; or as an operation that fails.  From that it can be seen
whether the step goes well (`ThreadStep.Met`).  The theorem is that an execution returns if and only
if all its steps go well, whatever the client sends and whatever fails (`thread_returns_iff`).

Most requests let through what goes wrong, and `run` itself catches failing allocations only.  Two
requests have a `try` block.  That of `createEventStream` catches whatever is thrown in it.  That of
`registerEventCallback` does not catch what happens when the packet is read: the operator that reads
it is `noexcept`, and calls `std::terminate`.  A signal is caught nowhere.
-/

namespace RemoteCL

open ByteStream Conversation

/-! ## Steps -/

/-- The steps of a thread that may go wrong. -/
inductive ThreadStep where
  /-- An iteration of `run` begins, and these bytes are left. -/
  | begins (u : Bytes)
  /-- A packet with this body is read. -/
  | packet (u : Bytes) (body : Reader Unit)
  /-- Memory runs out while a packet is received. -/
  | noMemory
  /-- Something is sent, and that fails, with an exception or a signal. -/
  | sendFails
  /-- The driver, or the socket of the event stream, is waited for in vain. -/
  | unanswered (c : ServerCall)
  /-- An exception is thrown: the socket of the event stream cannot accept. -/
  | throws (e : Exn)
  /-- An object needs an ID. -/
  | object (mObjects : List Ptr) (obj : Ptr)
  /-- A vector gets this size. -/
  | vector (size : ℕ)
  /-- A property list is rebuilt. -/
  | properties (mProperties : List UInt64)
  /-- Whatever it was, it has been caught. -/
  | caught (step : ThreadStep)

/-- The step goes well. -/
def ThreadStep.Met (B : ServerBuild) : ThreadStep → Prop
  | begins u => ∀ b ∈ u.head?, ¬ Stalls B b
  | packet u body => Whole u body
  | object mObjects obj => (assignID mObjects obj).isSome
  | vector size => size ≤ ServerInstance.vectorMaxSize
  | properties mProperties => Even mProperties.length
  | noMemory | sendFails | unanswered _ | throws _ => False
  | caught _ => True

/-- A reader whose result is not needed. -/
def discard {α : Type} (r : Reader α) : Reader Unit := r >>= fun _ => pure ()

theorem whole_discard {α : Type} {u : Bytes} {r : Reader α} : Whole u (discard r) ↔ Whole u r := by
  have hsome (v : Bytes) : ((discard r).run v).isSome = (r.run v).isSome := by
    rw [discard, Reader.run_bind]
    cases r.run v <;> rfl
  simp only [Whole, hsome]

/-! ## The parts of the handlers -/

/-- The connection of a server that had so many bytes left when an iteration began.  Until the type
of a packet has been read no memory is needed. -/
def serverMedium (start : ℕ) : Medium Exn := { medium with allocates := fun n => n < start }

section Parts

variable {δ : Type} (E : δ → (c : ServerCall) → Ans c → δ → Prop) (start : ℕ)

/-- The runs of the parts, with a record of their steps.  A read is recorded with what is there,
unless memory runs out in it. -/
inductive PartRuns : Prog.Recorded ServerState Exn ServerCall Ans δ ThreadStep
  | getState {s u w d} : PartRuns _ Prog.getState s u w d (.done (.ok s) s u w d) []
  | modifyState {f s u w d} :
      PartRuns _ (Prog.modifyState f) s u w d (.done (.ok ()) (f s) u w d) []
  | nextPacketTy {s u w d} : PartRuns _ PacketStream.nextPacketTy s u w d
      (.done (.ok (u.head?.getD PacketType.terminate.toByte)) s u w d) []
  | throw {α : Type} {e s u w d} :
      PartRuns α (Prog.throw e) s u w d (.done (.error e) s u w d) [.throws e]
  | read {α : Type} {ty} {r : Reader α} {p s u w d o}
      (hp : p = PacketStream.read ty r ∨ p = PacketStream.readNoexcept ty r)
      (h : Prog.Runs (serverMedium start).ample E p s u w d o) :
      PartRuns α p s u w d o [.packet u (discard r)]
  | readNoMemory {α : Type} {ty} {r : Reader α} {p s u w d o}
      (hp : p = PacketStream.read ty r ∨ p = PacketStream.readNoexcept ty r)
      (h : Prog.Runs (serverMedium start) E p s u w d o)
      (hmemory : ¬ Prog.Runs (serverMedium start).ample E p s u w d o) :
      PartRuns α p s u w d o [.noMemory]
  | write {ty body s u w d o fs}
      (h : Prog.Faulty (serverMedium start) E none (PacketStream.write ty body) s u w d o fs) :
      PartRuns _ (PacketStream.write ty body) s u w d o (fs.map fun _ => .sendFails)
  | flush {s u w d o fs}
      (h : Prog.Faulty (serverMedium start) E none PacketStream.flush s u w d o fs) :
      PartRuns _ PacketStream.flush s u w d o (fs.map fun _ => .sendFails)
  | ask {c a s u w d d'} (ha : E d c a d') :
      PartRuns _ (Prog.ask c) s u w d (.done (.ok a) s u w d') []
  | unanswered {c s u w d} :
      PartRuns _ (Prog.ask c) s u w d (.never .hang d) [.unanswered c]
  | getIDFor {obj s u w d o}
      (h : Prog.Runs (serverMedium start) E (ServerInstance.getIDFor obj) s u w d o) :
      PartRuns _ (ServerInstance.getIDFor obj) s u w d o [.object s.mObjects obj]
  | resize {elementSize n s u w d o}
      (h : Prog.Runs (serverMedium start) E (ServerInstance.resize elementSize n) s u w d o) :
      PartRuns _ (ServerInstance.resize elementSize n) s u w d o [.vector (elementSize * n)]
  | rebuild {mProperties s u w d o}
      (h : Prog.Runs (serverMedium start) E (ServerInstance.rebuild mProperties) s u w d o) :
      PartRuns _ (ServerInstance.rebuild mProperties) s u w d o [.properties mProperties]

/-- The runs of the programs of the server, with a record of their steps. -/
abbrev Executes : Prog.Recorded ServerState Exn ServerCall Ans δ ThreadStep :=
  Prog.Traced (PartRuns E start) .caught

variable {E start}

/-- The part is a program, and this is one of its runs. -/
theorem PartRuns.runs {α : Type} {p : ServerM α} {s : ServerState} {u : Bytes} {w : ℕ} {d : δ}
    {o : Stop ServerState Exn α δ} {es : List ThreadStep} (h : PartRuns E start α p s u w d o es) :
    Prog.Runs (serverMedium start) E p s u w d o := by
  cases h with
  | getState => exact ⟨_, .get .ret⟩
  | modifyState => exact ⟨_, .get (.put .ret)⟩
  | nextPacketTy => exact ⟨_, .peek .ret⟩
  | throw => exact ⟨_, .throw⟩
  | ask ha => exact ⟨_, .call ha .ret⟩
  | unanswered => exact ⟨_, .callForever⟩
  | write h | flush h => exact ⟨_, h⟩
  | read _ h => exact h.of_ample
  | readNoMemory _ h | getIDFor h | resize h | rebuild h => exact h

/-- While there is memory, a packet is read exactly if it is there. -/
theorem returns_read_iff {α : Type} {ty : PacketType} {r : Reader α} {p : ServerM α}
    (hp : p = PacketStream.read ty r ∨ p = PacketStream.readNoexcept ty r) {s : ServerState}
    {u : Bytes} {w : ℕ} {d : δ} {o : Stop ServerState Exn α δ}
    (h : Prog.Runs (serverMedium start).ample E p s u w d o) : o.Returns ↔ Whole u r := by
  rcases runs_read_cases hp (show 0 < BufferSize by decide) h with
    ⟨a, v, hread, rfl⟩ | ⟨hnot, hwhole | ⟨n, hn⟩⟩
  · exact iff_of_true trivial hread.whole
  · exact iff_of_false hnot hwhole
  · exact hn.elim

/-- No allocation has failed in a read that returns. -/
theorem runs_ample_of_returns {α : Type} {ty : PacketType} {r : Reader α} {p : ServerM α}
    (hp : p = PacketStream.read ty r ∨ p = PacketStream.readNoexcept ty r) {s : ServerState}
    {u : Bytes} {w : ℕ} {d : δ} {o : Stop ServerState Exn α δ}
    (h : Prog.Runs (serverMedium start) E p s u w d o) (ho : o.Returns) :
    Prog.Runs (serverMedium start).ample E p s u w d o := by
  rcases runs_read_cases hp (show 0 < BufferSize by decide) h with ⟨a, v, hread, rfl⟩ | ⟨hnot, -⟩
  · exact runs_of_carries hp hread
  · exact absurd ho hnot

/-- What is sent arrives in the cache or on the wire exactly if no send fails. -/
theorem returns_write_iff {ty : PacketType} {body : Bytes} {s : ServerState} {u : Bytes} {w : ℕ}
    {d : δ} {o : Stop ServerState Exn Unit δ} {fs : List (Fault Exn)}
    (h : Prog.Faulty (serverMedium start) E none (PacketStream.write ty body) s u w d o fs) :
    o.Returns ↔ fs = [] := by
  cases h with
  | write _ h | writeSpills _ _ h =>
    cases h
    exact iff_of_true trivial rfl
  | writeFails _ h =>
    cases h
    exact iff_of_false id (List.cons_ne_nil _ _)
  | writeKills => exact iff_of_false id (List.cons_ne_nil _ _)

theorem returns_flush_iff {s : ServerState} {u : Bytes} {w : ℕ} {d : δ}
    {o : Stop ServerState Exn Unit δ} {fs : List (Fault Exn)}
    (h : Prog.Faulty (serverMedium start) E none PacketStream.flush s u w d o fs) :
    o.Returns ↔ fs = [] := by
  cases h with
  | flush h =>
    cases h
    exact iff_of_true trivial rfl
  | flushFails _ h =>
    cases h
    exact iff_of_false id (List.cons_ne_nil _ _)
  | flushKills => exact iff_of_false id (List.cons_ne_nil _ _)

/-- The search for an ID ends if there is one for the object. -/
theorem returns_getIDFor_iff {obj : Ptr} {s : ServerState} {u : Bytes} {w : ℕ} {d : δ}
    {o : Stop ServerState Exn IDType δ}
    (h : Prog.Runs (serverMedium start) E (ServerInstance.getIDFor obj) s u w d o) :
    o.Returns ↔ (assignID s.mObjects obj).isSome := by
  obtain ⟨fs, h⟩ := h
  cases h with
  | get h =>
    cases hassign : assignID s.mObjects obj with
    | some x =>
      simp only [Prog.bind, hassign] at h
      cases h with
      | put h =>
        cases h
        exact iff_of_true trivial rfl
    | none =>
      simp only [Prog.bind, hassign] at h
      cases h
      exact iff_of_false id Bool.false_ne_true

theorem returns_resize_iff {elementSize n : ℕ} {s : ServerState} {u : Bytes} {w : ℕ} {d : δ}
    {o : Stop ServerState Exn Unit δ}
    (h : Prog.Runs (serverMedium start) E (ServerInstance.resize elementSize n) s u w d o) :
    o.Returns ↔ elementSize * n ≤ ServerInstance.vectorMaxSize := by
  obtain ⟨fs, h⟩ := h
  rw [ServerInstance.resize] at h
  split at h
  · rename_i hn
    cases h
    exact iff_of_true trivial hn
  · rename_i hn
    cases h
    exact iff_of_false id hn

/-- The loop over a property list finds its end if the list is one of pairs. -/
theorem returns_rebuild_iff {mProperties : List UInt64} {s : ServerState} {u : Bytes} {w : ℕ}
    {d : δ} {o : Stop ServerState Exn (List UInt64) δ}
    (h : Prog.Runs (serverMedium start) E (ServerInstance.rebuild mProperties) s u w d o) :
    o.Returns ↔ Even mProperties.length := by
  obtain ⟨fs, h⟩ := h
  rw [← ServerInstance.isSome_rebuildProperties_iff s.mObjects]
  cases h with
  | get h =>
    cases hrebuilt : ServerInstance.rebuildProperties s.mObjects mProperties with
    | some properties =>
      simp only [Prog.bind, hrebuilt] at h
      cases h
      exact iff_of_true trivial rfl
    | none =>
      simp only [Prog.bind, hrebuilt] at h
      cases h
      exact iff_of_false id Bool.false_ne_true

/-- Whether a part returns is seen from its steps. -/
theorem PartRuns.returns_iff {B : ServerBuild} {α : Type} {p : ServerM α} {s : ServerState}
    {u : Bytes} {w : ℕ} {d : δ} {o : Stop ServerState Exn α δ} {es : List ThreadStep}
    (h : PartRuns E start α p s u w d o es) : o.Returns ↔ ∀ step ∈ es, step.Met B := by
  have hone {step : ThreadStep} : (∀ e ∈ [step], e.Met B) ↔ step.Met B := List.forall_mem_singleton
  have hsends {fs : List (Fault Exn)} :
      (∀ e ∈ fs.map fun _ => ThreadStep.sendFails, e.Met B) ↔ fs = [] := by
    cases fs with
    | nil => exact iff_of_true (fun _ h => absurd h List.not_mem_nil) rfl
    | cons f fs => exact iff_of_false (fun h => h _ List.mem_cons_self) (List.cons_ne_nil _ _)
  cases h with
  | getState | modifyState | nextPacketTy | ask =>
    exact iff_of_true trivial fun _ h => absurd h List.not_mem_nil
  | throw | unanswered =>
    rw [hone]
    exact iff_of_false id id
  | read hp h =>
    rw [hone, ThreadStep.Met, whole_discard]
    exact returns_read_iff hp h
  | readNoMemory hp h hmemory =>
    rw [hone]
    exact iff_of_false (fun ho => hmemory (runs_ample_of_returns hp h ho)) id
  | write h => exact (returns_write_iff h).trans hsends.symm
  | flush h => exact (returns_flush_iff h).trans hsends.symm
  | getIDFor h =>
    rw [hone]
    exact returns_getIDFor_iff h
  | resize h =>
    rw [hone]
    exact returns_resize_iff h
  | rebuild h =>
    rw [hone]
    exact returns_rebuild_iff h

/-- Whether a program returns is seen from its steps. -/
theorem executes_returns_iff {B : ServerBuild} {α : Type} {p : ServerM α} {s : ServerState}
    {u : Bytes} {w : ℕ} {d : δ} {o : Stop ServerState Exn α δ} {es : List ThreadStep}
    (h : Executes E start α p s u w d o es) : o.Returns ↔ ∀ step ∈ es, step.Met B :=
  Prog.Traced.returns_iff h PartRuns.returns_iff fun _ => trivial

/-! ## The handlers are made of these parts -/

/-- The runs of the program are all recorded. -/
abbrev InParts {α : Type} (E : δ → (c : ServerCall) → Ans c → δ → Prop) (start : ℕ)
    (p : ServerM α) :
    Prop := Prog.Made (PartRuns E start) .caught (serverMedium start) E p

theorem made_part {α : Type} {p : ServerM α}
    (h : ∀ s u w d o, Prog.Runs (serverMedium start) E p s u w d o →
      ∃ es, PartRuns E start α p s u w d o es) : InParts E start p := fun s u w d o hrun =>
  (h s u w d o hrun).imp fun _ => .part

/-- Memory runs out in a read, or it does not. -/
theorem made_read {α : Type} {ty : PacketType} {r : Reader α} {p : ServerM α}
    (hp : p = PacketStream.read ty r ∨ p = PacketStream.readNoexcept ty r) : InParts E start p := by
  refine made_part fun s u w d o h => ?_
  by_cases hmemory : Prog.Runs (serverMedium start).ample E p s u w d o
  · exact ⟨_, .read hp hmemory⟩
  · exact ⟨_, .readNoMemory hp h hmemory⟩

theorem made_getState : InParts E start Prog.getState := made_part fun s u w d o h => by
  obtain ⟨fs, h⟩ := h
  cases h with
  | get h =>
    cases h
    exact ⟨_, .getState⟩

theorem made_ask (c : ServerCall) : InParts E start (Prog.ask c) := made_part fun s u w d o h => by
  obtain ⟨fs, h⟩ := h
  cases h with
  | call ha h =>
    cases h
    exact ⟨_, .ask ha⟩
  | callForever => exact ⟨_, .unanswered⟩

theorem made_throw {α : Type} (e : Exn) : InParts E start (Prog.throw e : ServerM α) :=
  made_part fun s u w d o h => by
    obtain ⟨fs, h⟩ := h
    cases h
    exact ⟨_, .throw⟩

theorem made_modifyState (f : ServerState → ServerState) : InParts E start (Prog.modifyState f) :=
  made_part fun s u w d o h => by
    obtain ⟨fs, h⟩ := h
    cases h with
    | get h =>
      cases h with
      | put h =>
        cases h
        exact ⟨_, .modifyState⟩

/-- All parts of the handlers. -/
theorem made_parts : ServerInstance.Parts (fun _ => True) fun _ p => InParts E start p where
  pure := Prog.made_ret
  bind hp hf := Prog.Made.bind hp hf
  getState := made_getState
  getIDFor _ := made_part fun _ _ _ _ _ h => ⟨_, .getIDFor h⟩
  resize _ _ := made_part fun _ _ _ _ _ h => ⟨_, .resize h⟩
  rebuild _ := made_part fun _ _ _ _ _ h => ⟨_, .rebuild h⟩
  read _ _ := made_read (Or.inl rfl)
  write _ _ := made_part fun _ _ _ _ _ h => h.elim fun _ h => ⟨_, .write h⟩
  flush := made_part fun _ _ _ _ _ h => h.elim fun _ h => ⟨_, .flush h⟩
  ask _ := made_ask _
  readEvents mExpectEventList _ hk := by
    refine Prog.Made.bind ?_ fun events => hk events trivial
    rw [ServerInstance.readEvents]
    split
    · exact (made_read (Or.inl rfl)).bind fun _ => made_getState.bind fun _ => Prog.made_ret _
    · exact Prog.made_ret _

/-- The attempts to open the event stream have a `try` block each. -/
theorem made_openEventStream (triesLeft : ℕ) :
    InParts E start (ServerInstance.openEventStream triesLeft) := by
  have hT : ServerInstance.Parts (fun _ => True) fun _ p => InParts E start p := made_parts
  induction triesLeft with
  | zero => exact hT.writeValue _
  | succ triesLeft ih =>
    refine (made_ask _).bind fun r => (made_ask _).bind fun bound => ?_
    cases bound with
    | opened =>
      refine Prog.Made.tryCatch ?_ fun _ => Or.inl (hT.writeValue _)
      refine (hT.writeValue _).bind fun _ => hT.flush.bind fun _ => ?_
      refine (made_ask ServerCall.accept).bind fun accepted => ?_
      cases accepted with
      | opened => exact made_modifyState _
      | socketError => exact made_throw _
      | otherError => exact made_throw _
    | socketError => exact ih
    | otherError => exact hT.writeValue _

theorem made_registerEventCallback : InParts E start ServerInstance.registerEventCallback := by
  have hT : ServerInstance.Parts (fun _ => True) fun _ p => InParts E start p := made_parts
  refine Prog.Made.tryCatch ?_ fun e => ?_
  · refine (made_read (Or.inr rfl)).bind fun P => (hT.getObj _).bind fun event => ?_
    refine (made_ask _).bind fun err => ?_
    dsimp only
    split
    · exact (hT.writeError _).bind fun _ => hT.writeSuccess
    · exact hT.writeSuccess
  · cases e with
    | terminate => exact Or.inr rfl
    | _ => exact Or.inl (hT.writeError _)

theorem made_dispatch (B : ServerBuild) (ty : Option PacketType) :
    InParts E start (ServerInstance.dispatch B ty) := by
  cases ty with
  | none => exact Prog.made_ret _
  | some ty =>
    by_cases hterm : ty = .terminate
    · rw [hterm]
      exact (made_modifyState _).bind fun _ => Prog.made_ret _
    · rw [ServerInstance.dispatch.eq_2 B ty hterm]
      split
      · rename_i h hh
        refine Prog.Made.bind ?_ fun _ => Prog.made_ret _
        refine made_parts.handler hh (fun _ => made_registerEventCallback) fun _ => ?_
        exact (made_read (Or.inl rfl)).bind fun _ => made_openEventStream 16
      · exact Prog.made_ret _

/-- **All runs** of an iteration are recorded. -/
theorem made_serve (B : ServerBuild) : InParts E start (ServerInstance.serve B) := by
  have hT : ServerInstance.Parts (fun _ => True) fun _ p => InParts E start p := made_parts
  refine Prog.Made.bind (Prog.Made.tryCatch ?_ fun e => ?_) fun b => hT.flush.bind fun _ =>
    Prog.made_ret _
  · refine Prog.Made.bind (made_part fun s u w d o h => ?_) fun _ => made_dispatch B _
    obtain ⟨fs, h⟩ := h
    cases h with
    | peek h =>
      cases h
      exact ⟨_, .nextPacketTy⟩
  · cases e with
    | badAlloc => exact Or.inl ((hT.writeError _).bind fun _ => Prog.made_ret _)
    | _ => exact Or.inr rfl

end Parts

/-! ## Iterations -/

namespace ServerInstance

/-- The constructor. -/
def construct (B : ServerBuild) : ServerM Unit := do
  PacketStream.writePacket (VersionPacket.ofBuild B.toBuild)
  PacketStream.flush

end ServerInstance

/-- What an iteration of `run` starts from.  Besides the state of the loop there are the bytes that
have not been flushed. -/
structure ThreadState (δ : Type) extends LoopState δ where
  cache : ℕ

section Iterations

variable {δ : Type} (E : δ → (c : ServerCall) → Ans c → δ → Prop) (B : ServerBuild)

/-- An iteration of `run`, with a record of its steps. -/
def ServeRuns (x : ThreadState δ) (o : Stop ServerState Exn Bool δ) (es : List ThreadStep) : Prop :=
  Executes E x.stream.length Bool (ServerInstance.serve B) x.server x.stream x.cache x.env o es

variable {E B} {x : ThreadState δ} {o : Stop ServerState Exn Bool δ} {es : List ThreadStep}

theorem ServeRuns.runs (h : ServeRuns E B x o es) :
    Prog.Runs (serverMedium x.stream.length) E (ServerInstance.serve B) x.server x.stream x.cache
      x.env o := Prog.Traced.runs h PartRuns.runs

/-- In the terms of the loop, for which it is known when it makes progress. -/
theorem exec_of_faulty {start : ℕ} {α : Type} {y : Option Exn} {p : ServerM α} {s s' : ServerState}
    {u u' : Bytes} {w w' : ℕ} {d d' : δ} {r : Except Exn α} {fs : List (Fault Exn)}
    (h : Prog.Faulty (serverMedium start) E y p s u w d (.done r s' u' w' d') fs) :
    Exec E start p s u d (.done r s' u' d') := by
  generalize ho : Stop.done r s' u' w' d' = o at h
  induction h with
  | ret =>
    cases ho
    exact .ret
  | throw =>
    cases ho
    exact .throw
  | writeKills | flushKills | readForever | callForever | spin => cases ho
  | get _ ih => exact .get (ih ho)
  | put _ ih => exact .put (ih ho)
  | write _ _ ih | writeSpills _ _ _ ih => exact .write (r := .ok ()) (fun h => by cases h) (ih ho)
  | writeFails _ _ ih => exact .write (r := .error .socketError) (fun h => by cases h) (ih ho)
  | flush _ ih => exact .flush (r := .ok ()) (fun h => by cases h) (ih ho)
  | flushFails _ _ ih => exact .flush (r := .error .socketError) (fun h => by cases h) (ih ho)
  | read hb _ ih => exact .read hb (ih ho)
  | readFails hn _ ih => exact .readEnd hn (ih ho)
  | readNoMemory hu _ ih => exact .readAlloc hu (ih ho)
  | peek _ ih => exact .peek (ih ho)
  | check _ ih => exact .check (ih ho)
  | call ha _ ih => exact .call ha (ih ho)

/-- An iteration that does not begin with a byte to stall on, and is not the last one, consumes a
byte. -/
theorem ServeRuns.length_lt {s : ServerState} {u : Bytes} {w : ℕ} {d : δ}
    (h : ServeRuns E B x (.done (.ok true) s u w d) es)
    (hx : (ThreadStep.begins x.stream).Met B) : u.length < x.stream.length := by
  obtain ⟨fs, hrun⟩ := h.runs
  have hstall : ¬ StallsAt B x.toLoopState := fun ⟨b, hb, hs⟩ => hx b hb hs
  exact Iterates.progress hstall (exec_of_faulty hrun)

/-- What is left by a program that reads nothing and does not end the loop. -/
def GoesOnUnread (u : Bytes) (r : Except Exn Bool) (v : Bytes) : Prop :=
  v = u ∧ ∀ c, r = .ok c → c = true

theorem wlp_iteration {p : ServerM Bool} {s : ServerState} {u : Bytes}
    (hp : p.wlp True s u fun r _ v => GoesOnUnread u r v) :
    (ServerInstance.iteration p).wlp True s u fun r _ v => GoesOnUnread u r v := by
  have herror (e : Exn) : GoesOnUnread u (.error e) u := ⟨rfl, fun _ h => by cases h⟩
  refine Prog.wlp_bind (Prog.wlp_mono (Q := fun r _ v => GoesOnUnread u r v) ?_
    (Prog.wlp_tryCatch (Prog.wlp_mono ?_ hp)))
  · rintro (e | c) t v ⟨rfl, hc⟩
    · exact herror e
    · refine Prog.wlp_bind (Prog.wlp_flushOut ?_)
      rintro (e | _)
      · exact herror e
      · exact ⟨rfl, fun _ h => Except.ok.inj h ▸ hc c rfl⟩
  -- a failing allocation is answered with an error
  · rintro (e | c) t v ⟨rfl, hc⟩
    · cases e with
      | badAlloc =>
        refine Prog.wlp_bind (Prog.wlp_send ?_)
        rintro (e | _)
        · exact herror e
        · exact ⟨rfl, fun _ h => (Except.ok.inj h).symm⟩
      | _ => exact herror _
    · exact ⟨rfl, hc⟩

/-- On a byte to stall on, nothing is read, and the loop goes on. -/
theorem ServeRuns.stays {c : Bool} {s : ServerState} {u : Bytes} {w : ℕ} {d : δ}
    (h : ServeRuns E B x (.done (.ok c) s u w d) es)
    (hx : ¬ (ThreadStep.begins x.stream).Met B) : c = true ∧ u = x.stream := by
  obtain ⟨b, hb, hs⟩ : ∃ b ∈ x.stream.head?, Stalls B b := by
    simpa only [ThreadStep.Met, not_forall, not_not, exists_prop] using hx
  have hdispatch : (ServerInstance.dispatch B (PacketType.ofByte b)).wlp True x.server x.stream
      fun r _ v => GoesOnUnread x.stream r v := by
    have herror (err : Int32) : (ServerInstance.writeError err >>= fun _ => pure true).wlp True
        x.server x.stream fun r _ v => GoesOnUnread x.stream r v := by
      refine Prog.wlp_bind (Prog.wlp_send ?_)
      rintro (e | _)
      · exact ⟨rfl, fun _ h => by cases h⟩
      · exact ⟨rfl, fun _ h => (Except.ok.inj h).symm⟩
    rcases hs with hnone | ⟨hclone, hlt⟩ | ⟨hqueue, hlt⟩
    · rw [hnone]
      exact ⟨rfl, fun _ h => (Except.ok.inj h).symm⟩
    · rw [hclone]
      show (ServerInstance.cloneKernel B >>= fun _ => pure true).wlp True _ _ _
      rw [ServerInstance.cloneKernel, if_neg (Nat.not_le.mpr hlt)]
      exact herror _
    · rw [hqueue]
      show (ServerInstance.createQueueWithProp B >>= fun _ => pure true).wlp True _ _ _
      rw [ServerInstance.createQueueWithProp, if_neg (Nat.not_le.mpr hlt)]
      exact herror _
  obtain ⟨fs, hrun⟩ := h.runs
  cases hrun with
  | peek hrun =>
    change Prog.Faulty _ E none (ServerInstance.iteration (ServerInstance.dispatch B
      (PacketType.ofByte (x.stream.head?.getD PacketType.terminate.toByte)))) _ _ _ _ _ _ at hrun
    rw [Option.mem_def.mp hb, Option.getD_some] at hrun
    obtain ⟨hu, hc⟩ := hrun.wlp (wlp_iteration hdispatch)
    exact ⟨hc c rfl, hu⟩

end Iterations

/-! ## The thread -/

/-- How the thread ends: `run` returns, an exception escapes, or the thread never gets there.  A
call of `std::terminate` by a `noexcept` function counts as an exception that escapes. -/
inductive ThreadEnd where
  | returns
  | escapes (e : Exn)
  | never (how : Never)
  deriving DecidableEq

section Thread

variable {δ : Type} (E : δ → (c : ServerCall) → Ans c → δ → Prop) (B : ServerBuild)

/-- The steps of an iteration. -/
def ThreadState.steps (x : ThreadState δ) (es : List ThreadStep) : Set ThreadStep :=
  insert (.begins x.stream) {step | step ∈ es}

/-- The executions of `run`: how it ends, the driver at the end, and all steps.  Of an execution
that goes on for ever, it is the driver at the beginning of any iteration. -/
inductive Running : ThreadState δ → ThreadEnd → δ → Set ThreadStep → Prop
  | returns {x s u w d es} (h : ServeRuns E B x (.done (.ok false) s u w d) es) :
      Running x .returns d (x.steps es)
  | escapes {x e s u w d es} (h : ServeRuns E B x (.done (.error e) s u w d) es) :
      Running x (.escapes e) d (x.steps es)
  | never {x how d es} (h : ServeRuns E B x (.never how d) es) :
      Running x (.never how) d (x.steps es)
  | again {x y : ThreadState δ} {z d es S}
      (h : ServeRuns E B x (.done (.ok true) y.server y.stream y.cache y.env) es)
      (hnext : Running y z d S) : Running x z d (x.steps es ∪ S)
  | forever {x : ℕ → ThreadState δ} {es : ℕ → List ThreadStep}
      (h : ∀ n, ServeRuns E B (x n) (.done (.ok true) (x (n + 1)).server (x (n + 1)).stream
        (x (n + 1)).cache (x (n + 1)).env) (es n)) (n : ℕ) :
      Running (x 0) (.never .spin) (x n).env (⋃ m, (x m).steps (es m))

/-- The executions of the thread function, with the bytes that the client sends before its
connection ends: it makes a `ServerInstance` and calls `run`. -/
inductive Thread : Bytes → δ → ThreadEnd → δ → Set ThreadStep → Prop
  | escapes {u d e s u' w d' es}
      (h : Executes E u.length Unit (ServerInstance.construct B) ⟨[], none⟩ u 0 d
        (.done (.error e) s u' w d') es) : Thread u d (.escapes e) d' {step | step ∈ es}
  | never {u d how d' es}
      (h : Executes E u.length Unit (ServerInstance.construct B) ⟨[], none⟩ u 0 d
        (.never how d') es) : Thread u d (.never how) d' {step | step ∈ es}
  | run {u d es} {x : ThreadState δ} {z d' S}
      (h : Executes E u.length Unit (ServerInstance.construct B) ⟨[], none⟩ u 0 d
        (.done (.ok ()) x.server x.stream x.cache x.env) es)
      (hrun : Running E B x z d' S) : Thread u d z d' ({step | step ∈ es} ∪ S)

variable {E B}

theorem begins_mem {x : ThreadState δ} {z : ThreadEnd} {d : δ} {S : Set ThreadStep}
    (h : Running E B x z d S) : .begins x.stream ∈ S := by
  cases h with
  | returns | escapes | never => exact Or.inl rfl
  | again => exact Or.inl (Or.inl rfl)
  | forever => exact Set.mem_iUnion.mpr ⟨0, Or.inl rfl⟩

/-- `run` returns exactly if all steps go well. -/
theorem Running.returns_iff {x : ThreadState δ} {z : ThreadEnd} {d : δ} {S : Set ThreadStep}
    (h : Running E B x z d S) : z = .returns ↔ ∀ step ∈ S, step.Met B := by
  induction h with
  | returns h =>
    refine iff_of_true rfl (Set.forall_mem_insert.mpr ⟨?_, (executes_returns_iff h).mp trivial⟩)
    exact not_not.mp fun hbegins => Bool.false_ne_true (h.stays hbegins).1
  | escapes h | never h =>
    refine iff_of_false (fun h => by cases h) fun hmet => ?_
    exact (executes_returns_iff h).mpr fun step hstep => hmet step (Or.inr hstep)
  | @again x y z d es S h hnext ih =>
    simp only [ih, Set.mem_union, or_imp, forall_and]
    rw [ThreadState.steps, Set.forall_mem_insert]
    refine ⟨fun hS => ⟨⟨?_, (executes_returns_iff h).mp trivial⟩, hS⟩, And.right⟩
    -- an iteration that reads nothing leaves the next one the same byte
    refine not_not.mp fun hbegins => hbegins ?_
    rw [← (h.stays hbegins).2]
    exact hS _ (begins_mem hnext)
  | @forever x es h n =>
    refine iff_of_false (fun h => by cases h) fun hmet => ?_
    have hlt (m : ℕ) : (x (m + 1)).stream.length < (x m).stream.length :=
      (h m).length_lt (hmet _ (Set.mem_iUnion.mpr ⟨m, Or.inl rfl⟩))
    exact not_strictAnti_of_wellFoundedLT (fun m => (x m).stream.length)
      (strictAnti_nat_of_succ_lt hlt)

/-- There is an execution from everywhere, which may go on for ever. -/
theorem Running.exists (E : δ → (c : ServerCall) → Ans c → δ → Prop) (B : ServerBuild)
    (x : ThreadState δ) : ∃ z d S, Running E B x z d S := by
  by_contra hnone
  -- from a state without an execution there is an iteration to another one
  have hstep (y : {y : ThreadState δ // ¬ ∃ z d S, Running E B y z d S}) :
      ∃ (y' : {y : ThreadState δ // ¬ ∃ z d S, Running E B y z d S}) (es : List ThreadStep),
        ServeRuns E B y.1 (.done (.ok true) y'.1.server y'.1.stream y'.1.cache y'.1.env) es := by
    obtain ⟨o, hruns⟩ := Prog.Runs.exists (M := serverMedium y.1.stream.length) (E := E)
      (show 0 < 1024 by decide) (ServerInstance.serve B) y.1.server y.1.stream y.1.cache y.1.env
    obtain ⟨es, h⟩ := made_serve B _ _ _ _ _ hruns
    rcases o with ⟨e | c, s, u, w, d⟩ | ⟨how, d⟩
    · exact absurd ⟨_, _, _, .escapes h⟩ y.2
    · cases c with
      | false => exact absurd ⟨_, _, _, .returns h⟩ y.2
      | true =>
        have hnot : ¬ ∃ z d' S, Running E B ⟨⟨s, u, d⟩, w⟩ z d' S := fun ⟨z, d', S, hrun⟩ =>
          y.2 ⟨z, d', _, .again (y := ⟨⟨s, u, d⟩, w⟩) h hrun⟩
        exact ⟨⟨_, hnot⟩, es, h⟩
    · exact absurd ⟨_, _, _, .never h⟩ y.2
  choose next es h using hstep
  have hforever (n : ℕ) := h (next^[n] ⟨x, hnone⟩)
  simp only [← Function.iterate_succ_apply' next] at hforever
  exact hnone ⟨_, _, _, .forever (x := fun n => (next^[n] ⟨x, hnone⟩).1) hforever 0⟩

end Thread

/-- A server without zlib for OpenCL 2.1. -/
def plainServer : ServerBuild := ⟨⟨0, 0, 2, none, false⟩, 210⟩

/-- A driver that may answer anything. -/
def anyDriver (_ : Unit) (c : ServerCall) (_ : Ans c) (_ : Unit) : Prop := True

section Examples

variable {δ : Type} {E : δ → (c : ServerCall) → Ans c → δ → Prop} {B : ServerBuild} {start : ℕ}
variable {s : ServerState} {u v : Bytes} {w : ℕ} {d : δ}

theorem executes_flush : Executes E start Unit PacketStream.flush s u w d
    (.done (.ok ()) s u 0 d) [] := .part (.flush (.flush .ret))

theorem executes_write {ty : PacketType} {body : Bytes} (hw : w + body.length + 1 < 1024) :
    Executes E start Unit (PacketStream.write ty body) s u w d
      (.done (.ok ()) s u (w + (body.length + 1)) d) [] :=
  .part (.write (.write hw .ret))

/-- A packet that is there as a whole. -/
theorem executes_read {P : Type} [Packet P] [Wire P] {p : P} (hty : Ordinary (Packet.mType P))
    (hr : (Wire.dec : Reader P).run u = some (p, v)) :
    Executes E start P (PacketStream.readPacket P) s ((Packet.mType P).toByte :: u) w d
      (.done (.ok p) s v w d)
      [.packet ((Packet.mType P).toByte :: u) (discard (Wire.dec : Reader P))] := by
  refine .part (.read (Or.inl rfl) (runs_of_carries (Or.inl rfl) ?_))
  exact ⟨_, u, rfl, hty.toByte_ne_error, hty.toByte_ne_terminate, hr⟩

theorem executes_construct :
    Executes E start Unit (ServerInstance.construct B) ⟨[], none⟩ u 0 d
      (.done (.ok ()) ⟨[], none⟩ u 0 d) [] :=
  have hw : 0 + (Wire.enc (VersionPacket.ofBuild B.toBuild)).length + 1 < 1024 := by
    simp [Wire.enc]
  .bind (executes_write hw) executes_flush

/-- An iteration whose request is answered. -/
theorem serveRuns_of_dispatch {x : ThreadState δ} {c : Bool} {t : ServerState} {z : ℕ} {d : δ}
    {es : List ThreadStep}
    (h : Executes E x.stream.length Bool (ServerInstance.dispatch B
      (PacketType.ofByte (x.stream.head?.getD PacketType.terminate.toByte))) x.server x.stream
      x.cache x.env (.done (.ok c) t v z d) es) :
    ServeRuns E B x (.done (.ok c) t v 0 d) es := by
  have hpeek : Executes E x.stream.length UInt8 PacketStream.nextPacketTy x.server x.stream
      x.cache x.env (.done (.ok (x.stream.head?.getD PacketType.terminate.toByte)) x.server x.stream
        x.cache x.env) [] := .part .nextPacketTy
  have hflush : Executes E x.stream.length Bool (PacketStream.flush >>= fun _ => pure c) t v z d
      (.done (.ok c) t v 0 d) [] := .bind executes_flush .ret
  have hnext : Executes E x.stream.length Bool (ServerInstance.handleNextPacket B) x.server x.stream
      x.cache x.env (.done (.ok c) t v z d) ([] ++ es) := .bind hpeek h
  rw [← List.append_nil es]
  exact Prog.Traced.bind (.tryReturns hnext) hflush

/-- The client has left. -/
theorem running_leaves : Running E B ⟨⟨s, [], d⟩, w⟩ .returns d
    (insert (.begins []) {step | step ∈ []}) := by
  have hterminate : Executes E 0 Unit ServerInstance.terminate s [] w d
      (.done (.ok ()) { s with mEventStream := none } [] w d) [] := .part .modifyState
  exact .returns (serveRuns_of_dispatch (.bind hterminate .ret))

/-- A client that sends one request and leaves. -/
theorem thread_of_request {t : ServerState} {z : ℕ} {d' : δ} {es : List ThreadStep}
    (h : Executes E u.length Bool (ServerInstance.dispatch B
      (PacketType.ofByte (u.head?.getD PacketType.terminate.toByte))) ⟨[], none⟩ u 0 d
      (.done (.ok true) t [] z d') es) :
    Thread E B u d .returns d' ({step | step ∈ []} ∪
      (insert (.begins u) {step | step ∈ es} ∪ insert (.begins []) {step | step ∈ []})) := by
  have hserves : ServeRuns E B ⟨⟨⟨[], none⟩, u, d⟩, 0⟩ (.done (.ok true) t [] 0 d') es :=
    serveRuns_of_dispatch h
  have hrun : Running E B ⟨⟨⟨[], none⟩, u, d⟩, 0⟩ .returns d' _ :=
    .again (y := ⟨⟨t, [], d'⟩, 0⟩) hserves running_leaves
  exact .run (x := ⟨⟨⟨[], none⟩, u, d⟩, 0⟩) executes_construct hrun

end Examples

end RemoteCL

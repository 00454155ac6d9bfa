import RemoteCL.Common.Exchange
import RemoteCL.Server.Run

/-!
# Whether the server's loop makes progress

The server is run here on a stream of which all bytes are known, behind which the connection
ends.  The loop only looks at the first byte of a packet, and relies on the handler to take the
packet off the stream.  So the question is which first bytes lead to an iteration that goes on
without having read anything.

There are three kinds (`Stalls`): the bytes without an enumerator, which fall through the switch,
and the two requests whose handler is compiled out for an older version of OpenCL.  On every
other stream an iteration ends the loop or has consumed a byte, and the loop has at most as
many iterations as the stream has bytes.

At the end of the stream `SocketStream::read` throws if less than one buffer is missing.  A larger
block is received directly into its destination, in a loop that does not notice the end of the
stream, so such a read never returns.
-/

namespace RemoteCL

open ByteStream Conversation

/-! ## Running a program on a stream that ends -/

/-- How the run of a program ends: with a result or an exception, or never.  The bytes are those
that are left on the stream. -/
inductive Outcome (α δ : Type) where
  | done (r : Except Exn α) (s : ServerState) (rest : Bytes) (d : δ)
  | hang (rest : Bytes)

/-- The bytes that have not been consumed. -/
def Outcome.rest {α δ : Type} : Outcome α δ → Bytes
  | done _ _ rest _ => rest
  | hang rest => rest

/-- `SocketStream::BufferSize`. -/
def bufferSize : ℕ := 1024

section Exec

variable {δ α : Type}

/-- The runs of a program of the server.  Writing and flushing fail when the socket does.  An
allocation may fail once fewer than `start` bytes are left: no handler allocates memory before it
has read the type of its packet. -/
inductive Exec (E : δ → (c : ServerCall) → Ans c → δ → Prop) (start : ℕ) :
    ServerM α → ServerState → Bytes → δ → Outcome α δ → Prop
  | ret {a s u d} : Exec E start (.ret a) s u d (.done (.ok a) s u d)
  | throw {e s u d} : Exec E start (.throw e) s u d (.done (.error e) s u d)
  | get {k s u d o} (h : Exec E start (k s) s u d o) : Exec E start (.get k) s u d o
  | put {k s s' u d o} (h : Exec E start k s' u d o) : Exec E start (.put s' k) s u d o
  | write {b k s u d o r} (hr : r = .error .badAlloc → u.length < start)
      (h : Exec E start (k r) s u d o) : Exec E start (.write b k) s u d o
  | flush {k s u d o r} (hr : r = .error .badAlloc → u.length < start)
      (h : Exec E start (k r) s u d o) : Exec E start (.flush k) s u d o
  | read {n b k s u d o} (hb : b.length = n) (h : Exec E start (k (.ok b)) s u d o) :
      Exec E start (.read n k) s (b ++ u) d o
  | readEnd {n k s u d o} (hn : u.length < n)
      (h : Exec E start (k (.error .socketError)) s [] d o) : Exec E start (.read n k) s u d o
  | readForever {n k s u d} (hn : u.length + bufferSize ≤ n) :
      Exec E start (.read n k) s u d (.hang [])
  | readAlloc {n k s u d o} (hu : u.length < start)
      (h : Exec E start (k (.error .badAlloc)) s u d o) : Exec E start (.read n k) s u d o
  | peek {k s u d o} (h : Exec E start (k u.head?) s u d o) : Exec E start (.peek k) s u d o
  | check {b k s u d o} (h : Exec E start k s u d o) : Exec E start (.check b k) s u d o
  | call {c a k s u d d' o} (ha : E d c a d') (h : Exec E start (k a) s u d' o) :
      Exec E start (.call c k) s u d o
  | spin {s u d} : Exec E start .spin s u d (.hang u)

variable {E : δ → (c : ServerCall) → Ans c → δ → Prop} {start : ℕ}

/-- Nothing is put back onto the stream. -/
theorem Exec.length_rest_le {p : ServerM α} {s : ServerState} {u : Bytes} {d : δ}
    {o : Outcome α δ} (h : Exec E start p s u d o) : o.rest.length ≤ u.length := by
  induction h with
  | ret | throw | spin => exact Nat.le_refl _
  | read hb _ ih =>
    rw [List.length_append]
    omega
  | readEnd _ _ ih =>
    rw [List.length_nil] at ih
    omega
  | readForever => exact Nat.zero_le _
  | get _ ih | put _ ih | write _ _ ih | flush _ _ ih | readAlloc _ _ ih | peek _ ih
  | check _ ih | call _ _ ih => exact ih

/-- A program that starts by reading a byte consumes it if there is one. -/
theorem Exec.length_rest_lt {p : ServerM α} (hp : Prog.ReadsByte p) {s : ServerState}
    {u : Bytes} (hu : u ≠ []) {d : δ} {o : Outcome α δ} (h : Exec E u.length p s u d o) :
    o.rest.length < u.length := by
  have hpos : 0 < u.length := List.length_pos_iff.mpr hu
  obtain ⟨k, rfl⟩ := hp
  generalize hstart : u.length = start at h
  cases h with
  | read hb h =>
    have hle := h.length_rest_le
    rw [List.length_append, hb] at hstart
    omega
  | readEnd hn => omega
  | readForever hn => exact absurd hn (by rw [bufferSize]; omega)
  | readAlloc hlt => omega

end Exec

/-! ## The first byte of an iteration -/

/-- The first bytes on which an iteration goes on without consuming anything. -/
def Stalls (B : ServerBuild) (b : UInt8) : Prop :=
  PacketType.ofByte b = none ∨
    (PacketType.ofByte b = some .cloneKernel ∧ B.clTarget < 210) ∨
      (PacketType.ofByte b = some .createQueueWithProp ∧ B.clTarget < 200)

instance (B : ServerBuild) (b : UInt8) : Decidable (Stalls B b) :=
  inferInstanceAs (Decidable (_ ∨ _ ∨ _))

namespace ServerInstance

/-- A handler reads its packet first, unless it is compiled out. -/
theorem readsByte_handler {B : ServerBuild} {ty : PacketType} {h : ServerM Unit}
    (hh : handler B ty = some h) (hclone : ty = .cloneKernel → 210 ≤ B.clTarget)
    (hqueue : ty = .createQueueWithProp → 200 ≤ B.clTarget) : Prog.ReadsByte h := by
  cases ty
  case cloneKernel =>
    obtain rfl := Option.some.inj hh
    rw [cloneKernel, if_pos (hclone rfl)]
    exact PacketStream.exists_read_bind_eq _ _ _
  case createQueueWithProp =>
    obtain rfl := Option.some.inj hh
    rw [createQueueWithProp, if_pos (hqueue rfl)]
    exact PacketStream.exists_read_bind_eq _ _ _
  case registerEventCallback =>
    obtain rfl := Option.some.inj hh
    exact Prog.ReadsByte.tryCatch (PacketStream.exists_readNoexcept_bind_eq _ _ _) _
  all_goals first
    | (obtain rfl := Option.some.inj hh; exact PacketStream.exists_read_bind_eq _ _ _)
    | exact absurd hh (by simp [handler])

/-- What the switch does with a byte on which it does not stall: it reads, or ends the loop. -/
theorem dispatch_cases {B : ServerBuild} {b : UInt8} (hb : ¬ Stalls B b) :
    Prog.ReadsByte (dispatch B (PacketType.ofByte b)) ∨
      dispatch B (PacketType.ofByte b) = pure false ∨
      dispatch B (PacketType.ofByte b) = terminate >>= fun _ => pure false := by
  cases hty : PacketType.ofByte b with
  | none => exact absurd (Or.inl hty) hb
  | some ty =>
    by_cases hterm : ty = .terminate
    · rw [hterm]
      exact Or.inr (Or.inr rfl)
    cases hh : handler B ty with
    | none =>
      refine Or.inr (Or.inl ?_)
      rw [dispatch.eq_2 B ty hterm, hh]
    | some h =>
      refine Or.inl ?_
      have hdispatch : dispatch B (some ty) = h >>= fun _ => pure true := by
        rw [dispatch.eq_2 B ty hterm, hh]
      rw [hdispatch]
      refine Prog.ReadsByte.bind (readsByte_handler hh ?_ ?_) _
      · rintro rfl
        exact Nat.le_of_not_lt fun hlt => hb (Or.inr (Or.inl ⟨hty, hlt⟩))
      · rintro rfl
        exact Nat.le_of_not_lt fun hlt => hb (Or.inr (Or.inr ⟨hty, hlt⟩))

end ServerInstance

/-! ## Iterations -/

section Iterations

variable {δ : Type} (E : δ → (c : ServerCall) → Ans c → δ → Prop) (B : ServerBuild)

/-- The state of the server between two iterations. -/
structure LoopState (δ : Type) where
  server : ServerState
  stream : Bytes
  env : δ

/-- What an iteration of the loop can come to. -/
def Iterates (x : LoopState δ) (o : Outcome Bool δ) : Prop :=
  Exec E x.stream.length (ServerInstance.serve B) x.server x.stream x.env o

/-- The iteration ends the loop, or has consumed a byte. -/
def Outcome.Progress (u : Bytes) : Outcome Bool δ → Prop
  | done (.ok true) _ rest _ => rest.length < u.length
  | done _ _ _ _ => True
  | hang rest => rest.length < u.length

/-- One iteration, after which there is another. -/
def Continues (x y : LoopState δ) : Prop :=
  Iterates E B x (.done (.ok true) y.server y.stream y.env)

/-- The loop ends after finitely many iterations, however they go. -/
def EndsFrom (x : LoopState δ) : Prop := Acc (fun y x => Continues E B x y) x

/-- The next byte is one on which the server stalls. -/
def StallsAt (x : LoopState δ) : Prop := ∃ b ∈ x.stream.head?, Stalls B b

variable {E B}

/-- An iteration starts with a look at the next byte. -/
theorem iterates_iff {x : LoopState δ} {o : Outcome Bool δ} :
    Iterates E B x o ↔
      Exec E x.stream.length (ServerInstance.iteration (ServerInstance.dispatch B
        (PacketType.ofByte (x.stream.head?.getD PacketType.terminate.toByte))))
        x.server x.stream x.env o := by
  constructor
  · intro h
    cases h with
    | peek h => exact h
  · exact fun h => Exec.peek h

/-- An iteration that has nothing to do but to end the loop ends it. -/
theorem progress_of_ret_false {start : ℕ} {s : ServerState} {u v : Bytes} {d : δ}
    {o : Outcome Bool δ}
    (h : Exec E start (ServerInstance.iteration (pure false)) s u d o) : o.Progress v := by
  rw [Prog.pure_eq, ServerInstance.iteration_ret] at h
  cases h with
  | flush hr h =>
    rename_i r
    cases r with
    | ok => cases h; trivial
    | error => cases h; trivial

/-- Where the first byte is not one to stall on, the iteration makes progress. -/
theorem Iterates.progress {x : LoopState δ} (hx : ¬ StallsAt B x) {o : Outcome Bool δ}
    (h : Iterates E B x o) : o.Progress x.stream := by
  rw [iterates_iff] at h
  cases hu : x.stream with
  | nil =>
    -- the stream has ended, which counts as the end of the connection
    rw [hu] at h
    cases h with
    | get h =>
      cases h with
      | put h => exact progress_of_ret_false h
  | cons b v =>
    have hb : ¬ Stalls B b := fun hs => hx ⟨b, by rw [hu]; rfl, hs⟩
    rw [hu, List.head?_cons, Option.getD_some] at h
    rcases ServerInstance.dispatch_cases hb with hread | hfalse | hterm
    · have hlt := h.length_rest_lt ((hread.tryCatch _).bind _) (List.cons_ne_nil b v)
      cases o with
      | hang rest => exact hlt
      | done r s rest d =>
        cases r with
        | error => trivial
        | ok c => cases c with
          | false => trivial
          | true => exact hlt
    · rw [hfalse] at h
      exact progress_of_ret_false h
    · rw [hterm] at h
      cases h with
      | get h =>
        cases h with
        | put h => exact progress_of_ret_false h

/-- A handler that is compiled out answers without reading. -/
theorem exec_writeError {start : ℕ} {s : ServerState} {u : Bytes} {d : δ} (err : Int32) :
    Exec E start (ServerInstance.iteration
        (ServerInstance.writeError err >>= fun _ => pure true)) s u d
      (.done (.ok true) s u d) :=
  Exec.write (r := .ok ()) (fun h => by cases h)
    (Exec.flush (r := .ok ()) (fun h => by cases h) Exec.ret)

/-- Where the server stalls, an iteration may change nothing at all. -/
theorem continues_of_stallsAt {x : LoopState δ} (hx : StallsAt B x) : Continues E B x x := by
  obtain ⟨b, hb, hs⟩ := hx
  rw [Continues, iterates_iff, Option.mem_def.mp hb, Option.getD_some]
  rcases hs with hnone | ⟨hclone, hlt⟩ | ⟨hqueue, hlt⟩
  · rw [hnone]
    exact Exec.flush (r := .ok ()) (fun h => by cases h) Exec.ret
  · have hdispatch : ServerInstance.dispatch B (some .cloneKernel) =
        ServerInstance.writeError CL_INVALID_OPERATION >>= fun _ => pure true := by
      show (ServerInstance.cloneKernel B >>= fun _ => pure true) = _
      rw [ServerInstance.cloneKernel, if_neg (Nat.not_le.mpr hlt)]
    rw [hclone, hdispatch]
    exact exec_writeError _
  · have hdispatch : ServerInstance.dispatch B (some .createQueueWithProp) =
        ServerInstance.writeError CL_INVALID_OPERATION >>= fun _ => pure true := by
      show (ServerInstance.createQueueWithProp B >>= fun _ => pure true) = _
      rw [ServerInstance.createQueueWithProp, if_neg (Nat.not_le.mpr hlt)]
    rw [hqueue, hdispatch]
    exact exec_writeError _

/-- **One iteration**: it is sure to end the loop or to consume a byte exactly if the server does
not stall on the first byte. -/
theorem progress_iff {x : LoopState δ} :
    (∀ o, Iterates E B x o → o.Progress x.stream) ↔ ¬ StallsAt B x := by
  refine ⟨fun h hx => ?_, fun hx o h => h.progress hx⟩
  exact Nat.lt_irrefl _ (h _ (continues_of_stallsAt hx))

/-- A loop that ends from `x` ends from everywhere it gets to, and does not stay anywhere. -/
theorem EndsFrom.not_continues_self {x y : LoopState δ} (hx : EndsFrom E B x)
    (hxy : Relation.ReflTransGen (Continues E B) x y) : ¬ Continues E B y y := by
  have hy : EndsFrom E B y := by
    induction hxy with
    | refl => exact hx
    | tail _ hstep ih => exact Acc.inv ih hstep
  clear hxy
  intro hstep
  induction hy with
  | intro y _ ih => exact ih y hstep hstep

/-- **The loop**: it ends after finitely many iterations exactly if no iteration of it starts with
a byte on which the server stalls. -/
theorem endsFrom_iff {x : LoopState δ} :
    EndsFrom E B x ↔ ∀ y, Relation.ReflTransGen (Continues E B) x y → ¬ StallsAt B y := by
  refine ⟨fun hx y hxy hy => hx.not_continues_self hxy (continues_of_stallsAt hy), ?_⟩
  -- by induction on the number of bytes left
  generalize hn : x.stream.length = n
  induction n using Nat.strongRecOn generalizing x with
  | ind n ih =>
    intro hx
    refine Acc.intro x fun y hxy => ?_
    have hlt : y.stream.length < x.stream.length :=
      Iterates.progress (hx x Relation.ReflTransGen.refl) hxy
    exact ih _ (hn ▸ hlt) rfl fun z hyz => hx z (Relation.ReflTransGen.head hxy hyz)

/-- **Progress of the server**, for every build, every state and every stream: an iteration ends
the loop or consumes a byte, and the loop ends, exactly as long as no iteration starts with a
byte on which the server stalls. -/
theorem server_progress_iff (E : δ → (c : ServerCall) → Ans c → δ → Prop) (B : ServerBuild)
    (x : LoopState δ) :
    ((∀ o, Iterates E B x o → o.Progress x.stream) ↔ ¬ StallsAt B x) ∧
      (EndsFrom E B x ↔ ∀ y, Relation.ReflTransGen (Continues E B) x y → ¬ StallsAt B y) :=
  ⟨progress_iff, endsFrom_iff⟩

end Iterations

/-- A server for OpenCL 2.1 that finds the byte `0x50`, which is no packet type, goes around its
loop for ever. -/
theorem server_stalls_on_unknown_byte :
    ¬ ∀ (B : ServerBuild), 120 ≤ B.clTarget → ∀ (x : LoopState Unit),
      (∀ o, Iterates (fun _ _ _ _ => True) B x o → o.Progress x.stream) ∧
        EndsFrom (fun _ _ _ _ => True) B x := by
  intro h
  let B : ServerBuild := ⟨⟨0, 0, 2, none, false⟩, 210⟩
  have hstall : StallsAt B (⟨⟨[], none⟩, [0x50], ()⟩ : LoopState Unit) :=
    ⟨0x50, rfl, by decide⟩
  exact progress_iff.mp (h B (by decide) _).1 hstall

end RemoteCL

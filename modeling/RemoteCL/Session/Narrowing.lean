import RemoteCL.Session.Numbers
import RemoteCL.Session.ProgramFetches

/-!
# Numbers that are cut off

A call that succeeds has had the driver act on the numbers that it was made with, or on what is left
of them in 32 bits.  `keepsNumbers_iff` says when it is the former for every driver: when the
numbers fit, unless the client does not accept the call, or the server has no room for what is to be
read.

Both directions follow the call to the driver, and then what it makes of the answer.  For the one a
driver that accepts everything is enough.  For the other, a run in which the driver has not been
given the numbers yet is also one of a driver that refuses them (`Driver.run_congr`), and the call
does not succeed with such a driver.
-/

namespace RemoteCL

open ByteStream Conversation Wire LawfulWire Client

/-! ## Success -/

/-- A code that is no error, or a handle. -/
def Client.Ret.Succeeded : Ret → Prop
  | .code err => err = CL_SUCCESS
  | .handle _ h => h ≠ none

section Outcomes

variable {δ : Type} {E : δ → (c : ServerCall) → Ans c → δ → Prop} {B : ServerBuild}
variable {p q : Prop} {x y : CallConfig δ}

/-- The call has succeeded. -/
abbrev Succeeds (x : CallConfig δ) : Prop := Returned (fun r _ => r.Succeeded) x

/-- The call has returned an error, or will not return. -/
abbrev Fails (x : CallConfig δ) : Prop := Comes (fun r _ => ¬ r.Succeeded) x

/-- The call has returned an error, or does when its connection is found to be closed. -/
abbrev ReportsError (x : CallConfig δ) : Prop := Finishes .socketError (fun r _ => ¬ r.Succeeded) x

/-- The call fails only if `p` holds, and succeeds only if `q` does. -/
def Decided (p q : Prop) (x : CallConfig δ) : Prop := p ∧ Fails x ∨ q ∧ Succeeds x

theorem stable_outcome : Stable E (ServerInstance.serve B) (Decided p q) := by
  rintro x y (⟨hp, hx⟩ | ⟨hq, hx⟩) hxy
  · exact Or.inl ⟨hp, stable_comes x y hx hxy⟩
  · exact Or.inr ⟨hq, stable_returned x y hx hxy⟩

variable {s : ClientState} {t : ServerState} {u d : Bytes} {e : δ}

theorem fails_code {err : Int32} (herr : err ≠ CL_SUCCESS)
    {server : Side ServerState Exn ServerCall Ans Bool} :
    Fails (⟨⟨.ret (.code err), s, []⟩, server, u, d, e⟩ : CallConfig δ) :=
  Or.inl ⟨_, rfl, herr⟩

theorem fails_searching {q : Except Exn Bytes → ClientM Ret} :
    Fails (⟨⟨.read 1 q, s, []⟩, ⟨.spin, t, []⟩, u, [], e⟩ : CallConfig δ) :=
  Or.inr ⟨1, q, s, .spin, t, u, e, Nat.one_pos, Or.inl rfl, rfl⟩

/-- A command that waits for data from a server that has stopped. -/
theorem reports_thrown (args : WaitArgs) (badAlloc : Int32) {r : Reader Bytes}
    {k : Bytes → ClientM Ret} :
    ReportsError (⟨⟨catching badAlloc CL_DEVICE_NOT_AVAILABLE (awaitEvent args >>= fun _ =>
      PacketStream.read .payload r >>= k), s, []⟩, ⟨.throw .other, t, []⟩, u, [], e⟩ :
        CallConfig δ) := by
  have herr : CL_DEVICE_NOT_AVAILABLE ≠ CL_SUCCESS := by decide
  have hlost {q : Except Exn Bytes → ClientM Ret}
      (hq : q (.error .socketError) = .ret (.code CL_DEVICE_NOT_AVAILABLE)) :
      ReportsError (⟨⟨.read 1 q, s, []⟩, ⟨.throw .other, t, []⟩, u, [], e⟩ : CallConfig δ) :=
    Or.inr ⟨1, q, s, .other, t, u, e, _, Nat.one_pos, hq, herr, rfl⟩
  rw [awaitEvent]
  cases args.event with
  | false =>
    obtain ⟨q, hread, hq⟩ := exists_read_catching badAlloc CL_DEVICE_NOT_AVAILABLE .payload r k
    rw [if_neg Bool.false_ne_true]
    exact hread ▸ hlost hq
  | true =>
    obtain ⟨q, hread, hq⟩ := exists_read_catching badAlloc CL_DEVICE_NOT_AVAILABLE
      (Packet.mType IDPacket) (Wire.dec : Reader IDPacket) fun id =>
        (registerID .event id.mData >>= fun event => store true (.event event)) >>= fun _ =>
          PacketStream.read .payload r >>= k
    rw [if_pos rfl, bind_assoc]
    exact hread ▸ hlost hq

/-- A call that is refused reports an error. -/
theorem settles_reports_of_refused {p : ClientM Ret} (h : Refused p s) :
    Settles E (ServerInstance.serve B) ReportsError (start B p s t e) := by
  refine settles_client_wp stable_finishes Prog.Context.hole (fun _ _ _ h => h.elim)
    (Prog.wp_mono ?_ h)
  rintro r s' o d - ⟨-, ⟨kind, rfl⟩ | ⟨err, herr, rfl⟩⟩
  · exact Settles.final (Or.inl ⟨_, rfl, fun h => h rfl⟩)
  · exact Settles.final (Or.inl ⟨_, rfl, herr⟩)

end Outcomes

/-! ## The first numbers -/

/-- The numbers that the driver has been given, in the order of its calls. -/
def numbersOf (log : List Asked) : List Numbers := log.filterMap fun q => q.1.numbers

theorem numbersOf_concat (log : List Asked) (c : ServerCall) (a : Ans c) :
    numbersOf (log ++ [⟨c, a⟩]) = numbersOf log ++ c.numbers.toList := by
  rw [numbersOf, List.filterMap_append, numbersOf]
  cases hc : c.numbers <;> simp [hc]

/-- The first numbers that the driver was given are these, `m` times. -/
def Supplied (m : ℕ) (n : Numbers) (x : CallConfig (List Asked)) : Prop :=
  List.replicate m n <+: numbersOf x.env

section Supplied

variable {m : ℕ} {n n' : Numbers} {x y : CallConfig (List Asked)}

theorem Supplied.eq (h : Supplied (m + 1) n x) (h' : Supplied (m + 1) n' x) : n = n' := by
  have hsame := List.prefix_of_prefix_length_le h h' (by simp)
  rw [List.replicate_succ, List.replicate_succ, List.cons_prefix_cons] at hsame
  exact hsame.1

theorem stable_given {D : Driver} {B : ServerBuild} :
    Stable D.environment (ServerInstance.serve B) (Supplied m n) :=
  fun _ _ hx hxy => hx.trans ((Driver.prefix_of_run (.single hxy)).filterMap _)

/-- What has been given by the end had been given as soon as there were enough numbers. -/
theorem Supplied.of_le (h : Supplied m n y) (hxy : x.env <+: y.env)
    (hm : m ≤ (numbersOf x.env).length) :
    Supplied m n x :=
  List.prefix_of_prefix_length_le h (hxy.filterMap _) (by rwa [List.length_replicate])

end Supplied

/-! ## Drivers -/

namespace Driver

/-- The size of a pixel, when the driver is asked for nothing else before. -/
def pixelSize (D : Driver) (image : Ptr) : UInt64 :=
  wordAt (storeInto (zeros 8) (D [] (elementSizeOf image)).data)

/-- The pixels of the image of a call have this size. -/
def TellsPixelSize (D : Driver) (t : ServerState) (pixelSize : UInt64) : SizedCall → Prop
  | .clEnqueueReadImage _ (some image) _ _ _ | .clEnqueueWriteImage _ (some image) _ _ _ _ =>
    D.pixelSize (objectAt t.mObjects (GetID image)) = pixelSize
  | _ => True

/-- The driver refuses nothing that is asked here, and there is room for its objects. -/
structure Accepts (D : Driver) (t : ServerState) : Prop where
  info : ∀ log q n, (D log (.info q n)).err = CL_SUCCESS
  create : ∀ log q, (D log (.create q)).err = CL_SUCCESS ∧
    assignID t.mObjects (D log (.create q)).object ≠ none
  enqueue : ∀ log q, (D log (.enqueue q)).err = CL_SUCCESS ∧
    assignID t.mObjects (D log (.enqueue q)).event ≠ none

/-- The driver accepts numbers, when it is given some for the `m`th time or later. -/
def Grants (D : Driver) (m : ℕ) : Prop :=
  ∃ log, m ≤ (numbersOf log).length + 1 ∧
    ((∃ q, (ServerCall.create q).numbers.isSome ∧ (D log (.create q)).err = CL_SUCCESS) ∨
      ∃ q, (D log (.enqueue q)).err = CL_SUCCESS)

/-- The same driver, but it refuses the `m`th numbers, and those after. -/
def refusingFrom (D : Driver) (m : ℕ) : Driver := fun log c =>
  if c.numbers.isSome ∧ m ≤ (numbersOf log).length + 1 then refuse c else D log c

/-- A driver that accepts everything.  It always makes the same object. -/
def accepting (pixelSize : UInt64) (object : Ptr) : Driver
  | _, .info _ _ => ⟨CL_SUCCESS, none, enc pixelSize⟩
  | _, .create _ => ⟨CL_SUCCESS, object⟩
  | _, .enqueue _ => ⟨CL_SUCCESS, object, []⟩
  | _, c => refuse c

variable {D D' : Driver} {t : ServerState} {m : ℕ}

theorem tellsPixelSize_of_forall {w : UInt64} (h : ∀ image, D.pixelSize image = w)
    (call : SizedCall) : D.TellsPixelSize t w call := by
  unfold TellsPixelSize
  split
  exacts [h _, h _, trivial]

theorem TellsPixelSize.congr {w : UInt64} {call : SizedCall} (h : D.TellsPixelSize t w call)
    (hsame : ∀ image, D'.pixelSize image = D.pixelSize image) : D'.TellsPixelSize t w call := by
  unfold TellsPixelSize at h ⊢
  split
  exacts [(hsame _).trans h, (hsame _).trans h, trivial]

theorem pixelSize_accepting (w : UInt64) (object image : Ptr) :
    (accepting w object).pixelSize image = w := by
  have hasked : accepting w object [] (elementSizeOf image) = ⟨CL_SUCCESS, none, enc w⟩ := rfl
  rw [pixelSize, hasked]
  exact wordAt_storeInto_enc w

theorem accepts_accepting (pixelSize : UInt64) {object : Ptr}
    (h : assignID t.mObjects object ≠ none) : (accepting pixelSize object).Accepts t :=
  ⟨fun _ _ _ => rfl, fun _ _ => ⟨rfl, h⟩, fun _ _ => ⟨rfl, h⟩⟩

theorem pixelSize_refusingFrom (image : Ptr) :
    (D.refusingFrom m).pixelSize image = D.pixelSize image := by
  have hsame : D.refusingFrom m [] (elementSizeOf image) = D [] (elementSizeOf image) :=
    if_neg fun ⟨h, _⟩ => nomatch h
  rw [pixelSize, hsame, pixelSize]

theorem not_grants_refusingFrom : ¬ (D.refusingFrom m).Grants m := by
  rintro ⟨log, hlog, ⟨q, hq, herr⟩ | ⟨q, herr⟩⟩
  · have hrefused : D.refusingFrom m log (.create q) = refuse (.create q) := if_pos ⟨hq, hlog⟩
    rw [hrefused] at herr
    cases herr
  · have hrefused : D.refusingFrom m log (.enqueue q) = refuse (.enqueue q) := if_pos ⟨rfl, hlog⟩
    rw [hrefused] at herr
    cases herr

/-- A run in which the driver has not been given so many numbers. -/
theorem run_refusingFrom {B : ServerBuild} {x y : CallConfig (List Asked)}
    (hxy : Relation.ReflTransGen (Step D.environment (ServerInstance.serve B)) x y)
    (hy : (numbersOf y.env).length < m) :
    Relation.ReflTransGen (Step (D.refusingFrom m).environment (ServerInstance.serve B)) x y := by
  refine run_congr hxy fun log c hlog => if_neg ?_
  rintro ⟨hc, hm⟩
  obtain ⟨n, hn⟩ := Option.isSome_iff_exists.mp hc
  have hlen := (hlog.filterMap fun q : Asked => q.1.numbers).length_le
  rw [← numbersOf, ← numbersOf, numbersOf_concat, hn, List.length_append] at hlen
  exact absurd (hm.trans hlen) hy.not_ge

end Driver

/-! ## The answer of the driver -/

section Answers

variable {D : Driver} {B : ServerBuild} {C : Build} {s : ClientState} {t : ServerState}
variable {log : List Asked} {u : Bytes} {m : ℕ} {n : Numbers}
variable {args : WaitArgs} {badAlloc others : Int32}
variable {p : Prop}

variable (D t m n p) in
/-- What a call comes to.  It reports an error if `p` holds, and may do so if the driver does not
accept everything.  Otherwise the driver is given the numbers, and the call succeeds only if it
accepts them for the last time. -/
def Concludes (x : CallConfig (List Asked)) : Prop :=
  (p ∨ ¬ D.Accepts t) ∧ ReportsError x ∨
    ¬ p ∧ Supplied m n x ∧ Decided (¬ D.Accepts t) (D.Grants m) x

theorem stable_concludes :
    Stable D.environment (ServerInstance.serve B) (Concludes D t m n p) := by
  rintro x y (⟨hp, hx⟩ | ⟨hp, hgiven, hx⟩) hxy
  · exact Or.inl ⟨hp, stable_finishes x y hx hxy⟩
  · exact Or.inr ⟨hp, stable_given x y hgiven hxy, stable_outcome x y hx hxy⟩

/-- The call reports an error. -/
theorem settles_concludes_of_reports (hp : p ∨ ¬ D.Accepts t) {x : CallConfig (List Asked)}
    (hx : Settles D.environment (ServerInstance.serve B) ReportsError x) :
    Settles D.environment (ServerInstance.serve B) (Concludes D t m n p) x :=
  hx.mono fun _ hy => Or.inl ⟨hp, hy⟩

/-- The driver has been given the numbers, and has answered. -/
theorem settles_concludes {q r : Prop} (hp : ¬ p) (hq : q → ¬ D.Accepts t) (hr : r → D.Grants m)
    {x : CallConfig (List Asked)} (hn : Supplied m n x)
    (hx : Settles D.environment (ServerInstance.serve B) (Decided q r) x) :
    Settles D.environment (ServerInstance.serve B) (Concludes D t m n p) x := by
  refine (hx.keep stable_given hn).mono ?_
  rintro y ⟨hy, hgiven⟩
  exact Or.inr ⟨hp, hgiven, hy.imp (And.imp_left hq) (And.imp_left hr)⟩

/-- The command is refused, or there is no ID for its event. -/
def EnqueueFails (t : ServerState) (args : WaitArgs) (a : EnqueueAns) : Prop :=
  a.err ≠ CL_SUCCESS ∨ args.event = true ∧ assignID t.mObjects a.event = none

/-- The object is refused, or there is no ID for it. -/
def CreateFails (t : ServerState) (a : CreateAns) : Prop :=
  a.err ≠ CL_SUCCESS ∨ assignID t.mObjects a.object = none

theorem not_enqueueFails (hD : D.Accepts t) (log : List Asked) (q : Enqueue) :
    ¬ EnqueueFails t args (D log (.enqueue q)) := by
  rintro (herr | ⟨-, hid⟩)
  · exact herr (hD.enqueue log q).1
  · exact (hD.enqueue log q).2 hid

theorem not_createFails (hD : D.Accepts t) (log : List Asked) (q : CreateCall) :
    ¬ CreateFails t (D log (.create q)) := by
  rintro (herr | hid)
  · exact herr (hD.create log q).1
  · exact (hD.create log q).2 hid

/-- The driver is given the numbers with a command. -/
theorem settles_enqueues {q : Enqueue} (hp : ¬ p) (hlog : numbersOf log = [])
    (hq : q.command.numbers = n) {k : EnqueueAns → ServerM Unit}
    {c : Side ClientState Exn Empty NoAnswer Ret}
    (hx : ∀ a log, Settles D.environment (ServerInstance.serve B)
      (Decided (EnqueueFails t args a) (a.err = CL_SUCCESS))
        ⟨c, ⟨handling (k a), t, []⟩, u, [], log⟩) :
    Settles D.environment (ServerInstance.serve B) (Concludes D t 1 n p)
      ⟨c, ⟨handling (ServerInstance.enqueue q >>= k), t, []⟩, u, [], log⟩ := by
  have hnumbers : (ServerCall.enqueue q).numbers = some n := congrArg some hq
  refine (Driver.settles_ask stable_concludes context_handler).mpr ?_
  refine settles_concludes hp (fun hfails hD => not_enqueueFails hD _ _ hfails)
    (fun herr => ⟨log, Nat.le_add_left _ _, Or.inr ⟨q, herr⟩⟩) ?_ (hx _ _)
  rw [Supplied, numbersOf_concat, hlog, hnumbers]
  exact List.prefix_refl [n]

/-- The driver is given the numbers with a new object, perhaps once more. -/
theorem settles_creates {q : CreateCall} (hp : ¬ p) (hlog : numbersOf log = List.replicate m n)
    (hq : (ServerCall.create q).numbers = some n) {k : CreateAns → ServerM Unit}
    {c : Side ClientState Exn Empty NoAnswer Ret}
    (hx : ∀ a log, Settles D.environment (ServerInstance.serve B)
      (Decided (CreateFails t a) (a.err = CL_SUCCESS))
        ⟨c, ⟨handling (k a), t, []⟩, u, [], log⟩) :
    Settles D.environment (ServerInstance.serve B) (Concludes D t (m + 1) n p)
      ⟨c, ⟨handling (ServerInstance.create q >>= k), t, []⟩, u, [], log⟩ := by
  have hm : m + 1 ≤ (numbersOf log).length + 1 := by rw [hlog, List.length_replicate]
  refine (Driver.settles_ask stable_concludes context_handler).mpr ?_
  refine settles_concludes hp (fun hfails hD => not_createFails hD _ _ hfails)
    (fun herr => ⟨log, hm, Or.inl ⟨q, Option.isSome_iff_exists.mpr ⟨n, hq⟩, herr⟩⟩) ?_ (hx _ _)
  rw [Supplied, numbersOf_concat, hlog, hq, List.replicate_succ']
  exact List.prefix_refl _

/-! ## Replies -/

variable {a : EnqueueAns}

/-- The reply to a command that reads nothing. -/
theorem outcome_replyCommand :
    Settles D.environment (ServerInstance.serve B)
      (Decided (EnqueueFails t args a) (a.err = CL_SUCCESS))
      ⟨⟨catching badAlloc others (awaitEvent args >>= fun _ =>
          PacketStream.readPacket SuccessPacket >>= fun _ => pure (.code CL_SUCCESS)), s, []⟩,
        ⟨handling (ServerInstance.replyCommand args.event a), t, []⟩, u, [], log⟩ := by
  refine settles_answered stable_outcome (fun _ => ServerInstance.writeSuccess) [] (by decide)
    (reads_dec (⟨⟩ : SuccessPacket)) rfl (fun herr => ?_) (fun _ hevent hid _ _ => ?_)
    fun herr _ _ _ => Settles.final ?_
  · exact Or.inl ⟨Or.inl herr, fails_code herr⟩
  · exact Or.inl ⟨Or.inr ⟨hevent, hid⟩, fails_searching⟩
  · exact Or.inr ⟨herr, _, rfl, rfl⟩

/-- The reply to a command that reads.  The client may leave some of it unread. -/
theorem outcome_replyData {data w : Bytes} {rest : Bytes} {x : Bytes}
    (hread : Reads (decPayloadInto C.zlib .uint32) w x) (hdata : data = w ++ rest) :
    Settles D.environment (ServerInstance.serve B)
      (Decided (EnqueueFails t args a) (a.err = CL_SUCCESS))
      ⟨⟨catching badAlloc others (awaitEvent args >>= fun _ =>
          PacketStream.read .payload (decPayloadInto C.zlib .uint32) >>= fun data =>
            store true (.ptr data) >>= fun _ => pure (.code CL_SUCCESS)), s, []⟩,
        ⟨handling (if a.err ≠ CL_SUCCESS then ServerInstance.writeError a.err
          else ServerInstance.replyEvent args.event a.event >>= fun _ =>
            PacketStream.write .payload data), t, []⟩, u, [], log⟩ := by
  refine settles_answered stable_outcome (fun _ => PacketStream.write .payload data) rest
    (by decide) hread (congrArg _ hdata) (fun herr => ?_) (fun _ hevent hid _ _ => ?_)
    fun herr _ s' t' => ?_
  · exact Or.inl ⟨Or.inl herr, fails_code herr⟩
  · exact Or.inl ⟨Or.inr ⟨hevent, hid⟩, fails_searching⟩
  · refine (settles_client_modify stable_outcome (context_catching badAlloc others)).mpr ?_
    exact Settles.final (Or.inr ⟨herr, _, rfl, rfl⟩)

/-- The reply to a command that reads from a buffer. -/
theorem outcome_replyRead (hz : SameFormat B.zlib C.zlib) (size : ℕ) :
    Settles D.environment (ServerInstance.serve B)
      (Decided (EnqueueFails t args a) (a.err = CL_SUCCESS))
      ⟨⟨catching badAlloc others (awaitEvent args >>= fun _ =>
          PacketStream.read .payload (decPayloadInto C.zlib .uint32) >>= fun data =>
            store true (.ptr data) >>= fun _ => pure (.code CL_SUCCESS)), s, []⟩,
        ⟨handling (ServerInstance.replyRead B args.event size a), t, []⟩, u, [], log⟩ :=
  outcome_replyData (reads_payloadPtr_take hz .uint32 _ .payloadInto) (List.append_nil _).symm

/-- The reply to a command that reads from an image. -/
theorem outcome_replyPayload (hz : SameFormat B.zlib C.zlib) (data : Bytes) :
    Settles D.environment (ServerInstance.serve B)
      (Decided (EnqueueFails t args a) (a.err = CL_SUCCESS))
      ⟨⟨catching badAlloc others (awaitEvent args >>= fun _ =>
          PacketStream.read .payload (decPayloadInto C.zlib .uint32) >>= fun data =>
            store true (.ptr data) >>= fun _ => pure (.code CL_SUCCESS)), s, []⟩,
        ⟨handling (if a.err ≠ CL_SUCCESS then ServerInstance.writeError a.err
          else ServerInstance.replyEvent args.event a.event >>= fun _ =>
            ServerInstance.writePayload B .uint32 data), t, []⟩, u, [], log⟩ := by
  have hsize : compressionSizeThreshold ≤ SizeT.uint32.range := by decide
  obtain ⟨w, x, rest, hw, hread, -⟩ := exists_reads_encPayload hz hsize data
  exact outcome_replyData hread hw

/-- The reply to a write of an image. -/
theorem outcome_written :
    Settles D.environment (ServerInstance.serve B)
      (Decided (EnqueueFails t args a) (a.err = CL_SUCCESS))
      ⟨⟨catching badAlloc others (awaitWritten args), s, []⟩,
        ⟨handling (if a.err ≠ CL_SUCCESS then ServerInstance.writeError a.err
          else if args.event then ServerInstance.writeID a.event else ServerInstance.writeSuccess),
          t, []⟩, u, [], log⟩ := by
  refine settles_answeredWrite stable_outcome (fun herr => ?_) (fun _ hevent hid _ _ => ?_)
    fun herr _ _ => ?_
  · exact Or.inl ⟨Or.inl herr, fails_code herr⟩
  · exact Or.inl ⟨Or.inr ⟨hevent, hid⟩, fails_searching⟩
  · exact Or.inr ⟨herr, _, rfl, rfl⟩

/-- The reply to the creation of a memory object. -/
theorem outcome_replyCreated {b : CreateAns} {errcode_ret : Bool} :
    Settles D.environment (ServerInstance.serve B)
      (Decided (CreateFails t b) (b.err = CL_SUCCESS))
      ⟨⟨catchingError .memObject errcode_ret badAlloc (awaitMemObject errcode_ret), s, []⟩,
        ⟨handling (ServerInstance.replyCreated b), t, []⟩, u, [], log⟩ := by
  have hK := context_catchingError .memObject errcode_ret badAlloc
  refine (settles_stores stable_outcome hK).mpr ?_
  rw [ServerInstance.replyCreated]
  by_cases herr : b.err = CL_SUCCESS
  swap
  · rw [if_pos herr]
    refine (settles_replies stable_outcome).mpr ?_
    refine settles_client_wp (H := fun _ _ _ => False) stable_outcome Prog.Context.hole
      (fun _ _ _ h => h.elim) ?_
    rw [wp_catchingError, Prog.wp_bind]
    refine wp_readPacket_error.mpr (Settles.final (Or.inl ⟨Or.inl herr, Or.inl ⟨_, rfl, ?_⟩⟩))
    exact fun h => h rfl
  rw [if_neg (not_not.mpr herr), ← bind_pure (ServerInstance.writeID b.object)]
  refine (settles_writeID stable_outcome).mpr ?_
  cases hid : assignID t.mObjects b.object with
  | none =>
    obtain ⟨q, s', hq⟩ := waits_readPacket hK IDPacket (fun id =>
      getOrInsertObject .memObject id.mData >>= fun object =>
        pure (.handle .memObject (some object)))
      (s.stored errcode_ret (.errcode_ret CL_SUCCESS))
    rw [hq]
    exact Settles.final (Or.inl ⟨Or.inr hid, fails_searching⟩)
  | some x =>
    refine (settles_handles stable_outcome).mpr ?_
    refine settles_client_wp (H := fun _ _ _ => False) stable_outcome Prog.Context.hole
      (fun _ _ _ h => h.elim) ?_
    rw [wp_catchingError, Prog.wp_bind]
    refine (wp_readPacket_last (by decide) (reads_dec _)).mpr ?_
    rw [Prog.afterBind_ok, Prog.wp_bind, wp_getOrInsertObject, Prog.afterBind_ok]
    exact Settles.final (Or.inr ⟨herr, _, rfl, Option.some_ne_none _⟩)

/-! ## Memory objects -/

section Objects

variable {pixelSize : UInt64} {flags : UInt64} {errcode_ret : Bool}

/-- The request for a memory object has been sent. -/
theorem settles_requestsObject {K : ClientM Ret → ClientM Ret} (hK : Prog.Context K) {X : Type}
    [Packet X] [Wire X] [LawfulWire X] {x : X} {k : X → ServerM Unit} {q : ClientM Ret}
    {F : CallConfig (List Asked) → Prop} (hF : Stable D.environment (ServerInstance.serve B) F)
    (hk : ServerInstance.handler B (Packet.mType X) = some (PacketStream.readPacket X >>= k))
    (hX : Ordinary (Packet.mType X)) :
    Settles D.environment (ServerInstance.serve B) F
        (start B (K (PacketStream.writePacket x >>= fun _ => PacketStream.flush >>= fun _ => q)) s t
          log) ↔
      Settles D.environment (ServerInstance.serve B) F
        ⟨⟨K q, s, []⟩, ⟨handling (k x), t, []⟩, [], [], log⟩ := by
  refine (settles_sends hF hK).trans ((settles_dispatches hF hk rfl).trans ?_)
  rw [← List.append_nil (packet x)]
  exact settles_server_meets_packet hF context_handler hX

theorem concludes_clCreateBuffer (hp : ¬ p) (hz : SameFormat C.zlib B.zlib) (context : Handle)
    (huse : flags &&& CL_MEM_USE_HOST_PTR = 0) (size : UInt64) (host_ptr : Option Bytes) :
    Settles D.environment (ServerInstance.serve B) (Concludes D t 1
        ((SizedCall.clCreateBuffer (some context) flags size host_ptr errcode_ret).given
          pixelSize) p)
      (start B (clCreateBuffer C (some context) flags size host_ptr errcode_ret) s t []) := by
  have hK := context_catchingError .memObject errcode_ret CL_DEVICE_NOT_AVAILABLE
  rw [clCreateBuffer, if_neg (not_not.mpr huse)]
  cases host_ptr with
  | none =>
    refine (settles_requestsObject hK stable_concludes rfl (by decide)).mpr ?_
    refine (settles_server_get stable_concludes context_handler).mpr ?_
    exact settles_creates hp rfl rfl fun _ _ => outcome_replyCreated
  | some ptr =>
    refine (settles_client_writePacket stable_concludes hK).mpr ?_
    refine (settles_client_write stable_concludes hK).mpr ?_
    refine (settles_client_flushes stable_concludes hK).mpr ?_
    rw [List.nil_append, List.nil_append, ← List.append_nil (PacketStream.frame .payload _)]
    refine (settles_dispatches (h := ServerInstance.createBuffer B) stable_concludes rfl rfl).mpr ?_
    refine (settles_server_meets_packet stable_concludes context_handler (by decide)).mpr ?_
    refine (settles_server_get stable_concludes context_handler).mpr ?_
    refine (settles_server_meets stable_concludes context_handler
      (reads_payloadPtr_take hz .uint32 _ .payload) (by decide)).mpr ?_
    exact settles_creates hp rfl rfl fun _ _ => outcome_replyCreated

theorem concludes_clCreateSubBuffer (hp : ¬ p) (buffer : Handle) (buffer_create_type : UInt32)
    (origin size : UInt64) :
    Settles D.environment (ServerInstance.serve B) (Concludes D t 1
        ((SizedCall.clCreateSubBuffer (some buffer) flags buffer_create_type (some (origin, size))
          errcode_ret).given pixelSize) p)
      (start B (clCreateSubBuffer (some buffer) flags buffer_create_type (some (origin, size))
        errcode_ret) s t []) := by
  have hK := context_catchingError .memObject errcode_ret CL_DEVICE_NOT_AVAILABLE
  refine (settles_requestsObject hK stable_concludes rfl (by decide)).mpr ?_
  refine (settles_server_get stable_concludes context_handler).mpr ?_
  exact settles_creates hp rfl rfl fun _ _ => outcome_replyCreated

/-- The client meets an error in place of a packet. -/
theorem settles_reports_error {err : Int32} {X : Type} [Packet X] [Wire X] {k : X → ClientM Ret} :
    Settles D.environment (ServerInstance.serve B) ReportsError
      ⟨⟨catchingError .memObject errcode_ret badAlloc (PacketStream.readPacket X >>= k), s, []⟩,
        ⟨handling (ServerInstance.writeError err), t, []⟩, u, [], log⟩ := by
  refine (settles_replies stable_finishes).mpr ?_
  refine settles_client_wp (H := fun _ _ _ => False) stable_finishes Prog.Context.hole
    (fun _ _ _ h => h.elim) ?_
  rw [wp_catchingError, Prog.wp_bind]
  exact wp_readPacket_error.mpr (Settles.final (Or.inl ⟨_, rfl, fun h => h rfl⟩))

/-- The driver is given the numbers with a new object, before the request goes on. -/
theorem settles_createsFirst {q : CreateCall} (hlog : numbersOf log = [])
    (hq : (ServerCall.create q).numbers = some n) {k : CreateAns → ServerM Unit}
    {c : Side ClientState Exn Empty NoAnswer Ret}
    (hreports : ∀ err log, Settles D.environment (ServerInstance.serve B) ReportsError
      ⟨c, ⟨handling (ServerInstance.writeError err), t, []⟩, u, [], log⟩)
    (hx : ∀ a log, numbersOf log = [n] →
      Settles D.environment (ServerInstance.serve B) (Concludes D t m n p)
        ⟨c, ⟨handling (k a), t, []⟩, u, [], log⟩) :
    Settles D.environment (ServerInstance.serve B) (Concludes D t m n p)
      ⟨c, ⟨handling (ServerInstance.create q >>= fun a =>
        if a.err ≠ CL_SUCCESS then ServerInstance.writeError a.err else k a), t, []⟩,
        u, [], log⟩ := by
  refine (Driver.settles_ask stable_concludes context_handler).mpr ?_
  by_cases herr : (D log (.create q)).err = CL_SUCCESS
  · rw [if_neg (not_not.mpr herr)]
    refine hx _ _ ?_
    rw [numbersOf_concat, hlog, hq]
    rfl
  · rw [if_pos herr]
    exact settles_concludes_of_reports (Or.inr fun hD => herr (hD.create _ _).1) (hreports _ _)

/-- The driver is asked for something else, before the request goes on. -/
theorem settles_informs {q : InfoQuery} {size : ℕ} {k : InfoAns → ServerM Unit}
    {c : Side ClientState Exn Empty NoAnswer Ret}
    (hreports : ∀ err log, err ≠ CL_SUCCESS →
      Settles D.environment (ServerInstance.serve B) ReportsError
      ⟨c, ⟨handling (ServerInstance.writeError err), t, []⟩, u, [], log⟩)
    (hx : (D log (.info q size)).err = CL_SUCCESS →
      Settles D.environment (ServerInstance.serve B) (Concludes D t m n p)
        ⟨c, ⟨handling (k (D log (.info q size))), t, []⟩, u, [],
          log ++ [⟨.info q size, D log (.info q size)⟩]⟩) :
    Settles D.environment (ServerInstance.serve B) (Concludes D t m n p)
      ⟨c, ⟨handling (ServerInstance.info q size >>= fun a =>
        if a.err ≠ CL_SUCCESS then ServerInstance.writeError a.err else k a), t, []⟩,
        u, [], log⟩ := by
  refine (Driver.settles_ask stable_concludes context_handler).mpr ?_
  by_cases herr : (D log (.info q size)).err = CL_SUCCESS
  · rw [if_neg (not_not.mpr herr)]
    exact hx herr
  · rw [if_pos herr]
    exact settles_concludes_of_reports (Or.inr fun hD => herr (hD.info _ _ _)) (hreports _ _ herr)

/-- An image with data is created twice, with the same numbers. -/
theorem concludes_copyImage (hp : ¬ p) (hz : SameFormat C.zlib B.zlib) {x : CreateImage}
    (hx : x.mFlags.toUInt64 &&& CL_MEM_COPY_HOST_PTR ≠ 0)
    (hn : n = ⟨.clCreateImage, [x.mWidth.toNat, x.mHeight.toNat, x.mDepth.toNat, x.mArraySize.toNat,
      x.mRowPitch.toNat, x.mSlicePitch.toNat], []⟩) (ptr : Bytes) :
    Settles D.environment (ServerInstance.serve B) (Concludes D t 2 n p)
      (start B (catchingError .memObject errcode_ret CL_DEVICE_NOT_AVAILABLE
        (PacketStream.writePacket x >>= fun _ => PacketStream.flush >>= fun _ =>
          PacketStream.readPacket (SimplePacket .payload UInt32) >>= fun dataSize =>
            PacketStream.write .payload
              (encPayloadPtr C.zlib .uint32 (memRead ptr dataSize.mData.toNat)) >>= fun _ =>
            PacketStream.flush >>= fun _ => awaitMemObject errcode_ret)) s t []) := by
  have hK := context_catchingError .memObject errcode_ret CL_DEVICE_NOT_AVAILABLE
  refine (settles_requestsObject hK stable_concludes rfl (by decide)).mpr ?_
  refine (settles_server_get stable_concludes context_handler).mpr ?_
  simp only [if_pos hx]
  refine settles_createsFirst rfl (hn ▸ rfl) (fun _ _ => settles_reports_error)
    fun a log hgiven => ?_
  refine settles_informs (fun _ _ _ => settles_reports_error) fun _ => ?_
  refine (settles_server_writePacket stable_concludes context_handler).mpr ?_
  refine (settles_server_flushes stable_concludes context_handler).mpr ?_
  rw [List.nil_append, List.nil_append, ← List.append_nil (packet _)]
  refine (settles_client_meets_packet stable_concludes hK
    (show Ordinary .payload by decide)).mpr ?_
  refine (settles_client_write stable_concludes hK).mpr ?_
  refine (settles_client_flushes stable_concludes hK).mpr ?_
  rw [List.nil_append, List.nil_append, ← List.append_nil (PacketStream.frame _ _)]
  refine (settles_server_meets stable_concludes context_handler
    (reads_payloadPtr_take hz .uint32 _ .payload) (by decide)).mpr ?_
  refine (Driver.settles_ask stable_concludes context_handler).mpr ?_
  refine settles_creates (m := 1) hp ?_ ?_ fun _ _ => outcome_replyCreated
  · rw [numbersOf_concat, numbersOf_concat, hgiven]
    rfl
  · exact congrArg some hn.symm

theorem concludes_clCreateImage (hp : ¬ p) (hz : SameFormat C.zlib B.zlib) (context : Handle)
    {host_ptr : Option Bytes} (huse : ¬ (host_ptr.isSome ∧ (flags &&& CL_MEM_USE_HOST_PTR ≠ 0 ∨
      flags &&& CL_MEM_ALLOC_HOST_PTR ≠ 0)))
    (hnone : ¬ (flags &&& CL_MEM_COPY_HOST_PTR ≠ 0 ∧ host_ptr = none)) (desc : ImageDesc) :
    Settles D.environment (ServerInstance.serve B) (Concludes D t
        (SizedCall.clCreateImage (some context) flags true true desc host_ptr errcode_ret).times
        ((SizedCall.clCreateImage (some context) flags true true desc host_ptr errcode_ret).given
          pixelSize) p)
      (start B (clCreateImage C (some context) flags true true desc host_ptr errcode_ret)
        s t []) := by
  have hK := context_catchingError .memObject errcode_ret CL_DEVICE_NOT_AVAILABLE
  have hflag := copy_flag_toUInt32 flags
  simp only [clCreateImage, SizedCall.times, Bool.not_true, Bool.false_eq_true, if_false,
    if_neg huse, if_neg hnone]
  by_cases hcopy : flags &&& CL_MEM_COPY_HOST_PTR = 0
  · rw [if_neg (not_not.mpr hcopy), if_neg (not_not.mpr hcopy)]
    refine (settles_requestsObject hK stable_concludes rfl (by decide)).mpr ?_
    refine (settles_server_get stable_concludes context_handler).mpr ?_
    simp only [if_neg (not_not.mpr (hflag.trans hcopy))]
    exact settles_creates hp rfl rfl fun _ _ => outcome_replyCreated
  · rw [if_pos hcopy, if_pos hcopy]
    refine concludes_copyImage hp hz ?_ ?_ _
    · exact fun h => hcopy (hflag.symm.trans h)
    · rfl

end Objects

/-! ## Commands -/

section Commands

section Errors

variable {err : Int32} (herr : err ≠ CL_SUCCESS) {α : Type} {ty : PacketType} {r : Reader α}
variable {k : α → ClientM Ret}
include herr

theorem settles_reports_answer :
    Settles D.environment (ServerInstance.serve B) ReportsError
      ⟨⟨catching badAlloc others (PacketStream.read ty r >>= k), s, []⟩,
        ⟨handling (ServerInstance.writeError err), t, []⟩, u, [], log⟩ := by
  refine (settles_replies stable_finishes).mpr ((settles_error stable_finishes).mpr ?_)
  exact Settles.final (Or.inl ⟨_, rfl, herr⟩)

theorem settles_reports_event :
    Settles D.environment (ServerInstance.serve B) ReportsError
      ⟨⟨catching badAlloc others (awaitEvent args >>= fun _ => PacketStream.read ty r >>= k),
        s, []⟩, ⟨handling (ServerInstance.writeError err), t, []⟩, u, [], log⟩ := by
  refine (settles_replies stable_finishes).mpr ((settles_error_event stable_finishes).mpr ?_)
  exact Settles.final (Or.inl ⟨_, rfl, herr⟩)

end Errors

variable {pixelSize : UInt64} {queue object : Handle} {ids : List IDType}
variable (hids : args.eventIDs = .ok ids)
include hids

theorem withEvents_some {f : Handle → Handle → List IDType → ClientM Ret} :
    withEvents (some queue) (some object) args f =
      catching CL_OUT_OF_HOST_MEMORY CL_DEVICE_NOT_AVAILABLE (f queue object ids) := by
  rw [withEvents, hids]

omit hids in
/-- The size of a pattern fits into 8 bits. -/
theorem toUInt8_pattern_size {pattern_size : UInt64} (h : ¬ 128 < pattern_size) :
    pattern_size.toUInt8.toNat = cut pattern_size := by
  have hle : pattern_size.toNat ≤ 128 := UInt64.not_lt.mp h
  rw [UInt64.toNat_toUInt8, Nat.mod_eq_of_lt (by omega), (cut_eq_iff _).mpr (by omega)]

theorem concludes_clEnqueueFillBuffer (hp : ¬ p) {pattern : Bytes} {pattern_size : UInt64}
    (hpattern : ¬ 128 < pattern_size) (offset size : UInt64) :
    Settles D.environment (ServerInstance.serve B) (Concludes D t 1
        ((SizedCall.clEnqueueFillBuffer (some queue) (some object) pattern pattern_size offset size
          args).given pixelSize) p)
      (start B
        (clEnqueueFillBuffer (some queue) (some object) pattern pattern_size offset size args)
        s t []) := by
  have hK := context_catching CL_OUT_OF_HOST_MEMORY CL_DEVICE_NOT_AVAILABLE
  obtain ⟨events, rest, hevents⟩ := exists_settles_readEvents (E := D.environment) (B := B) t args
    ids
  rw [clEnqueueFillBuffer, withEvents_some hids, if_neg hpattern]
  refine (settles_commandSent stable_concludes hK rfl (by decide)).mpr ?_
  refine (hevents stable_concludes _ _ _).mpr ?_
  refine (settles_server_get stable_concludes context_handler).mpr ?_
  refine (settles_server_get stable_concludes context_handler).mpr ?_
  refine settles_enqueues hp rfl ?_ fun _ _ => outcome_replyCommand
  exact congrArg (fun n => Numbers.mk .clEnqueueFillBuffer [n, cut offset, cut size] [])
    ((length_memRead _ _).trans (toUInt8_pattern_size hpattern))

theorem concludes_clEnqueueReadBuffer (hp : ¬ p) (hz : SameFormat B.zlib C.zlib) (block : Bool)
    (offset size : UInt64) :
    Settles D.environment (ServerInstance.serve B) (Concludes D t 1
        ((SizedCall.clEnqueueReadBuffer (some queue) (some object) block offset size args).given
          pixelSize) p)
      (start B (clEnqueueReadBuffer C (some queue) (some object) block offset size args)
        s t []) := by
  have hK := context_catching CL_OUT_OF_HOST_MEMORY CL_DEVICE_NOT_AVAILABLE
  obtain ⟨events, rest, hevents⟩ := exists_settles_readEvents (E := D.environment) (B := B) t args
    ids
  rw [clEnqueueReadBuffer, withEvents_some hids]
  refine (settles_commandSent stable_concludes hK rfl (by decide)).mpr ?_
  refine (hevents stable_concludes _ _ _).mpr ?_
  refine (settles_server_get stable_concludes context_handler).mpr ?_
  refine (settles_server_get stable_concludes context_handler).mpr ?_
  refine settles_enqueues hp rfl ?_ fun _ _ => outcome_replyRead hz _
  rfl

theorem concludes_clEnqueueReadBufferRect (hz : SameFormat B.zlib C.zlib) (block : Bool)
    (rect : RectArgs) :
    Settles D.environment (ServerInstance.serve B) (Concludes D t 1
        ((SizedCall.clEnqueueReadBufferRect (some queue) (some object) block rect args).given
          pixelSize)
        (ServerInstance.vectorMaxSize <
          ServerInstance.rectSize (rect.packet queue object block args)))
      (start B (clEnqueueReadBufferRect C (some queue) (some object) block rect args) s t []) := by
  have hK := context_catching CL_OUT_OF_HOST_MEMORY CL_DEVICE_NOT_AVAILABLE
  obtain ⟨events, rest, hevents⟩ := exists_settles_readEvents (E := D.environment) (B := B) t args
    ids
  rw [clEnqueueReadBufferRect_eq queue object block rect hids]
  refine (settles_commandSent stable_concludes hK rfl (by decide)).mpr ?_
  refine (hevents stable_concludes _ _ _).mpr ?_
  refine settles_resize (fun hroom => ?_) fun hlarge => ?_
  · refine (settles_server_get stable_concludes context_handler).mpr ?_
    refine (settles_server_get stable_concludes context_handler).mpr ?_
    refine settles_enqueues (not_lt.mpr hroom) rfl ?_ fun _ _ => outcome_replyRead hz _
    rfl
  · exact Or.inl ⟨Or.inl hlarge, reports_thrown args _⟩

theorem concludes_clEnqueueWriteBuffer (hp : ¬ p) (hz : SameFormat C.zlib B.zlib)
    (hevents : args.num_events_in_wait_list ≤ 255) (block : Bool) (offset size : UInt64)
    (ptr : Bytes) :
    Settles D.environment (ServerInstance.serve B) (Concludes D t 1
        ((SizedCall.clEnqueueWriteBuffer (some queue) (some object) block offset size ptr
          args).given pixelSize) p)
      (start B (clEnqueueWriteBuffer C (some queue) (some object) block offset size ptr args)
        s t []) := by
  have hK := context_catching CL_OUT_OF_HOST_MEMORY CL_DEVICE_NOT_AVAILABLE
  have hread := reads_payloadPtr_take hz .uint32 (memRead ptr size.toNat) .payload
  rw [clEnqueueWriteBuffer, withEvents_some hids]
  refine (settles_writeCommand stable_concludes hK).mpr ?_
  refine (settles_client_write stable_concludes hK).mpr ?_
  refine (settles_client_flushes stable_concludes hK).mpr ?_
  rw [List.nil_append, List.nil_append, List.append_assoc,
    ← List.append_nil (PacketStream.frame .payload _)]
  refine (settles_dispatches (h := ServerInstance.writeBuffer B) stable_concludes rfl rfl).mpr ?_
  refine (settles_server_meets_packet stable_concludes context_handler (by decide)).mpr ?_
  refine (settles_readsEvents stable_concludes hids hevents).mpr ?_
  refine (settles_server_meets stable_concludes context_handler hread (by decide)).mpr ?_
  refine (settles_server_get stable_concludes context_handler).mpr ?_
  refine (settles_server_get stable_concludes context_handler).mpr ?_
  have hdata : (memRead ptr size.toNat).take ((memRead ptr size.toNat).length % 2 ^ 32) =
      (memRead ptr size.toNat).take (cut size) := by
    rw [length_memRead, cut_eq_mod]
  have hlen : ((memRead ptr size.toNat).take (cut size)).length = cut size := by
    rw [List.length_take, length_memRead, min_eq_left (cut_le size)]
  refine settles_enqueues hp rfl ?_ fun _ _ => outcome_replyCommand
  refine (congrArg (fun data => Numbers.mk .clEnqueueWriteBuffer [cut offset, data.length] data)
    hdata).trans ?_
  exact congrArg (fun n => Numbers.mk .clEnqueueWriteBuffer [cut offset, n] _) hlen

theorem concludes_clEnqueueNDRangeKernel (hp : ¬ p) {r : NDRange}
    (hdim : ¬ (r.work_dim = 0 ∨ 3 < r.work_dim)) (hzero : ¬ r.zeroGroup = true) :
    Settles D.environment (ServerInstance.serve B) (Concludes D t 1
        ((SizedCall.clEnqueueNDRangeKernel (some queue) (some object) r args).given pixelSize) p)
      (start B (clEnqueueNDRangeKernel (some queue) (some object) r args) s t []) := by
  have hK := context_catching CL_SUCCESS CL_SUCCESS
  obtain ⟨events, rest, hevents⟩ := exists_settles_readEvents (E := D.environment) (B := B) t args
    ids
  rw [clEnqueueNDRangeKernel, if_neg hdim, if_neg hzero, hids]
  refine (settles_commandSent stable_concludes hK rfl (by decide)).mpr ?_
  refine (hevents stable_concludes _ _ _).mpr ?_
  refine (settles_server_get stable_concludes context_handler).mpr ?_
  refine (settles_server_get stable_concludes context_handler).mpr ?_
  refine settles_enqueues hp rfl ?_ fun _ _ => outcome_replyCommand
  exact NDRange.numbers_command (not_lt.mp (not_or.mp hdim).2) _

theorem concludes_clEnqueueReadImage (hz : SameFormat B.zlib C.zlib)
    (hpixel : D.pixelSize (objectAt t.mObjects (GetID object)) = pixelSize) (block : Bool)
    (rect : ImageArgs) :
    Settles D.environment (ServerInstance.serve B) (Concludes D t 1
        ((SizedCall.clEnqueueReadImage (some queue) (some object) block rect args).given pixelSize)
        (ServerInstance.vectorMaxSize < rect.received pixelSize))
      (start B (clEnqueueReadImage C (some queue) (some object) block rect args) s t []) := by
  have hK := context_catching CL_OUT_OF_HOST_MEMORY CL_DEVICE_NOT_AVAILABLE
  obtain ⟨events, rest, hevents⟩ := exists_settles_readEvents (E := D.environment) (B := B) t args
    ids
  rw [clEnqueueReadImage, withEvents_some hids]
  refine (settles_commandSent stable_concludes hK rfl (by decide)).mpr ?_
  refine (settles_server_get stable_concludes context_handler).mpr ?_
  refine settles_informs (fun _ _ herr => settles_reports_event herr) fun _ => ?_
  refine (hevents stable_concludes _ _ _).mpr ?_
  refine (settles_server_get stable_concludes context_handler).mpr ?_
  refine settles_resize (fun hroom => ?_) fun hlarge => ?_
  · refine settles_enqueues (hpixel ▸ not_lt.mpr hroom) rfl ?_ fun _ _ => outcome_replyPayload hz _
    rfl
  · exact Or.inl ⟨Or.inl (hpixel ▸ hlarge), reports_thrown args _⟩

theorem concludes_clEnqueueWriteImage (hp : ¬ p) (hz : SameFormat C.zlib B.zlib)
    (hpixel : D.pixelSize (objectAt t.mObjects (GetID object)) = pixelSize)
    (hevents : args.num_events_in_wait_list ≤ 255)
    (block : Bool) (rect : ImageArgs) (ptr : Bytes) :
    Settles D.environment (ServerInstance.serve B) (Concludes D t 1
        ((SizedCall.clEnqueueWriteImage (some queue) (some object) block rect ptr args).given
          pixelSize) p)
      (start B (clEnqueueWriteImage C (some queue) (some object) block rect ptr args) s t []) := by
  have hK := context_catching CL_OUT_OF_HOST_MEMORY CL_DEVICE_NOT_AVAILABLE
  rw [clEnqueueWriteImage, withEvents_some hids]
  refine (settles_commandSent stable_concludes hK rfl (by decide)).mpr ?_
  refine (settles_server_get stable_concludes context_handler).mpr ?_
  refine settles_informs (fun _ _ herr => settles_reports_answer herr) fun _ => ?_
  rw [← List.append_nil (eventPacket _ _)]
  refine (settles_readsEvents stable_concludes hids hevents).mpr ?_
  refine (settles_server_get stable_concludes context_handler).mpr ?_
  refine (settles_server_writePacket stable_concludes context_handler).mpr ?_
  refine (settles_server_flushes stable_concludes context_handler).mpr ?_
  -- the client is told how much to send, and sends it
  rw [List.nil_append, List.nil_append, ← List.append_nil (packet _)]
  refine (settles_client_meets_packet stable_concludes hK (show Ordinary .payload by decide)).mpr ?_
  refine (settles_client_write stable_concludes hK).mpr ?_
  refine (settles_client_flushes stable_concludes hK).mpr ?_
  rw [List.nil_append, List.nil_append, ← List.append_nil (PacketStream.frame _ _)]
  refine (settles_server_meets stable_concludes context_handler
    (reads_payloadPtr_take hz .uint32 _ .payload) (by decide)).mpr ?_
  have hsent : (UInt32.ofNat (ServerInstance.imageSize pixelSize
      (imagePacket .writeImage queue object block rect args).mRegion)).toNat =
        rect.sent pixelSize := by
    rw [UInt32.toNat_ofNat', ServerInstance.imageSize, Nat.mod_mod_of_dvd _ (by decide)]
    rfl
  have hdata : (memRead ptr (rect.sent pixelSize)).take
      ((memRead ptr (rect.sent pixelSize)).length % 2 ^ 32) =
        memRead ptr (rect.sent pixelSize) := by
    rw [length_memRead, ImageArgs.sent, Nat.mod_mod, ← ImageArgs.sent]
    exact List.take_of_length_le (length_memRead _ _).le
  rw [← hsent, ← hpixel] at hdata
  refine settles_enqueues hp rfl ?_ fun _ _ => outcome_written
  refine congrArg (Numbers.mk .clEnqueueWriteImage (rect.values.map cut)) (hdata.trans ?_)
  rw [hpixel, hsent]

end Commands

end Answers

/-! ## All calls -/

variable {D : Driver} {B : ServerBuild} {C : Build} {s : ClientState} {t : ServerState}
variable {pixelSize : UInt64} {call : SizedCall}

section Refusals

variable {queue object : Option Handle} {args : WaitArgs}

theorem err_ne_success {err : Int32} (h : args.eventIDs = .error err) : err ≠ CL_SUCCESS := by
  unfold WaitArgs.eventIDs at h
  split at h
  · cases h
  split at h
  · cases h
    decide
  split at h
  · cases h
    decide
  · cases h

theorem refused_code {err : Int32} (herr : err ≠ CL_SUCCESS) : Refused (pure (.code err)) s :=
  ⟨rfl, Or.inr ⟨err, herr, rfl⟩⟩

theorem refused_returnError {errcode_ret : Bool} {code : Int32} :
    Refused (returnError .memObject errcode_ret code) s :=
  wp_returnError.mpr ⟨rfl, Or.inl ⟨_, rfl⟩⟩

theorem refused_withEvents_of {f : Handle → Handle → List IDType → ClientM Ret}
    (h : queue = none ∨ object = none ∨ ∃ err, args.eventIDs = .error err) :
    Refused (withEvents queue object args f) s := by
  cases queue with
  | none => exact refused_code (by decide)
  | some q =>
    cases object with
    | none => exact refused_code (by decide)
    | some m =>
      obtain h | h | ⟨err, herr⟩ := h
      · cases h
      · cases h
      · rw [withEvents, herr]
        exact refused_code (err_ne_success herr)

/-- What the client needs for a command. -/
theorem exists_command (h : ¬ (queue = none ∨ object = none ∨ ∃ err, args.eventIDs = .error err)) :
    ∃ q m ids, queue = some q ∧ object = some m ∧ args.eventIDs = .ok ids := by
  rw [not_or, not_or] at h
  obtain ⟨q, hq⟩ := Option.ne_none_iff_exists'.mp h.1
  obtain ⟨m, hm⟩ := Option.ne_none_iff_exists'.mp h.2.1
  cases hids : args.eventIDs with
  | ok ids => exact ⟨q, m, ids, hq, hm, rfl⟩
  | error err => exact absurd ⟨err, hids⟩ h.2.2

end Refusals

/-- What the client does not accept it refuses. -/
theorem refused_of_invalid (h : call.Invalid) : Refused (call.program C) s := by
  cases call with
  | clCreateBuffer context flags size host_ptr errcode_ret =>
    cases context with
    | none => exact refused_returnError
    | some c =>
      rw [SizedCall.program, clCreateBuffer, if_pos (h.resolve_left (Option.some_ne_none c))]
      exact refused_returnError
  | clCreateSubBuffer buffer flags type info errcode_ret =>
    cases buffer with
    | none => exact refused_returnError
    | some b =>
      cases info with
      | none => exact refused_returnError
      | some info => exact absurd h (by simp [SizedCall.Invalid])
  | clCreateImage context flags image_format image_desc desc host_ptr errcode_ret =>
    cases context with
    | none => exact refused_returnError
    | some c =>
      rw [SizedCall.program, clCreateImage]
      have hrest := h.resolve_left (Option.some_ne_none c)
      split
      · exact refused_returnError
      split
      · exact refused_returnError
      split
      · exact refused_returnError
      split
      · exact refused_returnError
      · simp_all
  | clEnqueueFillBuffer queue buffer pattern pattern_size offset size args =>
    by_cases hearly : queue = none ∨ buffer = none ∨ ∃ err, args.eventIDs = .error err
    · exact refused_withEvents_of hearly
    obtain ⟨q, m, ids, rfl, rfl, hids⟩ := exists_command hearly
    have hpattern : 128 < pattern_size := by
      simpa [SizedCall.Invalid, hids] using h
    rw [SizedCall.program, clEnqueueFillBuffer, withEvents_some hids, if_pos hpattern]
    exact ⟨rfl, Or.inr ⟨_, by decide, rfl⟩⟩
  | clEnqueueNDRangeKernel queue kernel r args =>
    cases queue with
    | none => exact refused_code (by decide)
    | some q =>
      cases kernel with
      | none => exact refused_code (by decide)
      | some k =>
        rw [SizedCall.program, clEnqueueNDRangeKernel]
        split
        · exact refused_code (by decide)
        split
        · exact refused_code (by decide)
        obtain h | h | h | h | ⟨err, herr⟩ := h
        · cases h
        · cases h
        · contradiction
        · contradiction
        · rw [herr]
          exact refused_code (err_ne_success herr)
  | clEnqueueReadBuffer | clEnqueueReadBufferRect | clEnqueueWriteBuffer | clEnqueueReadImage
  | clEnqueueWriteImage => exact refused_withEvents_of h

/-- **A call that the client accepts.** -/
theorem concludes_call (hz : SameFormat C.zlib B.zlib) (hz' : SameFormat B.zlib C.zlib)
    (hlisted : call.Listed) (hvalid : ¬ call.Invalid) (hpixel : D.TellsPixelSize t pixelSize call) :
    Settles D.environment (ServerInstance.serve B)
      (Concludes D t call.times (call.given pixelSize) (call.Overlarge pixelSize))
      (start B (call.program C) s t []) := by
  cases call with
  | clCreateBuffer context flags size host_ptr errcode_ret =>
    rw [SizedCall.Invalid, not_or, not_not] at hvalid
    obtain ⟨c, rfl⟩ := Option.ne_none_iff_exists'.mp hvalid.1
    exact concludes_clCreateBuffer not_false hz c hvalid.2 size host_ptr
  | clCreateSubBuffer buffer flags type info errcode_ret =>
    rw [SizedCall.Invalid, not_or] at hvalid
    obtain ⟨b, rfl⟩ := Option.ne_none_iff_exists'.mp hvalid.1
    obtain ⟨⟨origin, size⟩, rfl⟩ := Option.ne_none_iff_exists'.mp hvalid.2
    exact concludes_clCreateSubBuffer not_false b type origin size
  | clCreateImage context flags image_format image_desc desc host_ptr errcode_ret =>
    simp only [SizedCall.Invalid, not_or, Bool.not_eq_false] at hvalid
    obtain ⟨hcontext, rfl, rfl, huse, hnone⟩ := hvalid
    obtain ⟨c, rfl⟩ := Option.ne_none_iff_exists'.mp hcontext
    exact concludes_clCreateImage not_false hz c huse hnone desc
  | clEnqueueReadBuffer queue buffer block offset size args =>
    obtain ⟨q, m, ids, rfl, rfl, hids⟩ := exists_command hvalid
    exact concludes_clEnqueueReadBuffer hids not_false hz' block offset size
  | clEnqueueReadBufferRect queue buffer block rect args =>
    obtain ⟨q, m, ids, rfl, rfl, hids⟩ := exists_command hvalid
    exact concludes_clEnqueueReadBufferRect hids hz' block rect
  | clEnqueueWriteBuffer queue buffer block offset size ptr args =>
    obtain ⟨q, m, ids, rfl, rfl, hids⟩ := exists_command hvalid
    exact concludes_clEnqueueWriteBuffer hids not_false hz hlisted block offset size ptr
  | clEnqueueFillBuffer queue buffer pattern pattern_size offset size args =>
    rw [SizedCall.Invalid, ← or_assoc, ← or_assoc, not_or, or_assoc] at hvalid
    obtain ⟨q, m, ids, rfl, rfl, hids⟩ := exists_command hvalid.1
    exact concludes_clEnqueueFillBuffer hids not_false hvalid.2 offset size
  | clEnqueueReadImage queue image block rect args =>
    obtain ⟨q, m, ids, rfl, rfl, hids⟩ := exists_command hvalid
    exact concludes_clEnqueueReadImage hids hz' hpixel block rect
  | clEnqueueWriteImage queue image block rect ptr args =>
    obtain ⟨q, m, ids, rfl, rfl, hids⟩ := exists_command hvalid
    exact concludes_clEnqueueWriteImage hids not_false hz hpixel hlisted block rect ptr
  | clEnqueueNDRangeKernel queue kernel r args =>
    obtain ⟨hqueue, hrest⟩ := not_or.mp hvalid
    obtain ⟨hkernel, hrest⟩ := not_or.mp hrest
    obtain ⟨hdim, hrest⟩ := not_or.mp hrest
    obtain ⟨hzero, hargs⟩ := not_or.mp hrest
    obtain ⟨q, k, ids, rfl, rfl, hids⟩ :=
      exists_command (not_or.mpr ⟨hqueue, not_or.mpr ⟨hkernel, hargs⟩⟩)
    exact concludes_clEnqueueNDRangeKernel hids not_false hdim hzero

/-! ## Numbers -/

/-- Whatever the driver does, it is given the numbers of the call, or the call reports an error.
The call does not succeed before the driver has been given them. -/
def KeepsNumbers (B : ServerBuild) (C : Build) (pixelSize : UInt64) (s : ClientState)
    (t : ServerState) (call : SizedCall) : Prop :=
  ∀ D : Driver, D.TellsPixelSize t pixelSize call →
    Settles D.environment (ServerInstance.serve B)
      (fun y => ReportsError y ∨ ∃ n, Supplied call.times n y ∧ call.Exact pixelSize n)
      (start B (call.program C) s t []) ∧
    ∀ y, Relation.ReflTransGen (Step D.environment (ServerInstance.serve B))
        (start B (call.program C) s t []) y →
      Succeeds y → ∃ n, Supplied call.times n y ∧ call.Exact pixelSize n

/-- A call that has succeeded does not fail. -/
theorem not_fails_of_succeeds {x y : CallConfig (List Asked)} (hx : Succeeds x)
    (hxy : Relation.ReflTransGen (Step D.environment (ServerInstance.serve B)) x y) :
    ¬ Fails y := by
  obtain ⟨r, hr, hsucceeded⟩ := hx.run hxy
  rintro (⟨r', hr', hfailed⟩ | ⟨n, q, s, p, t, u, e, -, -, rfl⟩)
  · rw [hr, Prog.ret.injEq] at hr'
    exact hfailed (hr' ▸ hsucceeded)
  · cases hr

/-- A call that succeeds has had the driver accept its numbers. -/
theorem grants_of_succeeds {p : Prop} {m : ℕ} {n : Numbers} {x y : CallConfig (List Asked)}
    (hx : Settles D.environment (ServerInstance.serve B) (Concludes D t m n p) x)
    (hxy : Relation.ReflTransGen (Step D.environment (ServerInstance.serve B)) x y)
    (hy : Succeeds y) : ¬ p ∧ D.Grants m ∧ ∃ z, y.env <+: z.env ∧ Supplied m n z := by
  obtain ⟨z, hyz, hz⟩ := (hx.run stable_concludes hxy).exists_final D.answers
  have hnever := not_fails_of_succeeds hy hyz
  rcases hz with ⟨-, hreports⟩ | ⟨hp, hgiven, ⟨-, hfails⟩ | ⟨hgrants, -⟩⟩
  · exact absurd hreports.comes hnever
  · exact absurd hfails hnever
  · exact ⟨hp, hgrants, z, Driver.prefix_of_run hyz, hgiven⟩

variable (hz : SameFormat C.zlib B.zlib) (hz' : SameFormat B.zlib C.zlib) (hlisted : call.Listed)
include hz hz' hlisted

/-- With a driver that accepts everything, a call succeeds with the numbers that are left. -/
theorem KeepsNumbers.fits (hvalid : ¬ call.Invalid) (hlarge : ¬ call.Overlarge pixelSize)
    (h : KeepsNumbers B C pixelSize s t call) : call.Fits pixelSize := by
  obtain ⟨object, id, objects, hassign⟩ := exists_assignID t.mObjects
  have haccepts : (Driver.accepting pixelSize object).Accepts t :=
    Driver.accepts_accepting pixelSize (by rw [hassign]; exact Option.some_ne_none _)
  have hpixel : (Driver.accepting pixelSize object).TellsPixelSize t pixelSize call :=
    Driver.tellsPixelSize_of_forall (Driver.pixelSize_accepting pixelSize object) call
  obtain ⟨y, hxy, hy⟩ := (concludes_call (s := s) hz hz' hlisted hvalid hpixel).exists_final
    (Driver.answers _)
  rcases hy with ⟨hreports, -⟩ | ⟨-, hgiven, ⟨hrefuses, -⟩ | ⟨-, hsucceeds⟩⟩
  · exact absurd haccepts (hreports.resolve_left hlarge)
  · exact absurd haccepts hrefuses
  · obtain ⟨n, hn, hexact⟩ := (h _ hpixel).2 y hxy hsucceeds
    obtain ⟨m, hm⟩ := call.exists_times
    rw [hm] at hgiven hn
    exact (SizedCall.exact_given_iff hvalid).mp (hgiven.eq hn ▸ hexact)

/-- Numbers that fit arrive, before the call succeeds. -/
theorem SizedCall.Fits.keepsNumbers (hvalid : ¬ call.Invalid) (h : call.Fits pixelSize) :
    KeepsNumbers B C pixelSize s t call := by
  intro D hpixel
  have hexact := (SizedCall.exact_given_iff hvalid).mpr h
  have hconcludes := concludes_call (s := s) hz hz' hlisted hvalid hpixel
  refine ⟨hconcludes.mono fun y hy => ?_, fun y hxy hy => ⟨_, ?_, hexact⟩⟩
  · exact hy.imp And.right fun hy => ⟨_, hy.2.1, hexact⟩
  · obtain ⟨-, -, z, hyz, hgiven⟩ := grants_of_succeeds hconcludes hxy hy
    refine hgiven.of_le hyz ?_
    -- otherwise the same would happen if the driver refused the numbers
    by_contra hfew
    have hrun := Driver.run_refusingFrom hxy (not_le.mp hfew)
    have hpixel' := hpixel.congr (Driver.pixelSize_refusingFrom (m := call.times))
    have hgrants := grants_of_succeeds (concludes_call hz hz' hlisted hvalid hpixel') hrun hy
    exact Driver.not_grants_refusingFrom hgrants.2.1

omit hlisted in
/-- **When numbers are not changed**: when they fit.  Otherwise the call has to be refused by the
client, or too large for the server. -/
theorem keepsNumbers_iff (hlisted : ¬ call.Invalid → call.Listed) :
    KeepsNumbers B C pixelSize s t call ↔
      call.Invalid ∨ call.Overlarge pixelSize ∨ call.Fits pixelSize := by
  by_cases hvalid : call.Invalid
  · refine iff_of_true (fun D _ => ?_) (Or.inl hvalid)
    have hreports := settles_reports_of_refused (E := D.environment) (B := B) (t := t) (e := [])
      (refused_of_invalid (C := C) (s := s) hvalid)
    refine ⟨hreports.mono fun _ => Or.inl, fun y hxy hy => ?_⟩
    obtain ⟨z, hyz, hz⟩ := (hreports.run stable_finishes hxy).exists_final D.answers
    exact absurd hz.comes (not_fails_of_succeeds hy hyz)
  by_cases hlarge : call.Overlarge pixelSize
  · refine iff_of_true (fun D hpixel => ?_) (Or.inr (Or.inl hlarge))
    have hconcludes := concludes_call (s := s) hz hz' (hlisted hvalid) hvalid hpixel
    refine ⟨hconcludes.mono fun y hy => hy.imp And.right fun hy => absurd hlarge hy.1, ?_⟩
    intro y hxy hy
    exact absurd hlarge (grants_of_succeeds hconcludes hxy hy).1
  rw [or_iff_right hvalid, or_iff_right hlarge]
  exact ⟨fun h => h.fits hz hz' (hlisted hvalid) hvalid hlarge,
    fun h => h.keepsNumbers hz hz' (hlisted hvalid) hvalid⟩

omit hz hz' hlisted in
/-- An index space of two dimensions, with offsets and work groups. -/
theorem keepsNumbers_kernel :
    KeepsNumbers ⟨plainBuild, 210⟩ plainBuild 4 ⟨[], 0, [], false, []⟩ ⟨[66, 67], none⟩
      (.clEnqueueNDRangeKernel (some ⟨0, 0, .queue⟩) (some ⟨1, 1, .kernel⟩)
        ⟨2, some [1, 2], [4, 6], some [2, 3]⟩ ⟨0, none, true⟩) := by
  have hsmall : ([2, 1, 2, 4, 6, 2, 3] : List UInt64).all (fun v => v.toNat < 2 ^ 32) = true := by
    decide
  refine (keepsNumbers_iff .plain .plain fun _ => by exact trivial).mpr (Or.inr (Or.inr ⟨?_, ?_⟩))
  · exact fun v hv => of_decide_eq_true (List.all_eq_true.mp hsmall v hv)
  · exact ⟨[2, 3], rfl, by decide⟩

omit hz hz' hlisted in
/-- A buffer of four gigabytes and 16 bytes is one of 16 bytes, too. -/
theorem size_cut_off :
    ¬ KeepsNumbers ⟨plainBuild, 210⟩ plainBuild 4 ⟨[], 0, [], false, []⟩ ⟨[66], none⟩
      (.clCreateBuffer (some ⟨0, 0, .context⟩) 0 4294967312 none true) := by
  intro h
  have hvalid :
      ¬ (SizedCall.clCreateBuffer (some ⟨0, 0, .context⟩) 0 4294967312 none true).Invalid :=
    not_or.mpr ⟨Option.some_ne_none _, not_not.mpr rfl⟩
  have hfits := (h.fits .plain .plain (by exact trivial) hvalid not_false).1
  exact absurd (List.forall_mem_singleton.mp hfits) (by decide)

end RemoteCL

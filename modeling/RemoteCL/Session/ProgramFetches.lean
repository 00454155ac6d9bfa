import RemoteCL.Session.ProgramBinaries

/-!
# Fetching binaries

The server asks the driver for the number of the binaries, for their sizes and then for the
binaries. It replies with the number, in eight bits, and with one payload for each binary, whose
size has sixteen bits.  The error of the third question is not looked at.  So the application gets
what the driver has exactly if there are at most 255 binaries, each of them below 64 kilobytes, and
the third question is answered as it should be; or it gets an error for one of the first two.
-/

namespace RemoteCL

open ByteStream Conversation Wire LawfulWire Client

/-! ## Sizes -/

/-- A word that the driver has stored. -/
theorem wordAt_storeInto_enc (w : UInt64) : wordAt (storeInto (zeros 8) (enc w)) = w := by
  have henc : (enc w).length = 8 := length_leBytes 8 _
  rw [storeInto_zeros henc, ← List.append_nil (enc w), wordAt_enc]

/-- An array of `std::size_t`. -/
def wordBytes (ws : List UInt64) : Bytes := ws.flatMap fun w => enc w

theorem length_wordBytes (ws : List UInt64) : (wordBytes ws).length = 8 * ws.length := by
  induction ws with
  | nil => rfl
  | cons w ws ih =>
    have hlen : (enc w).length = 8 := length_leBytes 8 _
    rw [wordBytes, List.flatMap_cons, List.length_append, hlen, List.length_cons]
    rw [wordBytes] at ih
    omega

theorem words_wordBytes (ws : List UInt64) : words ws.length (wordBytes ws) = ws := by
  induction ws with
  | nil => rfl
  | cons w ws ih =>
    have hlen : (enc w).length = 8 := length_leBytes 8 _
    rw [wordBytes, List.flatMap_cons, List.length_cons, words, wordAt_enc, List.drop_left' hlen]
    exact congrArg (w :: ·) ih

/-- The sizes of some binaries. -/
def sizesOf (binaries : List Bytes) : List UInt64 :=
  binaries.map fun binary => UInt64.ofNat binary.length

/-- The sizes that the server reads out of the answer. -/
theorem words_sizesOf {binaries : List Bytes} (h : ∀ b ∈ binaries, b.length < 2 ^ 64) :
    (words binaries.length (storeInto (zeros (8 * binaries.length))
      (wordBytes (sizesOf binaries)))).map UInt64.toNat = binaries.map List.length := by
  have hlen : (sizesOf binaries).length = binaries.length := List.length_map _
  have hwords := words_wordBytes (sizesOf binaries)
  rw [hlen] at hwords
  rw [storeInto_zeros (by rw [length_wordBytes, hlen]), hwords, sizesOf, List.map_map]
  exact List.map_congr_left fun b hb => UInt64.toNat_ofNat_of_lt' (h b hb)

/-- The buffers get the binaries. -/
theorem fillBinaries_lengths (binaries : List Bytes) :
    ServerInstance.fillBinaries (binaries.map List.length) binaries = binaries := by
  induction binaries with
  | nil => rfl
  | cons b binaries ih =>
    rw [List.map_cons, ServerInstance.fillBinaries, List.headD_cons, List.tail_cons,
      storeInto_zeros rfl, ih]

theorem map_length_fillBinaries (sizes : List ℕ) (binaries : List Bytes) :
    (ServerInstance.fillBinaries sizes binaries).map List.length = sizes := by
  induction sizes generalizing binaries with
  | nil => rfl
  | cons n sizes ih =>
    rw [ServerInstance.fillBinaries, List.map_cons, ih, length_storeInto, length_zeros]

/-! ## The questions -/

/-- A driver that has these binaries for a program.  It may refuse each question. -/
structure HasBinaries (D : Driver) (program : Ptr) (binaries : List Bytes) : Prop where
  small : ∀ b ∈ binaries, b.length < 2 ^ 64
  count : ∀ log n, (D log (.info (.clGetProgramInfo program CL_PROGRAM_BINARIES) n)).err =
    CL_SUCCESS → (D log (.info (.clGetProgramInfo program CL_PROGRAM_BINARIES) n)).size =
      some (8 * binaries.length)
  sizes : ∀ log n, (D log (.info (.clGetProgramInfo program CL_PROGRAM_BINARY_SIZES) n)).err =
    CL_SUCCESS → (D log (.info (.clGetProgramInfo program CL_PROGRAM_BINARY_SIZES) n)).data =
      wordBytes (sizesOf binaries)
  stored : ∀ log sizes, (D log (.programBinaries program sizes)).err = CL_SUCCESS →
    (D log (.programBinaries program sizes)).binaries = binaries

section Questions

variable (D : Driver) (program : Ptr) (binaries : List Bytes)

/-- The answer to the question for the number of binaries. -/
def countAnswer : InfoAns := D [] (.info (.clGetProgramInfo program CL_PROGRAM_BINARIES) 0)

def countLog : List Asked :=
  [⟨.info (.clGetProgramInfo program CL_PROGRAM_BINARIES) 0, countAnswer D program⟩]

/-- The answer to the question for their sizes. -/
def sizesAnswer : InfoAns :=
  D (countLog D program)
    (.info (.clGetProgramInfo program CL_PROGRAM_BINARY_SIZES) (8 * binaries.length))

def sizesLog : List Asked :=
  countLog D program ++ [⟨.info (.clGetProgramInfo program CL_PROGRAM_BINARY_SIZES)
    (8 * binaries.length), sizesAnswer D program binaries⟩]

/-- The answer to the question for the binaries. -/
def binariesAnswer : BinariesAns :=
  D (sizesLog D program binaries) (.programBinaries program (binaries.map List.length))

def binariesLog : List Asked :=
  sizesLog D program binaries ++
    [⟨.programBinaries program (binaries.map List.length), binariesAnswer D program binaries⟩]

/-- What the server sends: what is in its buffers after the third question, whatever the driver says
to it. -/
def sentBinaries : List Bytes :=
  ServerInstance.fillBinaries (binaries.map List.length)
    (binariesAnswer D program binaries).binaries

theorem map_length_sentBinaries :
    (sentBinaries D program binaries).map List.length = binaries.map List.length :=
  map_length_fillBinaries _ _

@[simp] theorem length_sentBinaries :
    (sentBinaries D program binaries).length = binaries.length := by
  have h := congrArg List.length (map_length_sentBinaries D program binaries)
  rwa [List.length_map, List.length_map] at h

end Questions

/-! ## The call -/

section Fetch

variable {D : Driver} {B : ServerBuild} {C : Build} {s : ClientState} {t : ServerState}
variable {args : InfoArgs} {binaries : List Bytes}

/-- What the client does with the reply. -/
def awaitBinaries (C : Build) (args : InfoArgs) : ClientM Ret :=
  PacketStream.readPacket (SimplePacket .payload UInt8) >>= fun binaryCount =>
    readBinaries C binaryCount.mData.toNat >>= fun binaries =>
      store args.param_value_size_ret (.param_value_size_ret (binaryCount.mData.toNat * 8)) >>=
        fun _ => store args.param_value (.binaries binaries) >>= fun _ => pure (.code CL_SUCCESS)

/-- The query. -/
def fetchBinaries (C : Build) (program : Handle) (args : InfoArgs) : ClientM Ret :=
  clGetProgramInfo C (some program) CL_PROGRAM_BINARIES args

theorem fetchBinaries_eq (program : Handle) :
    fetchBinaries C program args =
      catching CL_OUT_OF_HOST_MEMORY CL_DEVICE_NOT_AVAILABLE
        (PacketStream.writePacket (⟨GetID program, CL_PROGRAM_BINARIES⟩ : ProgramInfo) >>= fun _ =>
          PacketStream.flush >>= fun _ => awaitBinaries C args) := by
  have hcontext : ¬ CL_PROGRAM_BINARIES = CL_PROGRAM_CONTEXT := by decide
  have hdevices : ¬ CL_PROGRAM_BINARIES = CL_PROGRAM_DEVICES := by decide
  simp only [fetchBinaries, clGetProgramInfo, if_neg hcontext, if_neg hdevices, if_pos,
    awaitBinaries]

/-- There is room for the binaries. -/
theorem resizeAll_eq (h : ∀ b ∈ binaries, b.length ≤ ServerInstance.vectorMaxSize) :
    ServerInstance.resizeAll (binaries.map List.length) = pure () := by
  induction binaries with
  | nil => rfl
  | cons b binaries ih =>
    have hb : 1 * b.length ≤ ServerInstance.vectorMaxSize :=
      (one_mul b.length).trans_le (h b List.mem_cons_self)
    rw [List.map_cons, ServerInstance.resizeAll, ServerInstance.resize, if_pos hb,
      ih fun b' hb' => h b' (List.mem_cons_of_mem _ hb')]
    rfl

/-- There is none for one of them. -/
theorem resizeAll_throw (h : ¬ ∀ b ∈ binaries, b.length ≤ ServerInstance.vectorMaxSize) :
    ServerInstance.resizeAll (binaries.map List.length) = Prog.throw .other := by
  induction binaries with
  | nil => exact absurd (fun _ hb => absurd hb List.not_mem_nil) h
  | cons b binaries ih =>
    rw [List.map_cons, ServerInstance.resizeAll, ServerInstance.resize, one_mul]
    by_cases hb : b.length ≤ ServerInstance.vectorMaxSize
    · rw [if_pos hb, ih fun hall => h (List.forall_mem_cons.mpr ⟨hb, hall⟩)]
      rfl
    · rw [if_neg hb]
      rfl

/-- The handler when the sizes have been asked for. -/
def afterSizes (B : ServerBuild) (program : Ptr) (count : ℕ) (a : InfoAns) : ServerM Unit :=
  if a.err ≠ CL_SUCCESS then ServerInstance.writeError a.err
  else
    let sizes := (words count (storeInto (zeros (8 * count)) a.data)).map UInt64.toNat
    ServerInstance.resizeAll sizes >>= fun _ =>
      Prog.ask (ServerCall.programBinaries program sizes) >>= fun b =>
        ServerInstance.writeValue (UInt8.ofNat sizes.length) >>= fun _ =>
          ServerInstance.writeBinaries B (ServerInstance.fillBinaries sizes b.binaries)

/-- The handler when the number has been asked for. -/
def afterCount (B : ServerBuild) (program : Ptr) (first : InfoAns) : ServerM Unit :=
  if first.err ≠ CL_SUCCESS then ServerInstance.writeError first.err
  else
    let count := first.size.getD 0 / 8
    ServerInstance.resize 8 count >>= fun _ =>
      ServerInstance.info (.clGetProgramInfo program CL_PROGRAM_BINARY_SIZES) (8 * count) >>=
        afterSizes B program count

/-- The client waits for the reply to the query, and the server does something. -/
def fetching (C : Build) (args : InfoArgs) (s : ClientState) (t : ServerState) (p : ServerM Unit)
    (log : List Asked) : CallConfig (List Asked) :=
  ⟨⟨catching CL_OUT_OF_HOST_MEMORY CL_DEVICE_NOT_AVAILABLE (awaitBinaries C args), s, []⟩,
    ⟨ServerInstance.iteration (p >>= fun _ => pure true), t, []⟩, [], [], log⟩

/-- The client has got a reply. -/
def fetched (B : ServerBuild) (C : Build) (args : InfoArgs) (s : ClientState) (t : ServerState)
    (reply : Bytes) (log : List Asked) : CallConfig (List Asked) :=
  ⟨⟨catching CL_OUT_OF_HOST_MEMORY CL_DEVICE_NOT_AVAILABLE (awaitBinaries C args), s, []⟩,
    ⟨ServerInstance.serve B, t, []⟩, [], reply, log⟩

section Steps

variable {F : CallConfig (List Asked) → Prop} {program : Ptr}
variable (hF : Stable D.environment (ServerInstance.serve B) F)
include hF

theorem settles_fetch (program : Handle) :
    Settles D.environment (ServerInstance.serve B) F
        (start B (fetchBinaries C program args) s t []) ↔
      Settles D.environment (ServerInstance.serve B) F
        (fetching C args s t (afterCount B (objectAt t.mObjects (GetID program))
          (countAnswer D (objectAt t.mObjects (GetID program))))
          (countLog D (objectAt t.mObjects (GetID program)))) := by
  have hK := context_catching CL_OUT_OF_HOST_MEMORY CL_DEVICE_NOT_AVAILABLE
  rw [fetchBinaries_eq]
  refine (settles_sends hF hK).trans ?_
  refine (settles_dispatches (h := ServerInstance.getProgramInfo B) hF rfl rfl).trans ?_
  refine (settles_server_meets_packet hF context_handler (by decide)).trans ?_
  refine (settles_server_get hF context_handler).trans ?_
  exact Driver.settles_ask hF context_handler

/-- The reply to a question that is refused. -/
theorem settles_fetching_error {err : Int32} {log : List Asked} :
    Settles D.environment (ServerInstance.serve B) F
        (fetching C args s t (ServerInstance.writeError err) log) ↔
      Settles D.environment (ServerInstance.serve B) F
        (fetched B C args s t (packet (⟨err⟩ : ErrorPacket)) log) := by
  rw [fetching, ← bind_pure (ServerInstance.writeError err)]
  exact (settles_server_writePacket hF context_handler).trans (settles_handles hF)

theorem settles_afterCount (hD : HasBinaries D program binaries)
    (hcount : (countAnswer D program).err = CL_SUCCESS)
    (hroom : 8 * binaries.length ≤ ServerInstance.vectorMaxSize) :
    Settles D.environment (ServerInstance.serve B) F
        (fetching C args s t (afterCount B program (countAnswer D program)) (countLog D program)) ↔
      Settles D.environment (ServerInstance.serve B) F
        (fetching C args s t (afterSizes B program binaries.length (sizesAnswer D program binaries))
          (sizesLog D program binaries)) := by
  have hdiv : (some (8 * binaries.length)).getD 0 / 8 = binaries.length :=
    Nat.mul_div_cancel_left _ (by decide)
  have hresize : afterCount B program (countAnswer D program) =
      ServerInstance.info (.clGetProgramInfo program CL_PROGRAM_BINARY_SIZES)
        (8 * binaries.length) >>= afterSizes B program binaries.length := by
    have hsize : (countAnswer D program).size = some (8 * binaries.length) := hD.count [] 0 hcount
    have hvector : ServerInstance.resize 8 binaries.length = pure () := if_pos hroom
    rw [afterCount, if_neg (not_not.mpr hcount), hsize, hdiv]
    dsimp only
    rw [hvector]
    rfl
  rw [hresize]
  exact Driver.settles_ask hF context_handler

theorem settles_afterSizes (hD : HasBinaries D program binaries)
    (hsizes : (sizesAnswer D program binaries).err = CL_SUCCESS)
    (hrooms : ∀ b ∈ binaries, b.length ≤ ServerInstance.vectorMaxSize) :
    Settles D.environment (ServerInstance.serve B) F
        (fetching C args s t (afterSizes B program binaries.length (sizesAnswer D program binaries))
          (sizesLog D program binaries)) ↔
      Settles D.environment (ServerInstance.serve B) F
        (fetched B C args s t
          (packet (⟨UInt8.ofNat binaries.length⟩ : SimplePacket .payload UInt8) ++
            payloads B.zlib .uint16 (sentBinaries D program binaries))
          (binariesLog D program binaries)) := by
  have hresize : afterSizes B program binaries.length (sizesAnswer D program binaries) =
      Prog.ask (ServerCall.programBinaries program (binaries.map List.length)) >>= fun b =>
        ServerInstance.writeValue (UInt8.ofNat binaries.length) >>= fun _ =>
          ServerInstance.writeBinaries B
            (ServerInstance.fillBinaries (binaries.map List.length) b.binaries) := by
    have hdata : (sizesAnswer D program binaries).data = wordBytes (sizesOf binaries) :=
      hD.sizes _ _ hsizes
    rw [afterSizes, if_neg (not_not.mpr hsizes), hdata, words_sizesOf hD.small]
    dsimp only
    rw [resizeAll_eq hrooms, List.length_map]
    rfl
  rw [hresize]
  refine (Driver.settles_ask hF context_handler).trans ?_
  refine (settles_server_writePacket hF context_handler).trans ?_
  refine (settles_server_writeBinaries hF context_handler).trans ?_
  exact settles_handles hF

end Steps

/-! ## What the application gets -/

/-- The binaries that a call has copied, one for each destination. -/
def copied (s s' : ClientState) : List Bytes :=
  (s'.trace.drop s.trace.length).flatMap fun
    | .store (.binaries binaries) => binaries
    | _ => []

/-- Every destination that is not null has got its binary. -/
def Delivered (binaries got : List Bytes) (dest : ℕ → Bool) : Prop :=
  ∀ i < binaries.length, dest i = true → got[i]? = binaries[i]?

/-- When binaries are loaded that have been fetched, the driver is given what it had. -/
def Reloads (B : ServerBuild) (C : Build) (got binaries : List Bytes) : Prop :=
  ∀ (D : Driver) (s : ClientState) (t : ServerState) (context : Handle) (devices : List Handle)
    (binary_status errcode_ret : Bool), devices ≠ [] → devices.length = got.length →
      Settles D.environment (ServerInstance.serve B)
        (FirstCall fun q => q.1 = .clCreateProgramWithBinary (objectAt t.mObjects (GetID context))
          (objectsOf t devices) binaries)
        (start B (loadProgram C context (devices.zip (got.map some)) binary_status errcode_ret) s t
          [])

/-- The query for the binaries fails, or yields all of them; nothing is left unread. -/
def BinariesReturn (D : Driver) (B : ServerBuild) (C : Build) (s : ClientState) (t : ServerState)
    (program : Handle) (binaries : List Bytes) : Prop :=
  ∀ (args : InfoArgs) (dest : ℕ → Bool),
    Settles D.environment (ServerInstance.serve B)
      (Final B ∅ fun r s' _ _ => (∃ err, err ≠ CL_SUCCESS ∧ r = .code err) ∨
        r = .code CL_SUCCESS ∧ (args.param_value = true → Delivered binaries (copied s s') dest ∧
          ((∀ i < binaries.length, dest i = true) → Reloads B C (copied s s') binaries)))
      (start B (fetchBinaries C program args) s t [])

/-- One of the first two questions is refused, or there are at most 255 binaries that are shorter
than 64 kilobytes, and they are stored. -/
def Fetchable (D : Driver) (program : Ptr) (binaries : List Bytes) : Prop :=
  (countAnswer D program).err ≠ CL_SUCCESS ∨
    (8 * binaries.length ≤ ServerInstance.vectorMaxSize ∧
      (sizesAnswer D program binaries).err ≠ CL_SUCCESS) ∨
    (binaries.length ≤ 255 ∧ (∀ b ∈ binaries, b.length < 2 ^ 16) ∧
      sentBinaries D program binaries = binaries)

/-- The state of a client that has stored the answer. -/
def withBinaries (args : InfoArgs) (s : ClientState) (n : ℕ) (got : List Bytes) : ClientState :=
  (s.stored args.param_value_size_ret (.param_value_size_ret n)).stored args.param_value
    (.binaries got)

theorem copied_withBinaries (hvalue : args.param_value = true) (n : ℕ) (got : List Bytes) :
    copied s (withBinaries args s n got) = got := by
  rw [copied, withBinaries, hvalue]
  cases args.param_value_size_ret <;>
    simp [ClientState.stored, ClientState.note]

theorem settles_client_store {F : CallConfig (List Asked) → Prop}
    (hF : Stable D.environment (ServerInstance.serve B) F) {K : ClientM Ret → ClientM Ret}
    (hK : Prog.Context K) {pointer : Bool} {x : Store} {k : Unit → ClientM Ret}
    {c : Side ServerState Exn ServerCall Ans Bool} {o u d : Bytes} {log : List Asked} :
    Settles D.environment (ServerInstance.serve B) F
        ⟨⟨K (store pointer x >>= k), s, o⟩, c, u, d, log⟩ ↔
      Settles D.environment (ServerInstance.serve B) F
        ⟨⟨K (k ()), s.stored pointer x, o⟩, c, u, d, log⟩ := by
  cases pointer with
  | false => rfl
  | true => exact (settles_client_get hF hK).trans (settles_client_put hF hK)

/-- Several IDs are resolved. -/
theorem settles_client_resolveAll {F : CallConfig (List Asked) → Prop}
    (hF : Stable D.environment (ServerInstance.serve B) F) {K : ClientM Ret → ClientM Ret}
    (hK : Prog.Context K) {how : Resolve} {kind : Kind} {ids : List IDType}
    {k : List Lookup → ClientM Ret} {c : Side ServerState Exn ServerCall Ans Bool} {o u d : Bytes}
    {log : List Asked} :
    Settles D.environment (ServerInstance.serve B) F
        ⟨⟨K (resolveAll how kind ids >>= k), s, o⟩, c, u, d, log⟩ ↔
      Settles D.environment (ServerInstance.serve B) F
        ⟨⟨K (k (how.applyAll s kind ids).1), (how.applyAll s kind ids).2, o⟩, c, u, d, log⟩ :=
  (settles_client_get hF hK).trans
    (settles_client_put (k := fun _ => k (how.applyAll s kind ids).1) hF hK)

/-- The client takes in as many binaries as the number says. -/
theorem settles_fetched {P : Ret → ClientState → ServerState → List Asked → Prop}
    {datas xs : List Bytes} (h : List.Forall₂ (fun data x =>
      Reads (decPayload C.zlib .uint16) (encPayload B.zlib .uint16 data) x) datas xs)
    {n : UInt8} (hn : datas.length = n.toNat) {rest : Bytes} {log : List Asked} :
    Settles D.environment (ServerInstance.serve B) (Final B ∅ P)
        (fetched B C args s t (packet (⟨n⟩ : SimplePacket .payload UInt8) ++
          (payloads B.zlib .uint16 datas ++ rest)) log) ↔
      rest = [] ∧ P (.code CL_SUCCESS) (withBinaries args s (n.toNat * 8) xs) t log := by
  have hF : Stable D.environment (ServerInstance.serve B) (Final B ∅ P) := stable_final
  have hK := context_catching CL_OUT_OF_HOST_MEMORY CL_DEVICE_NOT_AVAILABLE
  refine (settles_client_meets_packet hF hK (by decide)).trans ?_
  simp only [← hn]
  refine (settles_client_readBinaries hF hK h).trans ?_
  refine (settles_client_store hF hK).trans ?_
  refine (settles_client_store hF hK).trans ?_
  exact settles_returned

theorem reloads_self (hz : SameFormat C.zlib B.zlib) (hlen : binaries.length ≤ 255)
    (hsmall : ∀ b ∈ binaries, b.length < 2 ^ 16) : Reloads B C binaries binaries := by
  intro D s t context devices binary_status errcode_ret hdevices hlength
  have hfst : (devices.zip (binaries.map some)).map Prod.fst = devices :=
    List.map_fst_zip (by rw [List.length_map, hlength])
  have hbinaries : binariesOf (devices.zip (binaries.map some)) = binaries := by
    have hsnd : (devices.zip (binaries.map some)).map Prod.snd = binaries.map some :=
      List.map_snd_zip (by rw [List.length_map, hlength])
    have hget : binariesOf (devices.zip (binaries.map some)) =
        ((devices.zip (binaries.map some)).map Prod.snd).map fun b => b.getD [] := by
      rw [List.map_map]
      rfl
    rw [hget, hsnd, List.map_map]
    exact List.map_id binaries
  have hpairs : devices.zip (binaries.map some) ≠ [] := by
    intro h
    rw [h] at hfst
    exact hdevices hfst.symm
  have hlen' : (devices.zip (binaries.map some)).length ≤ 255 := by
    rw [List.length_zip, List.length_map]
    omega
  have hfits : ∀ data ∈ binariesOf (devices.zip (binaries.map some)),
      data.length < SizeT.range .uint32 := by
    rw [hbinaries]
    exact fun data hdata => (hsmall data hdata).trans (by decide)
  refine (settles_firstCall_load (D := D) (t := t) hz context hpairs hlen' hfits binary_status
    errcode_ret).mono ?_
  rintro x ⟨q, log, hlog, rfl⟩
  refine ⟨_, log, hlog, ?_⟩
  rw [loadCall, hfst, hbinaries]

/-- An error is all that there is to read. -/
theorem settles_fetched_error {P : Ret → ClientState → ServerState → List Asked → Prop}
    {err : Int32} {log : List Asked} (h : P (.code err) s t log) :
    Settles D.environment (ServerInstance.serve B) (Final B ∅ P)
      (fetched B C args s t (packet (⟨err⟩ : ErrorPacket)) log) := by
  have hK := context_catching CL_OUT_OF_HOST_MEMORY CL_DEVICE_NOT_AVAILABLE
  rw [fetched, ← List.append_nil (packet _)]
  exact (settles_client_meets_error stable_final hK err).mpr (settles_returned.mpr ⟨rfl, h⟩)

/-- What can be fetched is. -/
theorem Fetchable.return (hz : SameFormat B.zlib C.zlib) (hz' : SameFormat C.zlib B.zlib)
    {program : Handle} (hD : HasBinaries D (objectAt t.mObjects (GetID program)) binaries)
    (h : Fetchable D (objectAt t.mObjects (GetID program)) binaries) :
    BinariesReturn D B C s t program binaries := by
  intro args dest
  refine (settles_fetch stable_final program).mpr ?_
  by_cases hcount : (countAnswer D (objectAt t.mObjects (GetID program))).err = CL_SUCCESS
  swap
  · rw [afterCount, if_pos hcount]
    exact (settles_fetching_error stable_final).mpr
      (settles_fetched_error (Or.inl ⟨_, hcount, rfl⟩))
  have hroom : 8 * binaries.length ≤ ServerInstance.vectorMaxSize := by
    rcases h with h | ⟨hroom, -⟩ | ⟨hlen, -⟩
    · exact absurd hcount h
    · exact hroom
    · exact (Nat.mul_le_mul_left 8 hlen).trans (by decide)
  refine (settles_afterCount stable_final hD hcount hroom).mpr ?_
  by_cases hsizes : (sizesAnswer D (objectAt t.mObjects (GetID program)) binaries).err = CL_SUCCESS
  swap
  · rw [afterSizes, if_pos hsizes]
    exact (settles_fetching_error stable_final).mpr
      (settles_fetched_error (Or.inl ⟨_, hsizes, rfl⟩))
  obtain ⟨hlen, hsmall, hsent⟩ := (h.resolve_left (not_not.mpr hcount)).resolve_left
    fun h => h.2 hsizes
  have hrooms : ∀ b ∈ binaries, b.length ≤ ServerInstance.vectorMaxSize := by
    intro b hb
    exact (hsmall b hb).le.trans (by decide)
  refine (settles_afterSizes stable_final hD hsizes hrooms).mpr ?_
  have hnumber : binaries.length = (UInt8.ofNat binaries.length).toNat :=
    (UInt8.toNat_ofNat_of_lt' (Nat.lt_succ_of_le hlen)).symm
  rw [hsent, ← List.append_nil (payloads B.zlib .uint16 binaries)]
  refine (settles_fetched (List.forall₂_same.mpr fun b hb => ?_) hnumber).mpr
    ⟨rfl, Or.inr ⟨rfl, ?_⟩⟩
  · exact reads_payload hz (hsmall b hb) .payload .payload
  · intro hvalue
    rw [copied_withBinaries hvalue]
    exact ⟨fun _ _ _ => rfl, fun _ => reloads_self hz' hlen hsmall⟩

/-- A reader does not read one thing as two. -/
theorem reads_unique {α : Type} {r : Reader α} {w : Bytes} {a b : α} (ha : Reads r w a)
    (hb : Reads r w b) : a = b := by
  have h := (ha []).symm.trans (hb [])
  exact congrArg Prod.fst (Option.some.inj h)

/-- The client does not wait for ever if the query ends. -/
theorem not_settles_throw {P : Ret → ClientState → ServerState → List Asked → Prop}
    {log : List Asked} {p : ServerM Unit} (hp : p = Prog.throw .other) :
    ¬ Settles D.environment (ServerInstance.serve B) (Final B ∅ P) (fetching C args s t p log) := by
  have hK := context_catching CL_OUT_OF_HOST_MEMORY CL_DEVICE_NOT_AVAILABLE
  obtain ⟨q, s', hq⟩ := waits_readPacket hK (SimplePacket .payload UInt8) (fun binaryCount =>
    readBinaries C binaryCount.mData.toNat >>= fun binaries =>
      store args.param_value_size_ret (.param_value_size_ret (binaryCount.mData.toNat * 8)) >>=
        fun _ => store args.param_value (.binaries binaries) >>= fun _ => pure (.code CL_SUCCESS)) s
  obtain ⟨k, hserve⟩ := serve_eq_peek (B := B)
  rw [hp, fetching, awaitBinaries, hq]
  refine not_settles_stopped (p := .throw .other) ?_ (fun h => h) (fun h => nomatch h) ?_
  · exact Nat.not_succ_le_zero 0
  · rw [hserve]
    exact fun h => nomatch h

theorem payloads_take_drop (zlib : Option Zlib) (datas : List Bytes) (n : ℕ) :
    payloads zlib .uint16 (datas.take n) ++ payloads zlib .uint16 (datas.drop n) =
      payloads zlib .uint16 datas := by
  rw [payloads, payloads, ← List.flatMap_append, List.take_append_drop, payloads]

/-- Without payloads there is nothing on the stream. -/
theorem payloads_eq_nil {zlib : Option Zlib} {datas : List Bytes}
    (h : payloads zlib .uint16 datas = []) : datas = [] := by
  cases datas with
  | nil => rfl
  | cons data datas =>
    rw [payloads, List.flatMap_cons, PacketStream.frame] at h
    cases h

/-- What the client reads of binaries that have been sent. -/
theorem exists_forall₂_reads (hz : SameFormat B.zlib C.zlib) (hfills : Zlib.Fills C.zlib)
    {datas : List Bytes} (hfits : ∀ b ∈ datas, CompressedFits B.zlib .uint16 b) :
    ∃ xs, List.Forall₂ (fun data x => Reads (decPayload C.zlib .uint16)
        (encPayload B.zlib .uint16 data) x) datas xs ∧ ∀ x ∈ xs, x.length < 2 ^ 16 := by
  induction datas with
  | nil => exact ⟨[], .nil, fun _ h => absurd h List.not_mem_nil⟩
  | cons data datas ih =>
    obtain ⟨x, hx, hlen⟩ := (hfits data List.mem_cons_self).exists_reads hz hfills
    obtain ⟨xs, hxs, hlens⟩ := ih fun b hb => hfits b (List.mem_cons_of_mem _ hb)
    exact ⟨x :: xs, .cons hx hxs, List.forall_mem_cons.mpr ⟨hlen, hlens⟩⟩

/-- Binaries that fit are read as they are. -/
theorem eq_of_forall₂_reads (hz : SameFormat B.zlib C.zlib) {datas xs : List Bytes}
    (h : List.Forall₂ (fun data x => Reads (decPayload C.zlib .uint16)
      (encPayload B.zlib .uint16 data) x) datas xs) (hsmall : ∀ b ∈ datas, b.length < 2 ^ 16) :
    xs = datas := by
  induction h with
  | nil => rfl
  | @cons data x datas xs hx _ ih =>
    rw [List.forall_mem_cons] at hsmall
    rw [ih hsmall.2, reads_unique hx (reads_payload hz hsmall.1 .payload .payload)]

/-- Where a binary is too long, or there are too many of them, not all of them return. -/
theorem Fetchable.of_return (hz : SameFormat B.zlib C.zlib) (hfills : Zlib.Fills C.zlib)
    {program : Handle} (hD : HasBinaries D (objectAt t.mObjects (GetID program)) binaries)
    (hfits : ∀ b ∈ sentBinaries D (objectAt t.mObjects (GetID program)) binaries,
      CompressedFits B.zlib .uint16 b)
    (h : BinariesReturn D B C s t program binaries) :
    Fetchable D (objectAt t.mObjects (GetID program)) binaries := by
  set object := objectAt t.mObjects (GetID program) with hobject
  by_contra hnot
  rw [Fetchable, not_or, not_or, not_not, not_and_or, not_le] at hnot
  obtain ⟨hcount, hsizes, hbinaries⟩ := hnot
  have hfetch := (settles_fetch stable_final program).mp (h ⟨0, true, true⟩ fun _ => true)
  rw [← hobject] at hfetch
  by_cases hroom : 8 * binaries.length ≤ ServerInstance.vectorMaxSize
  swap
  · refine not_settles_throw ?_ hfetch
    have hsize : (countAnswer D object).size = some (8 * binaries.length) := hD.count [] 0 hcount
    have hvector : ServerInstance.resize 8 binaries.length = Prog.throw .other := if_neg hroom
    rw [afterCount, if_neg (not_not.mpr hcount), hsize, Option.getD_some,
      Nat.mul_div_cancel_left _ (by decide)]
    dsimp only
    rw [hvector]
    rfl
  replace hsizes := not_not.mp (hsizes.resolve_left (not_lt.mpr hroom))
  rw [settles_afterCount stable_final hD hcount hroom] at hfetch
  by_cases hrooms : ∀ b ∈ binaries, b.length ≤ ServerInstance.vectorMaxSize
  swap
  · refine not_settles_throw ?_ hfetch
    have hdata : (sizesAnswer D object binaries).data = wordBytes (sizesOf binaries) :=
      hD.sizes _ _ hsizes
    rw [afterSizes, if_neg (not_not.mpr hsizes), hdata, words_sizesOf hD.small]
    dsimp only
    rw [resizeAll_throw hrooms]
    rfl
  rw [settles_afterSizes stable_final hD hsizes hrooms] at hfetch
  -- the client reads the binaries up to the number modulo 256, and the rest is left unread
  obtain ⟨xs, hxs, hlens⟩ := exists_forall₂_reads hz hfills hfits
  have hxslen : xs.length = binaries.length := by
    rw [← hxs.length_eq, length_sentBinaries]
  have hle : (UInt8.ofNat binaries.length).toNat ≤ binaries.length := Nat.mod_le _ _
  rw [← payloads_take_drop _ _ (UInt8.ofNat binaries.length).toNat, settles_fetched
    (List.forall₂_take _ hxs) (by rw [List.length_take, length_sentBinaries, min_eq_left hle])]
    at hfetch
  obtain ⟨hrest, ⟨err, herr, hcode⟩ | ⟨-, hgot⟩⟩ := hfetch
  · exact herr (Ret.code.inj hcode).symm
  have hall : binaries.length ≤ (UInt8.ofNat binaries.length).toNat := by
    have h := payloads_eq_nil hrest
    rwa [List.drop_eq_nil_iff, length_sentBinaries] at h
  obtain ⟨hdelivered, -⟩ := hgot rfl
  rw [copied_withBinaries rfl, List.take_of_length_le (hxslen.trans_le hall)] at hdelivered
  have hsame : xs = binaries := by
    refine List.ext_getElem? fun i => ?_
    by_cases hi : i < binaries.length
    · exact hdelivered i hi rfl
    · rw [List.getElem?_eq_none (hxslen.trans_le (not_lt.mp hi)),
        List.getElem?_eq_none (not_lt.mp hi)]
  have hsmall : ∀ b ∈ sentBinaries D object binaries, b.length < 2 ^ 16 := by
    intro b hb
    have hmem := List.mem_map_of_mem (f := List.length) hb
    rw [map_length_sentBinaries, ← hsame] at hmem
    obtain ⟨x, hx, hlen⟩ := List.mem_map.mp hmem
    exact hlen ▸ hlens x hx
  have hsent := eq_of_forall₂_reads hz hxs hsmall
  exact hbinaries ⟨hall.trans (Nat.le_of_lt_succ (UInt8.toNat_lt _)), hsame ▸ hlens,
    hsent.symm.trans hsame⟩

/-- **When binaries come back**: when they are few and short enough, and are stored.  The converse
is for binaries whose compressed bytes, if there are any, have room in their size field; what the
client makes of bytes that are left over may be anything. -/
theorem binaries_return_iff (hz : SameFormat B.zlib C.zlib) (hz' : SameFormat C.zlib B.zlib)
    (hfills : Zlib.Fills C.zlib) (program : Handle)
    (hD : HasBinaries D (objectAt t.mObjects (GetID program)) binaries) :
    (Fetchable D (objectAt t.mObjects (GetID program)) binaries →
        BinariesReturn D B C s t program binaries) ∧
      ((∀ b ∈ sentBinaries D (objectAt t.mObjects (GetID program)) binaries,
          CompressedFits B.zlib .uint16 b) →
        BinariesReturn D B C s t program binaries →
          Fetchable D (objectAt t.mObjects (GetID program)) binaries) :=
  ⟨Fetchable.return hz hz' hD, Fetchable.of_return hz hfills hD⟩

end Fetch

/-! ### Drivers with binaries -/

/-- A driver that has some binaries for every program. -/
def binariesDriver (binaries : List Bytes) : Driver
  | _, .info (.clGetProgramInfo _ param) _ =>
    if param = CL_PROGRAM_BINARIES then ⟨CL_SUCCESS, some (8 * binaries.length), []⟩
    else ⟨CL_SUCCESS, some (8 * binaries.length), wordBytes (sizesOf binaries)⟩
  | _, .programBinaries _ _ => ⟨CL_SUCCESS, some (8 * binaries.length), binaries⟩
  | _, c => refuse c

theorem hasBinaries_binariesDriver (program : Ptr) {binaries : List Bytes}
    (h : ∀ b ∈ binaries, b.length < 2 ^ 64) :
    HasBinaries (binariesDriver binaries) program binaries :=
  ⟨h, fun _ _ _ => rfl, fun _ _ _ => rfl, fun _ _ _ => rfl⟩

theorem sentBinaries_binariesDriver (program : Ptr) (binaries : List Bytes) :
    sentBinaries (binariesDriver binaries) program binaries = binaries :=
  fillBinaries_lengths binaries

theorem fills_plainBuild : Zlib.Fills plainBuild.zlib := by
  intro z h
  cases h

theorem compressedFits_plainBuild (sz : SizeT) (data : Bytes) :
    CompressedFits plainBuild.zlib sz data := by
  intro z h
  cases h

/-- Two binaries, one of them empty. -/
theorem binaries_return_two :
    BinariesReturn (binariesDriver [[1, 2, 3], []]) ⟨plainBuild, 210⟩ plainBuild
      ⟨[], 0, [], false, []⟩ ⟨[66, 77], none⟩ ⟨1, 1, .program⟩ [[1, 2, 3], []] :=
  (binaries_return_iff .plain .plain fills_plainBuild ⟨1, 1, .program⟩
    (hasBinaries_binariesDriver 77 (by decide))).1
      (Or.inr (Or.inr ⟨by decide, by decide, sentBinaries_binariesDriver 77 _⟩))

/-- A binary of 64 kilobytes crosses as an empty one. -/
theorem long_binary_lost :
    ¬ BinariesReturn (binariesDriver [zeros (2 ^ 16)]) ⟨plainBuild, 210⟩ plainBuild
      ⟨[], 0, [], false, []⟩ ⟨[66, 77], none⟩ ⟨1, 1, .program⟩ [zeros (2 ^ 16)] := by
  intro h
  have hD : HasBinaries (binariesDriver [zeros (2 ^ 16)]) 77 [zeros (2 ^ 16)] := by
    refine hasBinaries_binariesDriver 77 fun b hb => ?_
    rw [List.mem_singleton.mp hb, length_zeros]
    decide
  have hfetch := Fetchable.of_return .plain fills_plainBuild hD
    (fun b _ => compressedFits_plainBuild .uint16 b) h
  obtain hcount | ⟨-, hsizes⟩ | ⟨-, hsmall, -⟩ := hfetch
  · exact hcount rfl
  · exact hsizes rfl
  · have hlt := hsmall _ (List.mem_singleton_self _)
    rw [length_zeros] at hlt
    exact lt_irrefl _ hlt

end RemoteCL

import RemoteCL.Server.Staging
import RemoteCL.Session.Calls.Exact
import RemoteCL.Session.Calls.Images
import RemoteCL.Session.Record

/-!
# Reading a rectangle

The driver puts a rectangle of a buffer into a vector that is full of zeros, where the pitches and
the origin of the request say.  The vector goes to the client, which copies it into the memory of
the application from its first byte on.  So the gaps between the rows and the slices become zeros,
and everything in front of the origin; and what the vector has no room for stays as it was.  The
application gets what it has asked for exactly if the rectangle is all that there is in the vector.
-/

namespace RemoteCL

open ByteStream Conversation Wire LawfulWire Client Layout

/-! ## The memory of the application -/

/-- Bytes that are stored at a pointer. -/
def storeBytes (data : Bytes) (mem : ℕ → UInt8) (i : ℕ) : UInt8 := data.getD i (mem i)

/-- What an API function does to the memory at the pointer that it reads into. -/
def ClientEvent.apply : ClientEvent → (ℕ → UInt8) → ℕ → UInt8
  | .store (.ptr data), mem => storeBytes data mem
  | _, mem => mem

/-- The memory after a call, by what has been noted since the state before. -/
def memoryAfter (s s' : ClientState) (mem : ℕ → UInt8) : ℕ → UInt8 :=
  (s'.trace.drop s.trace.length).foldl (fun mem ev => ev.apply mem) mem

theorem memoryAfter_of_trace {s s' : ClientState} {evs : List ClientEvent}
    (h : s'.trace = s.trace ++ evs) (mem : ℕ → UInt8) :
    memoryAfter s s' mem = evs.foldl (fun mem ev => ev.apply mem) mem := by
  rw [memoryAfter, h, List.drop_left]

theorem memoryAfter_withData (s : ClientState) (data : Bytes) (mem : ℕ → UInt8) :
    memoryAfter s (withData s (some data)) mem = storeBytes data mem := by
  have htrace : (withData s (some data)).trace = s.trace ++ [.store (.ptr data)] := rfl
  rw [memoryAfter_of_trace htrace]
  rfl

theorem memoryAfter_withEvent (s : ClientState) (id : IDType) (data : Bytes) (mem : ℕ → UInt8) :
    memoryAfter s (withData (withEvent s id) (some data)) mem = storeBytes data mem := by
  have htrace : (withData (withEvent s id) (some data)).trace = s.trace ++
      [.lookup .event id (.object (s.newHandle .event id)),
        .store (.event (.object (s.newHandle .event id))), .store (.ptr data)] := by
    rw [withData, withEvent]
    simp [Resolve.apply, ClientState.registerID, ClientState.note, ClientState.register,
      ClientState.stored, ClientState.newHandle]
  rw [memoryAfter_of_trace htrace]
  rfl

/-! ## The reply -/

section Reply

variable {E : List Asked → (c : ServerCall) → Ans c → List Asked → Prop} {B : ServerBuild}
variable {C : Build} {s : ClientState} {t : ServerState} {args : WaitArgs} {log : List Asked}
variable {u : Bytes}

/-- The reply to a read, and when there is none. -/
theorem wp_replyRead {H : ServerState → Bytes → Bytes → Prop} {a : EnqueueAns} {want : Bool}
    {size : ℕ} {Q : Except Exn Unit → ServerState → Bytes → Bytes → List Asked → Prop}
    (hnone : want = true → NoID t a.err a.event → H t [] u)
    (herror : a.err ≠ CL_SUCCESS → Q (.ok ()) t (packet (⟨a.err⟩ : ErrorPacket)) u log)
    (hplain : a.err = CL_SUCCESS → want = false → Q (.ok ()) t
      (PacketStream.frame .payload (encPayloadPtr B.zlib .uint32 (storeInto (zeros size) a.data)))
      u log)
    (hevent : a.err = CL_SUCCESS → want = true → ∀ id mObjects,
      assignID t.mObjects a.event = some (id, mObjects) →
        Q (.ok ()) { t with mObjects } (packet (⟨id⟩ : IDPacket) ++ PacketStream.frame .payload
          (encPayloadPtr B.zlib .uint32 (storeInto (zeros size) a.data))) u log) :
    (ServerInstance.replyRead B want size a).wp E H t [] u log Q := by
  rw [ServerInstance.replyRead]
  by_cases herr : a.err = CL_SUCCESS
  · rw [if_neg (not_not.mpr herr), ServerInstance.replyEvent]
    cases want with
    | false => exact hplain herr rfl
    | true =>
      rw [if_pos rfl, ServerInstance.writeID, Prog.wp_bind, Prog.wp_bind,
        ServerInstance.wp_getIDFor]
      cases hassign : assignID t.mObjects a.event with
      | none => exact hnone rfl ⟨herr, hassign⟩
      | some x => exact hevent herr rfl _ _ hassign
  · rw [if_pos herr]
    exact herror herr

/-- The client takes a reply in, and returns. -/
theorem settles_taken {F : CallConfig (List Asked) → Prop}
    (hF : Stable E (ServerInstance.serve B) F) {p : ClientM Ret} {d : Bytes}
    {P : Ret → ClientState → Prop} (hP : ∀ x, Returned P x → F x)
    (h : Takes p s d fun r s' _ _ _ => ∃ a, r = .ok a ∧ P a s') :
    Settles E (ServerInstance.serve B) F
      ⟨⟨p, s, []⟩, ⟨ServerInstance.serve B, t, []⟩, u, d, log⟩ := by
  refine settles_client_wp hF Prog.Context.hole (fun _ _ _ h => h.elim) (Prog.wp_mono ?_ h)
  rintro r s' o d - ⟨a, rfl, ha⟩
  exact Settles.final (hP _ ⟨a, rfl, ha⟩)

/-- The driver has answered.  The client returns the error, or success and the data, unless there is
no ID for the event. -/
theorem settles_readReplied {F : CallConfig (List Asked) → Prop}
    (hF : Stable E (ServerInstance.serve B) F) (hz : SameFormat B.zlib C.zlib) {a : EnqueueAns}
    {size : ℕ} {data : Bytes}
    (hdata : (storeInto (zeros size) a.data).take (size % SizeT.range .uint32) = data)
    {P : Ret → ClientState → Prop} (hP : ∀ x, Returned P x → F x)
    (hab : args.event = true → NoID t a.err a.event → ∀ x, Abandoned x → F x)
    (herror : a.err ≠ CL_SUCCESS → P (.code a.err) s)
    (hplain : a.err = CL_SUCCESS → P (.code CL_SUCCESS) (withData s (some data)))
    (hevent : a.err = CL_SUCCESS → ∀ id, P (.code CL_SUCCESS)
      (withData (withEvent s id) (some data))) :
    Settles E (ServerInstance.serve B) F
      ⟨⟨catching CL_OUT_OF_HOST_MEMORY CL_DEVICE_NOT_AVAILABLE (awaitEvent args >>= fun _ =>
          PacketStream.read .payload (decPayloadInto C.zlib .uint32) >>= fun data =>
            store true (.ptr data) >>= fun _ => pure (.code CL_SUCCESS)), s, []⟩,
        ⟨ServerInstance.iteration (ServerInstance.replyRead B args.event size a >>= fun _ =>
          pure true), t, []⟩, u, [], log⟩ := by
  have hread := reads_payloadPtr_take hz .uint32 (storeInto (zeros size) a.data) .payloadInto
  rw [length_storeInto, length_zeros, hdata] at hread
  refine settles_server_wp hF context_handler
    (H := fun _ o _ => o = [] ∧ args.event = true ∧ NoID t a.err a.event) ?_
    (wp_replyRead ?_ ?_ ?_ ?_)
  · rintro t' o u' log' ⟨rfl, hwant, hno⟩
    obtain ⟨q, s', hq⟩ := waits_event (context_catching CL_OUT_OF_HOST_MEMORY
      CL_DEVICE_NOT_AVAILABLE) args .payload (decPayloadInto C.zlib .uint32)
      (fun data => store true (.ptr data) >>= fun _ => pure (.code CL_SUCCESS)) s
    rw [hq]
    exact Settles.final (hab hwant hno _ ⟨1, q, s', .spin, t', u', log', Nat.one_pos, Or.inl rfl,
      rfl⟩)
  · exact fun hwant hno => ⟨rfl, hwant, hno⟩
  · intro herr
    refine (settles_handles hF).mpr (settles_taken hF hP ?_)
    exact takes_event_error ⟨_, rfl, herror herr⟩
  · intro herr hwant
    refine (settles_handles hF).mpr (settles_taken hF hP ?_)
    exact takes_event_plain hwant (by decide) hread ⟨_, rfl, hplain herr⟩
  · intro herr hwant id mObjects _
    refine (settles_handles hF).mpr (settles_taken hF hP ?_)
    exact takes_event_ID hwant (by decide) hread ⟨_, rfl, hevent herr id⟩

end Reply

/-! ## Rectangles of the application -/

/-- A triple of numbers. -/
def nats (c : UInt64 × UInt64 × UInt64) : ℕ × ℕ × ℕ := (c.1.toNat, c.2.1.toNat, c.2.2.toNat)

theorem coordsNat_coords {c : UInt64 × UInt64 × UInt64} (h1 : c.1.toNat < 2 ^ 32)
    (h2 : c.2.1.toNat < 2 ^ 32) (h3 : c.2.2.toNat < 2 ^ 32) :
    ServerInstance.coordsNat (coords c.1 c.2.1 c.2.2) = nats c := by
  have hcoords : ServerInstance.coordsNat (coords c.1 c.2.1 c.2.2) =
      (c.1.toUInt32.toNat, c.2.1.toUInt32.toNat, c.2.2.toUInt32.toNat) := rfl
  rw [hcoords, toNat_toUInt32 h1, toNat_toUInt32 h2, toNat_toUInt32 h3, nats]

namespace Client.RectArgs

/-- The rectangle in the memory of the application. -/
def hostBox (r : RectArgs) : Box :=
  ServerInstance.rectBox (nats r.host_origin) (nats r.region) r.host_row_pitch.toNat
    r.host_slice_pitch.toNat

/-- The rectangle in the buffer. -/
def bufferBox (r : RectArgs) : Box :=
  ServerInstance.rectBox (nats r.buffer_origin) (nats r.region) r.buffer_row_pitch.toNat
    r.buffer_slice_pitch.toNat

/-- A triple whose numbers have 32 bits. -/
def Small (c : UInt64 × UInt64 × UInt64) : Prop :=
  c.1.toNat < 2 ^ 32 ∧ c.2.1.toNat < 2 ^ 32 ∧ c.2.2.toNat < 2 ^ 32

/-- A rectangle that is not empty, with pitches for which nothing overlaps, and with no number above
32 bits. -/
structure Valid (r : RectArgs) : Prop where
  buffer_origin : Small r.buffer_origin
  host_origin : Small r.host_origin
  region : Small r.region
  buffer_row_pitch : r.buffer_row_pitch.toNat < 2 ^ 32
  buffer_slice_pitch : r.buffer_slice_pitch.toNat < 2 ^ 32
  host_row_pitch : r.host_row_pitch.toNat < 2 ^ 32
  host_slice_pitch : r.host_slice_pitch.toNat < 2 ^ 32
  not_empty : ¬ r.hostBox.Empty
  pitched : r.hostBox.Pitched

/-- The rectangle is a block that starts at the pointer, and is shorter than four gigabytes. -/
def Contiguous (r : RectArgs) : Prop :=
  r.host_origin = (0, 0, 0) ∧ r.hostBox.row = r.hostBox.width ∧
    r.hostBox.slice = r.hostBox.width * r.hostBox.height ∧
    r.hostBox.width * r.hostBox.height * r.hostBox.depth < 2 ^ 32

instance (c : UInt64 × UInt64 × UInt64) : Decidable (Small c) :=
  inferInstanceAs (Decidable (_ ∧ _))

instance (r : RectArgs) : Decidable r.Contiguous := inferInstanceAs (Decidable (_ ∧ _))

variable {r : RectArgs} {queue buffer : Handle} {block : Bool} {args : WaitArgs}

/-- The server is given the rectangles that are meant. -/
theorem hostBox_packet (hr : r.Valid) :
    ServerInstance.hostBox (r.packet queue buffer block args) = r.hostBox := by
  obtain ⟨ho1, ho2, ho3⟩ := hr.host_origin
  obtain ⟨hr1, hr2, hr3⟩ := hr.region
  simp only [ServerInstance.hostBox, RectArgs.packet]
  rw [coordsNat_coords ho1 ho2 ho3, coordsNat_coords hr1 hr2 hr3,
    toNat_toUInt32 hr.host_row_pitch, toNat_toUInt32 hr.host_slice_pitch, hostBox]

theorem bufferBox_packet (hr : r.Valid) :
    ServerInstance.bufferBox (r.packet queue buffer block args) = r.bufferBox := by
  obtain ⟨hb1, hb2, hb3⟩ := hr.buffer_origin
  obtain ⟨hr1, hr2, hr3⟩ := hr.region
  simp only [ServerInstance.bufferBox, RectArgs.packet]
  rw [coordsNat_coords hb1 hb2 hb3, coordsNat_coords hr1 hr2 hr3,
    toNat_toUInt32 hr.buffer_row_pitch, toNat_toUInt32 hr.buffer_slice_pitch, bufferBox]

/-- The size of the vector, as far as the payload can tell it. -/
theorem rectSize_packet_mod (hr : r.Valid) :
    ServerInstance.rectSize (r.packet queue buffer block args) % SizeT.range .uint32 =
      r.hostBox.slice * r.hostBox.depth % 2 ^ 32 := by
  rw [ServerInstance.rectSize_eq, hostBox_packet hr]
  exact Nat.mod_mod_of_dvd _ (by decide)

theorem row_lt (hr : r.Valid) : r.hostBox.row < 2 ^ 32 := by
  simp only [hostBox, ServerInstance.rectBox]
  split
  · exact hr.host_row_pitch
  · exact hr.region.1

/-- A slice has a pitch, or consists of its rows. -/
theorem slice_cases (hr : r.Valid) :
    r.hostBox.slice < 2 ^ 32 ∨ r.hostBox.slice = r.hostBox.height * r.hostBox.row := by
  by_cases hpitch : 0 < r.host_slice_pitch.toNat
  · left
    have hslice : r.hostBox.slice = r.host_slice_pitch.toNat := if_pos hpitch
    rw [hslice]
    exact hr.host_slice_pitch
  · right
    exact if_neg hpitch

theorem base_eq_zero_iff (hr : r.Valid) : r.hostBox.base = 0 ↔ r.host_origin = (0, 0, 0) := by
  obtain ⟨hwidth, hheight, -⟩ := Box.pos_of_not_empty hr.not_empty
  have hrow : 0 < r.hostBox.row := hwidth.trans_le hr.pitched.row
  have hslice : 0 < r.hostBox.slice := (Nat.mul_pos hheight hrow).trans_le hr.pitched.slice
  have hbase : r.hostBox.base = r.host_origin.2.2.toNat * r.hostBox.slice +
      r.host_origin.2.1.toNat * r.hostBox.row + r.host_origin.1.toNat := rfl
  rw [hbase, Prod.ext_iff, Prod.ext_iff, ← UInt64.toNat_inj, ← UInt64.toNat_inj, ← UInt64.toNat_inj]
  simp only [Nat.add_eq_zero_iff, Nat.mul_eq_zero, hrow.ne', hslice.ne', or_false]
  constructor
  · rintro ⟨⟨h2, h1⟩, h0⟩
    exact ⟨h0, h1, h2⟩
  · rintro ⟨h0, h1, h2⟩
    exact ⟨⟨h2, h1⟩, h0⟩

/-- **When the rectangle is all that there is**: it is a block that starts at the pointer. -/
theorem holds_iff_contiguous (hr : r.Valid) :
    (∀ i, r.hostBox.Holds i ↔ i < r.hostBox.slice * r.hostBox.depth % 2 ^ 32) ↔ r.Contiguous := by
  rw [Box.fills_iff hr.pitched hr.not_empty, base_eq_zero_iff hr, Contiguous, Box.Packed]
  refine and_congr_right fun _ => ?_
  obtain ⟨hwidth, hslice⟩ := hr.pitched
  have hrow32 := row_lt hr
  constructor
  · rintro ⟨⟨hrows, hslices⟩, hsize⟩
    have hrow : r.hostBox.row = r.hostBox.width := by
      rcases hrows with hone | hrow
      · rw [hone, Nat.one_mul] at hslice
        rw [hone, Nat.mul_one] at hslices hsize
        rcases hslices with hdepth | hslices
        · have hlt : r.hostBox.slice < 2 ^ 32 := by
            rcases slice_cases hr with hlt | heq
            · exact hlt
            · rwa [heq, hone, Nat.one_mul]
          rw [hdepth, Nat.mul_one, Nat.mul_one, Nat.mod_eq_of_lt hlt] at hsize
          omega
        · omega
      · exact hrow
    have hslice' : r.hostBox.slice = r.hostBox.width * r.hostBox.height := by
      rcases hslices with hdepth | hslices
      · rcases slice_cases hr with hlt | heq
        · rwa [hdepth, Nat.mul_one, Nat.mul_one, Nat.mod_eq_of_lt hlt] at hsize
        · rw [heq, hrow, Nat.mul_comm]
      · exact hslices
    exact ⟨hrow, hslice', hsize ▸ Nat.mod_lt _ (by decide)⟩
  · rintro ⟨hrow, hslice', hlt⟩
    exact ⟨⟨Or.inr hrow, Or.inr hslice'⟩, by rw [hslice', Nat.mod_eq_of_lt hlt]⟩

end Client.RectArgs

/-! ## The call -/

/-- The command that the driver is asked for. -/
def rectCommand (t : ServerState) (p : ReadBufferRect) : Command :=
  .clEnqueueReadBufferRect (objectAt t.mObjects p.mBufferID) true p.mBufferOrigin p.mHostOrigin
    p.mRegion p.mBufferRowPitch p.mBufferSlicePitch p.mHostRowPitch p.mHostSlicePitch

/-- A vector of zeros into which the driver has put the rectangle of a buffer. -/
def rectData (p : ReadBufferRect) (content : ℕ → UInt8) : Bytes :=
  (List.range (ServerInstance.rectSize p)).map ((ServerInstance.hostBox p).blit
    (fun x y z => content ((ServerInstance.bufferBox p).offset x y z)) fun _ => 0)

/-- The driver reads rectangles of a buffer with this content. -/
def RectDriver (D : Driver) (t : ServerState) (p : ReadBufferRect) (content : ℕ → UInt8) : Prop :=
  ∀ log q, q.command = rectCommand t p → (D log (.enqueue q)).err = CL_SUCCESS →
    storeInto (zeros (ServerInstance.rectSize p)) (D log (.enqueue q)).data = rectData p content

@[simp] theorem length_rectData (p : ReadBufferRect) (content : ℕ → UInt8) :
    (rectData p content).length = ServerInstance.rectSize p := by
  rw [rectData, List.length_map, List.length_range]

/-- What a prefix of the vector makes of the memory of the application. -/
theorem storeBytes_rectData (p : ReadBufferRect) (content : ℕ → UInt8) {n : ℕ}
    (hn : n ≤ ServerInstance.rectSize p) (mem : ℕ → UInt8) (i : ℕ) :
    storeBytes ((rectData p content).take n) mem i =
      if i < n then (ServerInstance.hostBox p).blit
        (fun x y z => content ((ServerInstance.bufferBox p).offset x y z)) (fun _ => 0) i
      else mem i := by
  have hlen : ((rectData p content).take n).length = n := by
    rw [List.length_take, length_rectData, min_eq_left hn]
  rw [storeBytes]
  split
  · rw [List.getD_eq_getElem _ _ (by rwa [hlen])]
    simp only [List.getElem_take, rectData, List.getElem_map, List.getElem_range]
  · rw [List.getD_eq_default _ _ (by omega)]

section Call

variable {D : Driver} {B : ServerBuild} {C : Build} {s : ClientState} {t : ServerState}
variable {r : RectArgs} {args : WaitArgs} {ids : List IDType}

theorem clEnqueueReadBufferRect_eq (queue buffer : Handle) (block : Bool) (r : RectArgs)
    (hids : args.eventIDs = .ok ids) :
    clEnqueueReadBufferRect C (some queue) (some buffer) block r args =
      catching CL_OUT_OF_HOST_MEMORY CL_DEVICE_NOT_AVAILABLE
        (writeCommand (r.packet queue buffer block args) args ids >>= fun _ =>
          awaitRead C args) := by
  simp only [clEnqueueReadBufferRect, withEvents, hids]
  rfl

/-- There is room for the vector, or the server stops. -/
theorem settles_resize {F : CallConfig (List Asked) → Prop} {n : ℕ} {k : Unit → ServerM Unit}
    {c : Side ClientState Exn Empty NoAnswer Ret} {u : Bytes} {log : List Asked}
    (hroom : n ≤ ServerInstance.vectorMaxSize → Settles D.environment (ServerInstance.serve B) F
      ⟨c, ⟨ServerInstance.iteration (k () >>= fun _ => pure true), t, []⟩, u, [], log⟩)
    (hnone : ServerInstance.vectorMaxSize < n →
      F ⟨c, ⟨.throw .other, t, []⟩, u, [], log⟩) :
    Settles D.environment (ServerInstance.serve B) F
      ⟨c, ⟨ServerInstance.iteration ((ServerInstance.resize 1 n >>= k) >>= fun _ => pure true),
        t, []⟩, u, [], log⟩ := by
  by_cases h : n ≤ ServerInstance.vectorMaxSize
  · rw [resize_bind h]
    exact hroom h
  · have hthrow : ServerInstance.resize 1 n = Prog.throw .other := if_neg (by rwa [one_mul])
    rw [hthrow]
    exact Settles.final (hnone (not_le.mp h))

/-- **The call**, with a list of events of any length.  `q` is what the driver is asked for, unless
there is no room for the vector.  Then the server has stopped. -/
theorem settles_clEnqueueReadBufferRect (hz : SameFormat B.zlib C.zlib) (queue buffer : Handle)
    (block : Bool) (hids : args.eventIDs = .ok ids) :
    ∃ q : Enqueue, q.command = rectCommand t (r.packet queue buffer block args) ∧
      ∀ {F : CallConfig (List Asked) → Prop} (_ : Stable D.environment (ServerInstance.serve B) F)
        {size : ℕ} (_ : ServerInstance.rectSize (r.packet queue buffer block args) = size)
        {P : Ret → ClientState → Prop} {data : Bytes}
        (_ : (storeInto (zeros size) (D [] (.enqueue q)).data).take
          (size % SizeT.range .uint32) = data),
        (ServerInstance.vectorMaxSize < size → ∀ x, Abandoned x → F x) →
        (NoID t (D [] (.enqueue q)).err (D [] (.enqueue q)).event → ∀ x, Abandoned x → F x) →
        (∀ x, Returned P x → F x) →
        ((D [] (.enqueue q)).err ≠ CL_SUCCESS → P (.code (D [] (.enqueue q)).err) s) →
        (size ≤ ServerInstance.vectorMaxSize → (D [] (.enqueue q)).err = CL_SUCCESS →
          ∀ s', (s' = s ∨ ∃ id, s' = withEvent s id) →
            P (.code CL_SUCCESS) (withData s' (some data))) →
        Settles D.environment (ServerInstance.serve B) F
          (start B (clEnqueueReadBufferRect C (some queue) (some buffer) block r args) s t []) := by
  have hK := context_catching CL_OUT_OF_HOST_MEMORY CL_DEVICE_NOT_AVAILABLE
  obtain ⟨events, rest, hevents⟩ := exists_settles_readEvents (E := D.environment) (B := B) t args
    ids
  refine ⟨⟨objectAt t.mObjects (GetID queue), _, events, args.event⟩, rfl, ?_⟩
  rintro F hF size rfl P data hdata hsize hno hP herror hdone
  rw [clEnqueueReadBufferRect_eq queue buffer block r hids]
  refine (settles_writeCommand hF hK).mpr ?_
  refine (settles_client_flushes hF hK).mpr ?_
  refine (settles_dispatches (h := ServerInstance.readBufferRect B) hF rfl rfl).mpr ?_
  refine (settles_server_meets_packet hF context_handler (by decide)).mpr ?_
  refine (hevents hF _ _ _).mpr (settles_resize (fun hroom => ?_) fun hlarge => hsize hlarge _ ?_)
  · refine (settles_server_get hF context_handler).mpr ?_
    refine (settles_server_get hF context_handler).mpr ?_
    refine (settles_server_ask hF context_handler).mpr ?_
    rintro a _ ⟨rfl, rfl⟩
    exact settles_readReplied hF hz hdata hP (fun _ => hno) herror
      (fun herr => hdone hroom herr s (Or.inl rfl))
      fun herr id => hdone hroom herr _ (Or.inr ⟨id, rfl⟩)
  · obtain ⟨k, s', hk⟩ := waits_event hK args .payload (decPayloadInto C.zlib .uint32)
      (fun data => store true (.ptr data) >>= fun _ => pure (.code CL_SUCCESS)) s
    exact ⟨1, k, s', .throw .other, t, rest, [], Nat.one_pos, Or.inr ⟨_, rfl⟩, by rw [← hk]⟩

/-- A successful read puts the rectangle of the buffer into that of the application, and leaves the
other bytes alone.  This holds for every content of the buffer and of the memory. -/
def ReadsRect (B : ServerBuild) (C : Build) (s : ClientState) (t : ServerState)
    (queue buffer : Handle) (block : Bool) (r : RectArgs) (args : WaitArgs) : Prop :=
  ∀ (D : Driver) (content mem : ℕ → UInt8),
    RectDriver D t (r.packet queue buffer block args) content →
      ∀ y, Relation.ReflTransGen (Step D.environment (ServerInstance.serve B))
          (start B (clEnqueueReadBufferRect C (some queue) (some buffer) block r args) s t []) y →
        y.client.prog = .ret (.code CL_SUCCESS) →
          r.hostBox.Puts (fun x y z => content (r.bufferBox.offset x y z)) mem
            (memoryAfter s y.client.st mem)

theorem memoryAfter_success {s' : ClientState} (h : s' = s ∨ ∃ id, s' = withEvent s id)
    (data : Bytes) (mem : ℕ → UInt8) :
    memoryAfter s (withData s' (some data)) mem = storeBytes data mem := by
  rcases h with rfl | ⟨id, rfl⟩
  · exact memoryAfter_withData _ data mem
  · exact memoryAfter_withEvent s id data mem

/-- The memory after a read of a valid rectangle. -/
theorem storeBytes_packet (hr : r.Valid) {queue buffer : Handle} {block : Bool}
    (content mem : ℕ → UInt8) (i : ℕ) :
    storeBytes ((rectData (r.packet queue buffer block args) content).take
        (ServerInstance.rectSize (r.packet queue buffer block args) % SizeT.range .uint32)) mem i =
      if i < r.hostBox.slice * r.hostBox.depth % 2 ^ 32 then
        r.hostBox.blit (fun x y z => content (r.bufferBox.offset x y z)) (fun _ => 0) i
      else mem i := by
  rw [storeBytes_rectData _ _ (Nat.mod_le _ _), RectArgs.rectSize_packet_mod hr,
    RectArgs.hostBox_packet hr, RectArgs.bufferBox_packet hr]

/-- A block is read as it should be. -/
theorem readsRect_of_contiguous (hz : SameFormat B.zlib C.zlib) (queue buffer : Handle)
    (block : Bool) (hr : r.Valid) (hids : args.eventIDs = .ok ids)
    (hblock : ServerInstance.rectSize (r.packet queue buffer block args) ≤
      ServerInstance.vectorMaxSize → r.Contiguous) :
    ReadsRect B C s t queue buffer block r args := by
  intro D content mem hD y hy hret
  obtain ⟨q, hq, hcall⟩ := settles_clEnqueueReadBufferRect (D := D) (C := C) (s := s) (t := t)
    (r := r) hz queue buffer block hids
  refine Settles.of_comes (P := fun ret s' => ret = .code CL_SUCCESS →
    r.hostBox.Puts (fun x y z => content (r.bufferBox.offset x y z)) mem (memoryAfter s s' mem))
    D.answers (hcall stable_comes rfl rfl (fun _ _ => Or.inr) (fun _ _ => Or.inr) (fun _ => Or.inl)
      (fun herr h => ?_) fun hroom herr s' hs' _ => ?_) hy hret rfl
  · exact absurd (Ret.code.inj h) herr
  · have hfills := (RectArgs.holds_iff_contiguous hr).mpr (hblock hroom)
    rw [memoryAfter_success hs', hD [] q hq herr, Box.puts_iff hr.pitched]
    funext i
    rw [storeBytes_packet hr]
    exact Box.copy_blit hr.pitched hfills 0 _ mem i

/-- There is an object that has an ID, or gets one. -/
theorem exists_assignID (objects : List Ptr) :
    ∃ p id objects', assignID objects p = some (id, objects') := by
  cases objects with
  | nil => exact ⟨0, 0, [0], rfl⟩
  | cons p objects =>
    have hfind : findID (p :: objects) p = some 0 := by
      rw [findID, List.take_succ_cons, List.idxOf?_cons, if_pos (beq_self_eq_true p)]
      rfl
    exact ⟨p, 0, p :: objects, by rw [assignID, hfind]⟩

/-- A driver that reads rectangles of a buffer full of one byte. -/
def constantDriver (p : ReadBufferRect) (event : Ptr) (v : UInt8) : Driver
  | _, .enqueue _ => ⟨CL_SUCCESS, event, rectData p fun _ => v⟩
  | _, c => refuse c

theorem rectDriver_constantDriver (t : ServerState) (p : ReadBufferRect) (event : Ptr)
    (v : UInt8) : RectDriver (constantDriver p event v) t p fun _ => v := by
  intro log q _ _
  exact storeInto_zeros (length_rectData p fun _ => v)

/-- What is read as it should be is a block. -/
theorem contiguous_of_readsRect (hz : SameFormat B.zlib C.zlib) {queue buffer : Handle}
    {block : Bool} (hr : r.Valid) (hids : args.eventIDs = .ok ids)
    (hroom : ServerInstance.rectSize (r.packet queue buffer block args) ≤
      ServerInstance.vectorMaxSize)
    (hreads : ReadsRect B C s t queue buffer block r args) : r.Contiguous := by
  have hbytes : (1 : UInt8) ≠ 0 := by decide
  refine (RectArgs.holds_iff_contiguous hr).mp (Box.fills_of_copy_blit hr.pitched hbytes ?_)
  intro v mem i
  obtain ⟨event, id, objects, hassign⟩ := exists_assignID t.mObjects
  obtain ⟨q, hq, hcall⟩ := settles_clEnqueueReadBufferRect
    (D := constantDriver (r.packet queue buffer block args) event v) (C := C) (s := s) (t := t)
    (r := r) hz queue buffer block hids
  have hdata := rectDriver_constantDriver t (r.packet queue buffer block args) event v [] q hq rfl
  have hreturns := hcall (P := fun ret s' => ret = .code CL_SUCCESS ∧ memoryAfter s s' mem =
      storeBytes ((rectData (r.packet queue buffer block args) fun _ => v).take
        (ServerInstance.rectSize (r.packet queue buffer block args) % SizeT.range .uint32)) mem)
    stable_returned rfl rfl (fun h => absurd hroom (not_le.mpr h))
    (fun hno => absurd (hassign.symm.trans hno.2) (by simp)) (fun _ h => h)
    (fun herr => absurd rfl herr) fun _ _ s' hs' => ⟨rfl, by rw [memoryAfter_success hs', hdata]⟩
  obtain ⟨y, hy, ret, hret, rfl, hmem⟩ := hreturns.exists_final (Driver.answers _)
  have hputs := hreads _ _ mem (rectDriver_constantDriver t _ event v) y hy hret
  rw [Box.puts_iff hr.pitched, hmem] at hputs
  rw [← hputs, storeBytes_packet hr]

/-- **When a rectangular read changes only the rectangle**: when there is nothing else in the
vector, or no vector. -/
theorem readsRect_iff (hz : SameFormat B.zlib C.zlib) (queue buffer : Handle) (block : Bool)
    (hr : r.Valid) (hids : args.eventIDs = .ok ids) :
    ReadsRect B C s t queue buffer block r args ↔
      ServerInstance.vectorMaxSize <
          ServerInstance.rectSize (r.packet queue buffer block args) ∨ r.Contiguous := by
  rw [← not_le, ← imp_iff_not_or]
  constructor
  · exact fun hreads hroom => contiguous_of_readsRect hz hr hids hroom hreads
  · exact fun hblock => readsRect_of_contiguous hz queue buffer block hr hids hblock

end Call

/-- A plane of two rows, without gaps. -/
theorem readsRect_plane :
    ReadsRect ⟨plainBuild, 210⟩ plainBuild ⟨[], 0, [], false, []⟩ ⟨[66, 77], none⟩
      ⟨0, 0, .queue⟩ ⟨1, 1, .memObject⟩ false ⟨(1, 0, 0), (0, 0, 0), (3, 2, 1), 4, 0, 0, 0⟩
      ⟨0, none, true⟩ :=
  (readsRect_iff .plain ⟨0, 0, .queue⟩ ⟨1, 1, .memObject⟩ false
    ⟨by decide, by decide, by decide, by decide, by decide, by decide, by decide, by decide,
      ⟨by decide, by decide⟩⟩ rfl).mpr (Or.inr (by decide))

/-- Rows of one byte with a pitch of two: the gap between them is overwritten. -/
theorem gap_overwritten :
    ¬ ReadsRect ⟨plainBuild, 210⟩ plainBuild ⟨[], 0, [], false, []⟩ ⟨[66, 77], none⟩
      ⟨0, 0, .queue⟩ ⟨1, 1, .memObject⟩ true ⟨(0, 0, 0), (0, 0, 0), (1, 2, 1), 0, 0, 2, 0⟩
      ⟨0, none, false⟩ := by
  intro h
  have hvalid : RectArgs.Valid ⟨(0, 0, 0), (0, 0, 0), (1, 2, 1), 0, 0, 2, 0⟩ :=
    ⟨by decide, by decide, by decide, by decide, by decide, by decide, by decide, by decide,
      ⟨by decide, by decide⟩⟩
  have hblock := contiguous_of_readsRect .plain hvalid rfl (by decide) h
  exact absurd hblock (by decide)

end RemoteCL

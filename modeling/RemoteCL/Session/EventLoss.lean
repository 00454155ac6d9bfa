import RemoteCL.Client.Callbacks
import RemoteCL.Client.Memory
import RemoteCL.Common.Unreliable
import RemoteCL.Server.Memory
import RemoteCL.Session.EventStream

/-!
# Losing the event stream

The event stream may be lost at any byte, and anything may be on it.  The thread of the client that
reads it has four ways out of its loop: the end of the stream and an unexpected packet let it
return, an exception in the dispatcher makes it reset the stream first, and an exception in the
`noexcept` functions of the callback objects ends the process.  On the server the `noexcept`
function is the one that sends a trigger.

Only one of the ways out leaves both sides as they ought to be, and the theorem `survives_iff` says
which streams lead there: those that end between the type of a trigger and the end of its index.
-/

namespace RemoteCL
namespace EventStream

open ByteStream Conversation Client

/-! ## The callback thread -/

/-- The state of a client whose event stream is open. -/
structure OpenClient extends ClientState where
  isOpen : hasEventStream = true

/-- How the callback thread ends: it leaves a state of the connection behind, or it takes the whole
client with it. -/
inductive CallbackThreadEnd where
  | ended (s : ClientState)
  | terminated

/-- A round of the thread on the bytes `u`. -/
def round (s : ClientState) (u : Bytes) : Option (Except Exn Bool × ClientState × Bytes) :=
  callbackThreadRound.deliver .socketError (fun _ => ()) s u

/-- The executions of `CallbackThreadMain`, when `u` is what still arrives on the event stream
before it is lost.  `states` are the states that the other threads have brought the connection into
when the thread begins its rounds. -/
inductive CallbackThreadMain (states : ℕ → OpenClient) : ℕ → Bytes → CallbackThreadEnd → Prop
  | again {n u s v x} (h : round (states n).toClientState u = some (.ok true, s, v))
      (hnext : CallbackThreadMain states (n + 1) v x) : CallbackThreadMain states n u x
  | leaves {n u s v} (h : round (states n).toClientState u = some (.ok false, s, v)) :
      CallbackThreadMain states n u (.ended s)
  | throws {n u e s v} (h : round (states n).toClientState u = some (.error e, s, v)) :
      CallbackThreadMain states n u .terminated

/-- A trigger that has arrived completely, for the callbacks of the state `s`. -/
def Complete (s : ClientState) (u v : Bytes) : Prop :=
  u.head? = some PacketType.callbackTrigger.toByte ∧
    ∃ (p : CallbackTriggerPacket) (w : Bytes), ReadsPacket u p w ∧
      match s.mCallbacks[p.mData.toNat]? with
      | some (.event _ _ _) => ∃ q : TriggerEventCallback, ReadsPacket w q v
      | _ => v = w

/-- The stream is lost while the index of a callback is read, after triggers that have arrived
completely. -/
inductive Interrupted (states : ℕ → OpenClient) : ℕ → Bytes → Prop
  | inside {n v} (hv : v.length < 4) :
      Interrupted states n (PacketType.callbackTrigger.toByte :: v)
  | after {n u v} (h : Complete (states n).toClientState u v)
      (hrest : Interrupted states (n + 1) v) : Interrupted states n u

/-! ### One round -/

/-- There is one packet to be found. -/
theorem ReadsPacket.unique {P : Type} [Wire P] {w v v' : Bytes} {p p' : P}
    (h : ReadsPacket w p v) (h' : ReadsPacket w p' v') : p = p' ∧ v = v' := by
  obtain ⟨b, x, rfl, -, -, hrun⟩ := h
  obtain ⟨b', x', hbx, -, -, hrun'⟩ := h'
  obtain ⟨rfl, rfl⟩ := List.cons.inj hbx
  rw [hrun, Option.some.injEq, Prod.mk.injEq] at hrun'
  exact hrun'

section Round

variable {σ C : Type} {A : C → Type} {answer : (c : C) → A c} {α : Type}

/-- `PacketStream::read` finds its packet, or it throws an exception. -/
theorem deliver_readPacket (P : Type) [Packet P] [Wire P] (s : σ) (u : Bytes) :
    (∃ p v, ReadsPacket (P := P) u p v ∧
      (PacketStream.readPacket P : Prog σ Exn C A P).deliver .socketError answer s u =
        some (.ok p, s, v)) ∨
    ((¬ ∃ p v, ReadsPacket (P := P) u p v) ∧ ∃ e v, e ≠ .terminate ∧
      (PacketStream.readPacket P : Prog σ Exn C A P).deliver .socketError answer s u =
        some (.error e, s, v)) := by
  have hK (k : UInt8 → Prog σ Exn C A P) := Prog.Context.bind (A := A) k
  rw [PacketStream.readPacket, PacketStream.read]
  cases u with
  | nil =>
    refine Or.inr ⟨?_, .socketError, [], by decide, ?_⟩
    · rintro ⟨p, v, b, w, hbw, -⟩
      cases hbw
    · exact Prog.deliver_context_of_eq (hK _) (Prog.deliver_ofReader_of_none rfl)
  | cons b w =>
    rw [Prog.deliver_context_of_eq (hK _)
      (Prog.deliver_ofReader_of_some (PacketStream.run_readType_cons b w))]
    show (∃ p v, _ ∧ Prog.deliver _ _ (ite _ _ _) _ _ = _) ∨
      (_ ∧ ∃ e v, _ ∧ Prog.deliver _ _ (ite _ _ _) _ _ = _)
    have hfinds {p : P} {v : Bytes} (h : ReadsPacket (b :: w) p v) :
        b ≠ PacketType.error.toByte ∧ b ≠ PacketType.terminate.toByte ∧
          (Wire.dec : Reader P).run w = some (p, v) := by
      obtain ⟨b', w', hbw, hrest⟩ := h
      obtain ⟨rfl, rfl⟩ := List.cons.inj hbw
      exact hrest
    by_cases herror : b = PacketType.error.toByte
    · rw [if_pos herror]
      refine Or.inr ⟨?_, ?_⟩
      · rintro ⟨p, v, h⟩
        exact (hfinds h).1 herror
      cases hrun : (Wire.dec : Reader Int32).run w with
      | none =>
        exact ⟨_, _, by decide, Prog.deliver_context_of_eq (Prog.Context.bind _)
          (Prog.deliver_ofReader_of_none hrun)⟩
      | some r =>
        exact ⟨.errorPacket r.1, _, by simp, Prog.deliver_context_of_eq (Prog.Context.bind _)
          (Prog.deliver_ofReader_of_some hrun)⟩
    by_cases hterm : b = PacketType.terminate.toByte
    · rw [if_neg herror, if_pos hterm]
      refine Or.inr ⟨?_, _, _, by decide, rfl⟩
      rintro ⟨p, v, h⟩
      exact (hfinds h).2.1 hterm
    rw [if_neg herror, if_neg hterm]
    cases hrun : (Wire.dec : Reader P).run w with
    | none =>
      refine Or.inr ⟨?_, _, _, by decide, Prog.deliver_ofReader_of_none hrun⟩
      rintro ⟨p, v, h⟩
      rw [hrun] at hfinds
      exact absurd (hfinds h).2.2 (by simp)
    | some r =>
      exact Or.inl ⟨r.1, r.2, ⟨b, w, rfl, herror, hterm, hrun⟩,
        Prog.deliver_ofReader_of_some hrun⟩

/-- The packet of a trigger is complete with four bytes behind its type. -/
theorem readsPacket_trigger_iff {v : Bytes} :
    (∃ (p : CallbackTriggerPacket) (w : Bytes),
      ReadsPacket (PacketType.callbackTrigger.toByte :: v) p w) ↔ 4 ≤ v.length := by
  constructor
  · rintro ⟨p, w, b, v', hbv, -, -, hrun⟩
    obtain ⟨-, rfl⟩ := List.cons.inj hbv
    by_contra hlen
    have hnone : (Wire.dec : Reader CallbackTriggerPacket).run v = none := if_neg hlen
    rw [hnone] at hrun
    cases hrun
  · intro hlen
    have hrun : (Wire.dec : Reader CallbackTriggerPacket).run v =
        some (⟨UInt32.ofNat (leValue (v.take 4))⟩, v.drop 4) := if_pos hlen
    exact ⟨_, _, _, _, rfl, by decide, by decide, hrun⟩

theorem deliver_trigger_event (mEvent : Handle) (mCallback mUserData : ℕ) (s : ClientState)
    (u : Bytes) :
    (∃ (q : TriggerEventCallback) (v : Bytes), ReadsPacket u q v ∧
      (trigger (.event mEvent mCallback mUserData)).deliver .socketError (fun _ => ()) s u =
        some (.ok (), s, v)) ∨
    ((¬ ∃ (q : TriggerEventCallback) (v : Bytes), ReadsPacket u q v) ∧ ∃ v,
      (trigger (.event mEvent mCallback mUserData)).deliver .socketError (fun _ => ()) s u =
        some (.error .terminate, s, v)) := by
  have hK : Prog.Context fun p : CallbackM TriggerEventCallback => PacketStream.noexcept (p >>=
      fun code => Prog.ask (UserCall.event mCallback mEvent code.mData mUserData)) :=
    (Prog.Context.bind _).comp (Prog.Context.tryCatch _)
  rcases deliver_readPacket TriggerEventCallback s u with
    ⟨q, v, hreads, hdeliver⟩ | ⟨hnot, e, v, -, hdeliver⟩
  · exact Or.inl ⟨q, v, hreads, Prog.deliver_context_of_eq hK hdeliver⟩
  · exact Or.inr ⟨hnot, v, Prog.deliver_context_of_eq hK hdeliver⟩

/-- What follows the packet of a trigger. -/
def dispatch (index : CallbackTriggerPacket) : CallbackM Bool := do
  let s ← Prog.getState
  match s.mCallbacks[index.mData.toNat]? with
  | none => pure true
  | some callback =>
    trigger callback
    pure true

theorem dispatch_eq (index : CallbackTriggerPacket) : dispatch index = Prog.get fun s =>
    (s.mCallbacks[index.mData.toNat]?).elim (pure true) fun callback =>
      trigger callback >>= fun _ => pure true := by
  refine congrArg Prog.get (funext fun s => ?_)
  cases hcallback : s.mCallbacks[index.mData.toNat]? <;> simp only [Prog.bind, hcallback] <;> rfl

/-- A stream that does not go on with a trigger ends the thread. -/
theorem round_of_ne {s : ClientState} {u : Bytes}
    (h : u.head? ≠ some PacketType.callbackTrigger.toByte) :
    round s u = some (.ok false, s, u) := by
  have hhead : round s u = ((if u.head?.getD PacketType.terminate.toByte =
      PacketType.terminate.toByte then pure false
      else if u.head?.getD PacketType.terminate.toByte = PacketType.callbackTrigger.toByte then
        PacketStream.readPacket CallbackTriggerPacket >>= dispatch
      else pure false : CallbackM Bool).tryCatch onCallbackThread).deliver .socketError
        (fun _ => ()) s u := rfl
  rw [hhead]
  split
  · rfl
  · rename_i hterm
    rw [if_neg]
    · rfl
    · intro hbyte
      cases u with
      | nil => exact hterm rfl
      | cons b v => exact h (congrArg some hbyte)

/-- A round on a stream that goes on with a trigger. -/
theorem round_cons (s : ClientState) (v : Bytes) :
    round s (PacketType.callbackTrigger.toByte :: v) =
      ((PacketStream.readPacket CallbackTriggerPacket >>= dispatch).tryCatch
        onCallbackThread).deliver .socketError (fun _ => ()) s
          (PacketType.callbackTrigger.toByte :: v) := rfl

section Callback

variable {s : ClientState} {p : CallbackTriggerPacket} {v w x : Bytes}

/-- The dispatcher looks the callback object up. -/
theorem deliver_dispatch {callback : Option Callback}
    (hcallback : s.mCallbacks[p.mData.toNat]? = callback) :
    ((dispatch p).tryCatch onCallbackThread).deliver .socketError (fun _ => ()) s w =
      ((callback.elim (pure true) fun callback => trigger callback >>= fun _ => pure true :
        CallbackM Bool).tryCatch onCallbackThread).deliver .socketError (fun _ => ()) s w := by
  rw [dispatch_eq, Prog.tryCatch, Prog.deliver, hcallback]

variable (hreads : ReadsPacket (PacketType.callbackTrigger.toByte :: v) p w)

include hreads in
/-- Behind the index of an event callback comes the status. -/
theorem complete_event_iff {mEvent : Handle} {mCallback mUserData : ℕ}
    (hcallback : s.mCallbacks[p.mData.toNat]? = some (.event mEvent mCallback mUserData)) :
    Complete s (PacketType.callbackTrigger.toByte :: v) x ↔
      ∃ q : TriggerEventCallback, ReadsPacket w q x := by
  constructor
  · rintro ⟨-, p', w', hreads', h⟩
    obtain ⟨rfl, rfl⟩ := hreads.unique hreads'
    rw [hcallback] at h
    exact h
  · intro h
    refine ⟨rfl, p, w, hreads, ?_⟩
    rw [hcallback]
    exact h

include hreads in
/-- Behind any other index comes nothing. -/
theorem complete_of_ne (hcallback : ∀ mEvent mCallback mUserData,
    s.mCallbacks[p.mData.toNat]? ≠ some (.event mEvent mCallback mUserData)) :
    Complete s (PacketType.callbackTrigger.toByte :: v) w := by
  refine ⟨rfl, p, w, hreads, ?_⟩
  split
  · exact absurd ‹_› (hcallback _ _ _)
  · rfl

end Callback

/-- What a round of the thread may come to. -/
theorem round_cases (s : ClientState) (u : Bytes) :
    (u.head? ≠ some PacketType.callbackTrigger.toByte ∧ round s u = some (.ok false, s, u)) ∨
    (∃ v, u = PacketType.callbackTrigger.toByte :: v ∧ v.length < 4 ∧
      ∃ w, round s u = some (.ok false, { s with hasEventStream := false }, w)) ∨
    (∃ v, Complete s u v ∧ round s u = some (.ok true, s, v)) ∨
    ((¬ ∃ v, Complete s u v) ∧ (∀ v, u = PacketType.callbackTrigger.toByte :: v → 4 ≤ v.length) ∧
      ∃ w, round s u = some (.error .terminate, s, w)) := by
  by_cases hhead : u.head? = some PacketType.callbackTrigger.toByte
  swap
  · exact Or.inl ⟨hhead, round_of_ne hhead⟩
  obtain ⟨v, rfl⟩ : ∃ v, u = PacketType.callbackTrigger.toByte :: v := by
    cases u with
    | nil => cases hhead
    | cons b v => exact ⟨v, congrArg (· :: v) (Option.some.inj hhead)⟩
  refine Or.inr ?_
  have hK : Prog.Context fun p : CallbackM CallbackTriggerPacket =>
      (p >>= dispatch).tryCatch onCallbackThread :=
    (Prog.Context.bind _).comp (Prog.Context.tryCatch _)
  rcases deliver_readPacket CallbackTriggerPacket s (PacketType.callbackTrigger.toByte :: v) with
    ⟨p, w, hreads, hdeliver⟩ | ⟨hnot, e, w, he, hdeliver⟩
  · -- the index has arrived
    have hlen : 4 ≤ v.length := readsPacket_trigger_iff.mp ⟨p, w, hreads⟩
    have hround : round s (PacketType.callbackTrigger.toByte :: v) =
        ((dispatch p).tryCatch onCallbackThread).deliver .socketError (fun _ => ()) s w := by
      rw [round_cons]
      exact Prog.deliver_context_of_eq hK hdeliver
    refine Or.inr ?_
    rcases hcallback : s.mCallbacks[p.mData.toNat]? with - | callback
    · rw [deliver_dispatch hcallback] at hround
      exact Or.inl ⟨w, complete_of_ne hreads (by simp [hcallback]), hround⟩
    rw [deliver_dispatch hcallback] at hround
    cases callback with
    | program mProgram mCallback mUserData =>
      exact Or.inl ⟨w, complete_of_ne hreads (by simp [hcallback]), hround⟩
    | event mEvent mCallback mUserData =>
      have hcomplete {x : Bytes} := complete_event_iff (x := x) hreads hcallback
      have hL : Prog.Context fun p : CallbackM Unit =>
          (p >>= fun _ => pure true).tryCatch onCallbackThread :=
        (Prog.Context.bind _).comp (Prog.Context.tryCatch _)
      rcases deliver_trigger_event mEvent mCallback mUserData s w with
        ⟨q, x, hreads, hdeliver⟩ | ⟨hnot, x, hdeliver⟩
      · exact Or.inl ⟨x, hcomplete.mpr ⟨q, hreads⟩,
          hround.trans (Prog.deliver_context_of_eq hL hdeliver)⟩
      · refine Or.inr ⟨?_, fun v' hv => ?_, x,
          hround.trans (Prog.deliver_context_of_eq hL hdeliver)⟩
        · rintro ⟨y, hy⟩
          obtain ⟨q, hq⟩ := hcomplete.mp hy
          exact hnot ⟨q, y, hq⟩
        · rw [← (List.cons.inj hv).2]
          exact hlen
  · refine Or.inl ⟨v, rfl, ?_, w, ?_⟩
    · rw [readsPacket_trigger_iff] at hnot
      exact Nat.lt_of_not_le hnot
    · rw [round_cons, Prog.deliver_context_of_eq hK hdeliver]
      cases e with
      | terminate => exact absurd rfl he
      | _ => rfl

end Round

/-! ### The thread as a whole -/

theorem Complete.length_lt {s : ClientState} {u v : Bytes} (h : Complete s u v) :
    v.length < u.length := by
  have hshrinks {P : Type} [Wire P] {w x : Bytes} {p : P} (h : ReadsPacket w p x) :
      x.length < w.length := by
    obtain ⟨b, y, rfl, -, -, hrun⟩ := h
    rw [List.length_cons]
    exact Nat.lt_succ_of_le (Reader.length_le_of_run hrun)
  obtain ⟨-, p, w, hreads, h⟩ := h
  have hw := hshrinks hreads
  split at h
  · obtain ⟨q, hq⟩ := h
    exact (hshrinks hq).trans hw
  · rwa [h]

/-- The thread does not run for ever. -/
theorem CallbackThreadMain.exists (states : ℕ → OpenClient) (n : ℕ) (u : Bytes) :
    ∃ x, CallbackThreadMain states n u x := by
  induction hlen : u.length using Nat.strong_induction_on generalizing n u with
  | _ m ih =>
    rcases round_cases (states n).toClientState u with
      ⟨-, h⟩ | ⟨v, -, -, w, h⟩ | ⟨v, hv, h⟩ | ⟨-, -, w, h⟩
    · exact ⟨_, .leaves h⟩
    · exact ⟨_, .leaves h⟩
    · obtain ⟨x, hx⟩ := ih v.length (hlen ▸ hv.length_lt) (n + 1) v rfl
      exact ⟨x, .again h hx⟩
    · exact ⟨_, .throws h⟩

theorem Complete.unique {s : ClientState} {u v v' : Bytes} (h : Complete s u v)
    (h' : Complete s u v') : v = v' := by
  obtain ⟨-, p, w, hreads, h⟩ := h
  obtain ⟨-, p', w', hreads', h'⟩ := h'
  obtain ⟨rfl, rfl⟩ := hreads.unique hreads'
  split at h
  · obtain ⟨q, hq⟩ := h
    rename_i hcallback
    rw [hcallback] at h'
    obtain ⟨q', hq'⟩ := h'
    exact (hq.unique hq').2
  · rename_i hother
    split at h'
    · rename_i hcallback
      exact absurd hcallback (hother _ _ _)
    · rw [h, h']

/-- A trigger that is complete has its index. -/
theorem Complete.four_le {s : ClientState} {v w : Bytes}
    (h : Complete s (PacketType.callbackTrigger.toByte :: v) w) : 4 ≤ v.length := by
  obtain ⟨-, p, w, hreads, -⟩ := h
  exact readsPacket_trigger_iff.mp ⟨p, w, hreads⟩

theorem round_of_inside (s : ClientState) {v : Bytes} (hv : v.length < 4) :
    ∃ w, round s (PacketType.callbackTrigger.toByte :: v) =
      some (.ok false, { s with hasEventStream := false }, w) := by
  rcases round_cases s (PacketType.callbackTrigger.toByte :: v) with
    ⟨hhead, -⟩ | ⟨v', -, -, w, h⟩ | ⟨v', hcomplete, -⟩ | ⟨-, hlen, -⟩
  · exact absurd rfl hhead
  · exact ⟨w, h⟩
  · exact absurd hcomplete.four_le (Nat.not_le_of_lt hv)
  · exact absurd (hlen v rfl) (Nat.not_le_of_lt hv)

theorem round_of_complete {s : ClientState} {u v : Bytes} (hv : Complete s u v) :
    round s u = some (.ok true, s, v) := by
  rcases round_cases s u with ⟨hhead, -⟩ | ⟨v', rfl, hlen, -⟩ | ⟨v', hv', h⟩ | ⟨hnot, -⟩
  · exact absurd hv.1 hhead
  · exact absurd hv.four_le (Nat.not_le_of_lt hlen)
  · rwa [hv.unique hv']
  · exact absurd ⟨v, hv⟩ hnot

/-- Where the stream must be interrupted, seen from one round. -/
theorem interrupted_iff {states : ℕ → OpenClient} {n : ℕ} {u : Bytes} :
    Interrupted states n u ↔
      (∃ v, u = PacketType.callbackTrigger.toByte :: v ∧ v.length < 4) ∨
        ∃ v, Complete (states n).toClientState u v ∧ Interrupted states (n + 1) v := by
  constructor
  · rintro (hv | ⟨h, hrest⟩)
    · exact Or.inl ⟨_, rfl, hv⟩
    · exact Or.inr ⟨_, h, hrest⟩
  · rintro (⟨v, rfl, hv⟩ | ⟨v, h, hrest⟩)
    · exact .inside hv
    · exact .after h hrest

/-- The thread leaves the connection without an event stream, and everything else as it is, if and
only if its stream was interrupted while an index was read. -/
theorem CallbackThreadMain.ended_iff {states : ℕ → OpenClient} {n : ℕ} {u : Bytes}
    {x : CallbackThreadEnd} (h : CallbackThreadMain states n u x) :
    (∃ m, x = .ended { (states m).toClientState with hasEventStream := false }) ↔
      Interrupted states n u := by
  induction h with
  | @again n u s v x h hnext ih =>
    rw [ih, interrupted_iff (n := n)]
    constructor
    · intro hrest
      rcases round_cases (states n).toClientState u with
        ⟨-, h'⟩ | ⟨v', -, -, w, h'⟩ | ⟨v', hv, h'⟩ | ⟨-, -, w, h'⟩
      · cases h.symm.trans h'
      · cases h.symm.trans h'
      · cases h.symm.trans h'
        exact Or.inr ⟨v, hv, hrest⟩
      · cases h.symm.trans h'
    · rintro (⟨v', rfl, hv⟩ | ⟨v', hv, hrest⟩)
      · obtain ⟨w, h'⟩ := round_of_inside (states n).toClientState hv
        cases h.symm.trans h'
      · cases h.symm.trans (round_of_complete hv)
        exact hrest
  | @leaves n u s v h =>
    rw [interrupted_iff]
    constructor
    · rintro ⟨m, hm⟩
      have hclosed : s.hasEventStream = false := by
        rw [CallbackThreadEnd.ended.inj hm]
      rcases round_cases (states n).toClientState u with
        ⟨-, h'⟩ | ⟨v', rfl, hv, -⟩ | ⟨v', hv, h'⟩ | ⟨-, -, w, h'⟩
      · cases h.symm.trans h'
        exact absurd hclosed (by rw [(states n).isOpen]; decide)
      · exact Or.inl ⟨v', rfl, hv⟩
      · cases h.symm.trans h'
      · cases h.symm.trans h'
    · rintro (⟨v', rfl, hv⟩ | ⟨v', hv, hrest⟩)
      · obtain ⟨w, h'⟩ := round_of_inside (states n).toClientState hv
        cases h.symm.trans h'
        exact ⟨n, rfl⟩
      · cases h.symm.trans (round_of_complete hv)
  | @throws n u e s v h =>
    rw [interrupted_iff]
    refine iff_of_false (fun ⟨m, hm⟩ => by cases hm) ?_
    rintro (⟨v', rfl, hv⟩ | ⟨v', hv, hrest⟩)
    · obtain ⟨w, h'⟩ := round_of_inside (states n).toClientState hv
      cases h.symm.trans h'
    · cases h.symm.trans (round_of_complete hv)

/-! ## The server -/

/-- What the driver's threads do to the server. -/
inductive ServerEnd where
  | running (s : ServerState)
  | terminated

section Server

variable (E : Unit → (c : ServerCall) → Ans c → Unit → Prop)

/-- The executions of the calls of `triggerEventCallback`, which take the mutex one after the other,
with the faults they meet.  `w` is the number of bytes in the write cache of the event stream. -/
inductive TriggerThreads :
    ServerState → ℕ → List (Int32 × IDType) → ServerEnd → List (Fault Exn) → Prop
  | done {s w} : TriggerThreads s w [] (.running s) []
  | trigger {s w code callbackID ts s' u' w' fs x gs}
      (h : Prog.Faulty medium E none (ServerInstance.triggerEventCallback code callbackID)
        s [] w () (.done (.ok ()) s' u' w' ()) fs)
      (hnext : TriggerThreads s' w' ts x gs) :
      TriggerThreads s w ((code, callbackID) :: ts) x (fs ++ gs)
  | throws {s w code callbackID ts e s' u' w' fs}
      (h : Prog.Faulty medium E none (ServerInstance.triggerEventCallback code callbackID)
        s [] w () (.done (.error e) s' u' w' ()) fs) :
      TriggerThreads s w ((code, callbackID) :: ts) .terminated fs
  | killed {s w code callbackID ts fs}
      (h : Prog.Faulty medium E none (ServerInstance.triggerEventCallback code callbackID)
        s [] w () (.never .killed ()) fs) :
      TriggerThreads s w ((code, callbackID) :: ts) .terminated fs

variable {E}

/-- A trigger whose bytes cannot be sent ends the server, with `std::terminate` or by a signal, and
one whose bytes can be sent changes nothing. -/
theorem faulty_triggerEventCallback {code : Int32} {callbackID : IDType} {s : ServerState}
    {u : Bytes} {w : ℕ} {o : Stop ServerState Exn Unit Unit} {fs : List (Fault Exn)}
    (h : Prog.Faulty medium E none (ServerInstance.triggerEventCallback code callbackID)
      s u w () o fs) :
    (∃ w', o = .done (.ok ()) s u w' () ∧ fs = []) ∨
      ((∃ w', o = .done (.error .terminate) s u w' ()) ∨ o = .never .killed ()) ∧ fs ≠ [] := by
  have hfails {w : ℕ} {o : Stop ServerState Exn Unit Unit} {fs : List (Fault Exn)}
      (h : Prog.Faulty medium E (some .socketError) (Prog.throw .terminate) s u w () o fs) :
      ∃ w', o = .done (.error .terminate) s u w' () := by
    cases h
    exact ⟨w, rfl⟩
  have hflush {w : ℕ} {o : Stop ServerState Exn Unit Unit} {fs : List (Fault Exn)}
      (h : Prog.Faulty medium E none (PacketStream.noexcept PacketStream.flush) s u w () o fs) :
      (∃ w', o = .done (.ok ()) s u w' () ∧ fs = []) ∨
        ((∃ w', o = .done (.error .terminate) s u w' ()) ∨ o = .never .killed ()) ∧ fs ≠ [] := by
    cases h with
    | flush h =>
      cases h
      exact Or.inl ⟨0, rfl, rfl⟩
    | flushFails _ h => exact Or.inr ⟨Or.inl (hfails h), List.cons_ne_nil _ _⟩
    | flushKills => exact Or.inr ⟨Or.inr rfl, List.cons_ne_nil _ _⟩
  have hwrite {b : Bytes} {p : ServerM Unit} {w : ℕ} {o : Stop ServerState Exn Unit Unit}
      {fs : List (Fault Exn)}
      (h : Prog.Faulty medium E none (PacketStream.noexcept (Prog.send b >>= fun _ => p))
        s u w () o fs) :
      (∃ w', Prog.Faulty medium E none (PacketStream.noexcept p) s u w' () o fs) ∨
        ((∃ w', o = .done (.error .terminate) s u w' ()) ∨ o = .never .killed ()) ∧ fs ≠ [] := by
    cases h with
    | write _ h => exact Or.inl ⟨_, h⟩
    | writeSpills _ _ h => exact Or.inl ⟨_, h⟩
    | writeFails _ h => exact Or.inr ⟨Or.inl (hfails h), List.cons_ne_nil _ _⟩
    | writeKills => exact Or.inr ⟨Or.inr rfl, List.cons_ne_nil _ _⟩
  cases h with
  | get h =>
    by_cases hclosed : s.mEventStream.isNone
    · dsimp only [Prog.bind] at h
      rw [if_pos hclosed] at h
      cases h
      exact Or.inl ⟨w, rfl, rfl⟩
    · dsimp only [Prog.bind] at h
      rw [if_neg hclosed] at h
      rcases hwrite h with ⟨w₁, h⟩ | h
      · rcases hwrite h with ⟨w₂, h⟩ | h
        · exact hflush h
        · exact Or.inr h
      · exact Or.inr h

/-- The server survives if and only if all triggers can be sent. -/
theorem TriggerThreads.running_iff {s : ServerState} {w : ℕ} {ts : List (Int32 × IDType)}
    {y : ServerEnd} {fs : List (Fault Exn)} (h : TriggerThreads E s w ts y fs) :
    y = .running s ↔ fs = [] := by
  induction h with
  | done => exact iff_of_true rfl rfl
  | trigger h _ ih =>
    rcases faulty_triggerEventCallback h with ⟨w', ho, rfl⟩ | ⟨⟨w', ho⟩ | ho, -⟩
    · cases ho
      exact ih
    · cases ho
    · cases ho
  | throws h | killed h =>
    rcases faulty_triggerEventCallback h with ⟨w', ho, -⟩ | ⟨-, hfs⟩
    · cases ho
    · exact iff_of_false (fun h => by cases h) hfs

end Server

/-! ## Both sides -/

/-- The application cannot register callbacks any more: `clSetEventCallback` says so, and sends
nothing. -/
def Refuses (s : ClientState) : Prop :=
  ∀ (event : Handle) (command_exec_callback_type : UInt32) (pfn_notify user_data : ℕ) (u : Bytes)
    (w : ℕ) (o : Stop ClientState Exn Ret Unit) (fs : List (Fault Exn)),
    Prog.Faulty medium (fun _ c _ _ => Empty.elim c) none
      (clSetEventCallback (some event) command_exec_callback_type (some pfn_notify) user_data)
      s u w () o fs → o = .done (.ok (.code CL_INVALID_OPERATION)) s u w () ∧ fs = []

theorem refuses_of_closed {s : ClientState} (h : s.hasEventStream = false) : Refuses s := by
  intro event type pfn_notify user_data u w o fs hrun
  have hclosed : (!s.hasEventStream) = true := by
    rw [h]
    rfl
  cases hrun with
  | get hrun =>
    dsimp only [Prog.bind] at hrun
    rw [if_pos hclosed] at hrun
    cases hrun
    exact ⟨rfl, rfl⟩

/-- What is left when the event stream is lost: both processes run on, the callback thread has
changed nothing that the API functions work with except that there is no event stream, the server's
threads have changed nothing at all, and no later registration is accepted. -/
structure Survives (states : ℕ → OpenClient) (x : CallbackThreadEnd) (s : ServerState)
    (y : ServerEnd) : Prop where
  server : y = .running s
  client : ∃ n, x = .ended { (states n).toClientState with hasEventStream := false }
  refuses : ∀ t, x = .ended t → ∀ later : ClientState,
    later.hasEventStream = t.hasEventStream → Refuses later

/-- **When losing the event stream is survived**: if all triggers could be sent, and the stream was
lost while the client read the index of a callback.  The other bytes at which the stream may be
lost, and all unexpected packets, leave a connection behind that still accepts registrations, or
end the client. -/
theorem survives_iff (E : Unit → (c : ServerCall) → Ans c → Unit → Prop)
    (states : ℕ → OpenClient) (u : Bytes) (s : ServerState) (ts : List (Int32 × IDType)) :
    (∃ x, CallbackThreadMain states 0 u x) ∧
      ∀ x y fs, CallbackThreadMain states 0 u x → TriggerThreads E s 0 ts y fs →
        (Survives states x s y ↔ Interrupted states 0 u ∧ fs = []) := by
  refine ⟨CallbackThreadMain.exists states 0 u, fun x y fs hclient hserver => ?_⟩
  rw [← hclient.ended_iff, ← hserver.running_iff]
  constructor
  · exact fun h => ⟨h.client, h.server⟩
  · rintro ⟨⟨n, hx⟩, hy⟩
    refine ⟨hy, ⟨n, hx⟩, fun t ht later hlater => refuses_of_closed ?_⟩
    rw [hlater, ← CallbackThreadEnd.ended.inj (hx.symm.trans ht)]

/-- A client without objects, whose event stream is open. -/
def emptyClient : OpenClient := ⟨⟨[], 0, [], true, []⟩, rfl⟩

/-- A trigger is sent, and the stream is lost before the first byte of its index arrives. -/
theorem survives_iff_type_only :
    Survives (fun _ => emptyClient) (.ended { emptyClient.toClientState with
      hasEventStream := false }) ⟨[], some []⟩ (.running ⟨[], some []⟩) := by
  have hclient : CallbackThreadMain (fun _ => emptyClient) 0
      [PacketType.callbackTrigger.toByte]
      (.ended { emptyClient.toClientState with hasEventStream := false }) := by
    obtain ⟨w, hw⟩ := round_of_inside emptyClient.toClientState (v := []) (by decide)
    exact .leaves hw
  have hserver : TriggerThreads (fun _ _ _ _ => True) ⟨[], some []⟩ 0 [(CL_SUCCESS, 0)]
      (.running ⟨[], some []⟩) ([] ++ []) :=
    .trigger (.get (.write (by decide) (.write (by decide) (.flush .ret)))) .done
  exact ((survives_iff _ _ _ _ _).2 _ _ _ hclient hserver).mpr ⟨.inside (by decide), rfl⟩

/-- A server that closes the event stream between two triggers leaves the client with a connection
that still accepts registrations. -/
theorem survives_fails_on_close :
    ¬ ∀ (E : Unit → (c : ServerCall) → Ans c → Unit → Prop) (states : ℕ → OpenClient) (u : Bytes)
      (s : ServerState) (ts : List (Int32 × IDType)) (x : CallbackThreadEnd) (y : ServerEnd)
      (fs : List (Fault Exn)), CallbackThreadMain states 0 u x → TriggerThreads E s 0 ts y fs →
        Survives states x s y := by
  intro h
  have hclient : CallbackThreadMain (fun _ => emptyClient) 0 []
      (.ended emptyClient.toClientState) := .leaves (v := []) rfl
  obtain ⟨n, hn⟩ := (h (fun _ _ _ _ => True) _ _ ⟨[], some []⟩ [] _ _ _ hclient .done).client
  cases CallbackThreadEnd.ended.inj hn

end EventStream
end RemoteCL

import RemoteCL.Session.CallbackIDs

/-!
# The status that a callback sees

The status of an event is a `cl_int`, and the errors are the negative ones.  The packet that has it
on the event stream is one for an `IDType`: the status is narrowed to 16 bits when the packet is
made, and extended by zeros when it is read.  `statusRead_narrow_iff` says what survives that, and
`statuses_seen_iff` what the user's functions see in a run.
-/

namespace RemoteCL
namespace CallbackIDs

open ByteStream Client
open EventStream (CallbackObject narrow)

/-- The status that a packet is read as. -/
def statusRead (code : IDType) : Int32 := code.toUInt32.toInt32

theorem toInt_toInt32 (u : UInt32) :
    u.toInt32.toInt = if 2 * u.toNat < 2 ^ 32 then (u.toNat : ℤ) else (u.toNat : ℤ) - 2 ^ 32 :=
  BitVec.toInt_eq_toNat_cond u.toBitVec

/-- **A status survives if it is not negative, and below 65536.** -/
theorem statusRead_narrow_iff (code : Int32) :
    statusRead (narrow code) = code ↔ 0 ≤ code.toInt ∧ code.toInt < 65536 := by
  have hcode : code = code.toUInt32.toInt32 := rfl
  generalize code.toUInt32 = u at hcode
  subst hcode
  have hinj : u.toUInt16.toUInt32.toInt32 = u.toInt32 ↔ u.toUInt16.toUInt32 = u :=
    ⟨fun h => congrArg Int32.toUInt32 h, fun h => congrArg UInt32.toInt32 h⟩
  have hlt := u.toNat_lt
  refine hinj.trans ?_
  rw [← UInt32.toNat_inj, UInt16.toNat_toUInt32, UInt32.toNat_toUInt16, toInt_toInt32]
  split <;> omega

/-- The status that the user's function is called with. -/
def statusOf : UserCall → Option Int32
  | .event _ _ code _ => some (statusRead code)
  | .program _ _ _ => none

/-- The status that the driver has given. -/
def Trigger.status : Trigger → Option Int32
  | event _ code => some code
  | program _ => none

/-- The status is one of those that survive. -/
def Trigger.Representable : Trigger → Prop
  | event _ code => 0 ≤ code.toInt ∧ code.toInt < 65536
  | program _ => True

/-- The functions that have been called are those of the callbacks that the driver has triggered,
and each has been called with the driver's status. -/
def SeeStatuses (x : System) : Prop :=
  x.stream.invoked.map (fun i => some (i.callBack, statusOf i.call)) <+:
    x.stream.triggers.map fun t =>
      x.connection.mCallbacks[t.number]?.map fun callBack => (callBack, t.status)

variable {x : System}

/-- The trigger of a registered callback. -/
def Trigger.Registered (mCallbacks : List CallbackObject) (t : Trigger) : Prop :=
  ∃ callBack, mCallbacks[t.number]? = some callBack ∧ fnOf callBack.callback = t.fn

/-- What the function of a trigger is called with, and what it ought to be. -/
theorem Trigger.Registered.seen_iff {cs : List CallbackObject} {t : Trigger}
    (h : t.Registered cs) :
    (t.invocation cs).map (fun i => (i.callBack, statusOf i.call)) =
      cs[t.number]?.map (fun callBack => (callBack, t.status)) ↔ t.Representable := by
  obtain ⟨⟨addr, callback⟩, hcallback, hfn⟩ := h
  rw [invocation, hcallback, Option.map_some, Option.map_some, Option.map_some,
    Option.some.injEq, Prod.mk.injEq, and_iff_right rfl]
  cases t with
  | event n code =>
    cases callback with
    | event => exact (Option.some_inj).trans (statusRead_narrow_iff code)
    | program => cases hfn
  | program n =>
    cases callback with
    | event => cases hfn
    | program => exact iff_of_true rfl trivial

/-- **Statuses are seen in exactly those runs** in which those that have been dispatched survive, as
long as callbacks are identified. -/
theorem statuses_seen_iff (hx : Reachable x) (hnarrow : Narrow x) : SeeStatuses x ↔
    ∀ t ∈ x.stream.triggers.take x.stream.invoked.length, t.Representable := by
  have hdispatching := hx.dispatching hnarrow
  have hregistered : ∀ t ∈ x.stream.triggers, t.Registered x.connection.mCallbacks := by
    intro t ht
    obtain ⟨b, hb, hnumber, hfn⟩ := hdispatching.registered t ht
    obtain ⟨-, callBack, hcallback, hkind⟩ := hx.registering.names_blocks b hb
    exact ⟨callBack, hnumber ▸ hcallback, hkind.trans hfn⟩
  obtain ⟨before, rest, hsplit, hdone, -⟩ := hdispatching.dispatched
  have hlen : x.stream.invoked.length = before.length := by
    simpa using congrArg List.length hdone
  have hseen := congrArg
    (List.map (Option.map fun i : Invocation => (i.callBack, statusOf i.call))) hdone
  rw [List.map_map, List.map_map] at hseen
  have htake : x.stream.triggers.take x.stream.invoked.length = before := by
    rw [hlen, hsplit, List.take_left]
  rw [SeeStatuses, htake, hsplit, List.map_append]
  constructor
  · intro hgrows t ht
    have hsame := List.prefix_of_prefix_length_le (hseen ▸ hgrows) (List.prefix_append _ _)
      (by rw [List.length_map, List.length_map])
    have hall := hsame.eq_of_length (by rw [List.length_map, List.length_map])
    refine (hregistered t ?_).seen_iff.mp (List.map_inj_left.mp hall t ht)
    rw [hsplit]
    exact List.mem_append_left _ ht
  · intro hall
    have hmap : before.map _ = before.map _ := List.map_congr_left fun t ht =>
      (hregistered t (by rw [hsplit]; exact List.mem_append_left _ ht)).seen_iff.mpr (hall t ht)
    rw [← hmap]
    exact hseen ▸ List.prefix_append _ _

/-- The command of the event has run. -/
theorem statuses_seen_iff_complete :
    Reachable (dispatched 0) ∧ SeeStatuses (dispatched 0) := by
  have hnarrow : Narrow (dispatched 0) := fun b hb => by
    rw [List.mem_singleton.mp hb]
    decide
  refine ⟨reachable_dispatched 0, (statuses_seen_iff (reachable_dispatched 0) hnarrow).mpr ?_⟩
  intro t ht
  rw [List.mem_singleton.mp (List.mem_of_mem_take ht)]
  exact ⟨by decide, by decide⟩

/-- The command of the event has failed. -/
theorem error_status_lost : Reachable (dispatched (-1)) ∧ ¬ SeeStatuses (dispatched (-1)) := by
  refine ⟨reachable_dispatched (-1), fun h => ?_⟩
  rw [SeeStatuses] at h
  exact absurd h (by decide)

end CallbackIDs
end RemoteCL

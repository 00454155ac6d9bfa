import RemoteCL.Theory.Dependencies

/-!
# Calls that wait for events

A thread of the application has the connection from the request to the reply, and the server
serves one request at a time.  `clWaitForEvents`, `clFinish` and the blocking commands are answered
when certain events are complete, so as long as such a call lasts, nobody else gets through to the
driver, also not the thread that wants to complete one of the events.

The parties are the threads of the application, the server's loop and the driver, whose commands
are completed when what they wait for is complete.  The invariant is that at most one call is
under way (`Inv`).  A call that waits for a user event and has the connection keeps it for good
(`Stuck.step`); every other call is finished sooner or later (`Inv.frees`).  The programs of the
client and the server are run with such a driver in `RemoteCL.Session.WaitingCalls`.
-/

namespace RemoteCL
namespace Waiting

open Dependencies

/-! ## The parties -/

/-- The events of the driver, by number.  A user event is completed from outside, and the event of a
command when the command's wait list is complete. -/
abbrev Events := List Item

/-- The API functions, by what the driver does for them. -/
inductive Call where
  | createUserEvent
  /-- A command is enqueued, and nobody waits for it. -/
  | enqueue (event_wait_list : List ℕ)
  /-- `clWaitForEvents`, `clFinish` and the blocking commands return when certain events are
  complete. -/
  | await (event_list : List ℕ)
  | setUserEventStatus (event : ℕ)
  | other
  deriving DecidableEq

/-- The driver's function is done. -/
def Call.Returns (events : Events) : Call → Prop
  | await event_list => ∀ e ∈ event_list, ¬ Pending events e
  | _ => True

/-- A user event is completed. -/
def complete (events : Events) (event : ℕ) : Events :=
  match events[event]? with
  | some ⟨none, _⟩ => events.set event ⟨none, true⟩
  | _ => events

/-- What the driver's function does to the events.  The driver knows no events but its own. -/
def Call.run (events : Events) : Call → Events
  | createUserEvent => events ++ [⟨none, false⟩]
  | enqueue event_wait_list =>
    if ∀ e ∈ event_wait_list, e < events.length then events ++ [⟨some event_wait_list, false⟩]
    else events
  | await _ => events
  | setUserEventStatus event => complete events event
  | other => events

/-- Where a thread of the application is. -/
inductive Thread where
  /-- In code of the application. -/
  | user
  /-- In an API function that has not got the connection. -/
  | calling (c : Call)
  /-- The thread has the connection. -/
  | locked (c : Call)
  /-- The request has been sent. -/
  | sent (c : Call)
  deriving DecidableEq

/-- Where the server is in its loop. -/
inductive Server where
  | waiting
  /-- The request has been read, and the driver's function is called. -/
  | calling (c : Call)
  /-- The driver's function has returned. -/
  | returned
  deriving DecidableEq

/-- All parties.  `up` are the requests on the wire, and `down` is the number of replies. -/
structure System where
  threads : ℕ → Thread
  mMutex : Option ℕ
  up : List Call
  server : Server
  down : ℕ
  events : Events

def initial : System :=
  { threads := fun _ => .user, mMutex := none, up := [], server := .waiting, down := 0,
    events := [] }

/-- One step of one of the parties.  A step in which a function of the driver returns is marked with
the call. -/
inductive Step : System → Option Call → System → Prop
  -- a thread of the application
  | calls {x t} (c : Call) (h : x.threads t = .user) :
      Step x none { x with threads := Function.update x.threads t (.calling c) }
  | locks {x t c} (h : x.threads t = .calling c) (hfree : x.mMutex = none) :
      Step x none { x with
        threads := Function.update x.threads t (.locked c), mMutex := some t }
  | sends {x t c} (h : x.threads t = .locked c) :
      Step x none { x with
        threads := Function.update x.threads t (.sent c), up := x.up ++ [c] }
  | receives {x t c n} (h : x.threads t = .sent c) (hdown : x.down = n + 1) :
      Step x none { x with
        threads := Function.update x.threads t .user, mMutex := none, down := n }
  -- the server
  | reads {x c cs} (h : x.server = .waiting) (hup : x.up = c :: cs) :
      Step x none { x with up := cs, server := .calling c }
  | driver {x c} (h : x.server = .calling c) (hreturns : c.Returns x.events) :
      Step x (some c) { x with events := c.run x.events, server := .returned }
  | replies {x} (h : x.server = .returned) :
      Step x none { x with down := x.down + 1, server := .waiting }
  -- a command of the driver
  | completes {x events} (h : Tick x.events events) : Step x none { x with events }

/-- A run from one state to another. -/
def Leads (x y : System) : Prop := Relation.ReflTransGen (fun x y => ∃ l, Step x l y) x y

/-- The request reaches the driver, and its function returns. -/
def Reaches (x : System) (c : Call) : Prop := ∃ y z, Leads x y ∧ Step y (some c) z

/-- The call has the connection, and the driver has not finished it. -/
def Holds (x : System) (c : Call) : Prop :=
  ∃ t, x.mMutex = some t ∧ (x.threads t = .locked c ∨ x.threads t = .sent c) ∧
    x.server ≠ .returned ∧ x.down = 0

/-- The connection is taken by a call that waits for a user event. -/
def Stuck (x : System) : Prop :=
  ∃ event_list, Holds x (.await event_list) ∧ ∃ e ∈ event_list, Blocked x.events e

/-! ## The invariant -/

/-- Where a call is that has the connection: the thread `th` has made it, and `up`, `server` and
`down` are what the connection is in. -/
inductive Stage (th : Thread) (up : List Call) (server : Server) (down : ℕ) : Prop
  | locked {c} (hth : th = .locked c) (hup : up = []) (hserver : server = .waiting)
      (hdown : down = 0)
  | sent {c} (hth : th = .sent c) (hup : up = [c]) (hserver : server = .waiting)
      (hdown : down = 0)
  | calling {c} (hth : th = .sent c) (hup : up = []) (hserver : server = .calling c)
      (hdown : down = 0)
  | returned {c} (hth : th = .sent c) (hup : up = []) (hserver : server = .returned)
      (hdown : down = 0)
  | replied {c} (hth : th = .sent c) (hup : up = []) (hserver : server = .waiting)
      (hdown : down = 1)

/-- The thread does not have the connection. -/
def Thread.Outside : Thread → Prop
  | user | calling _ => True
  | locked _ | sent _ => False

/-- At most one thread has the connection, and its call is the only one that is under way. -/
structure Inv (x : System) : Prop where
  ordered : Ordered x.events
  outside : ∀ t, x.mMutex ≠ some t → (x.threads t).Outside
  free : x.mMutex = none → x.up = [] ∧ x.server = .waiting ∧ x.down = 0
  taken : ∀ t, x.mMutex = some t → Stage (x.threads t) x.up x.server x.down

theorem inv_initial : Inv initial where
  ordered i ws b h := by simp [initial] at h
  outside _ _ := trivial
  free _ := ⟨rfl, rfl, rfl⟩
  taken t h := nomatch h

/-! ## One step -/

section Steps

variable {x y : System} {t t' : ℕ} {c : Call}

/-- A thread that is in the middle of a call has the connection. -/
theorem Inv.mMutex_eq (h : Inv x) (ht : ¬ (x.threads t).Outside) : x.mMutex = some t := by
  by_contra hne
  exact ht (h.outside t hne)

/-- When the server has something to do, it is what the thread with the connection asked for. -/
theorem Inv.holder (h : Inv x) (hbusy : ¬ (x.up = [] ∧ x.server = .waiting ∧ x.down = 0)) :
    ∃ t c, x.mMutex = some t ∧ x.threads t = .sent c := by
  cases hm : x.mMutex with
  | none => exact absurd (h.free hm) hbusy
  | some t =>
    cases h.taken t hm with
    | locked _ hup hserver hdown => exact absurd ⟨hup, hserver, hdown⟩ hbusy
    | sent hth | calling hth | returned hth | replied hth => exact ⟨t, _, rfl, hth⟩

theorem ordered_run {events : Events} (h : Ordered events) : Ordered (c.run events) := by
  have happend {item : Item} (hitem : ∀ ws, item.waitList = some ws → ∀ w ∈ ws,
      w < events.length) : Ordered (events ++ [item]) := by
    intro i ws b hi w hw
    rcases Nat.lt_trichotomy i events.length with hlt | rfl | hgt
    · rw [List.getElem?_append_left hlt] at hi
      exact h i ws b hi w hw
    · rw [List.getElem?_concat_length, Option.some.injEq] at hi
      exact hitem ws (by rw [hi]) w hw
    · rw [List.getElem?_eq_none (by rw [List.length_append]; exact hgt)] at hi
      cases hi
  cases c with
  | createUserEvent => exact happend fun ws hws => nomatch hws
  | enqueue event_wait_list =>
    rw [Call.run]
    split
    · rename_i hknown
      refine happend fun ws hws => ?_
      rw [← Option.some.inj hws]
      exact hknown
    · exact h
  | await event_list => exact h
  | other => exact h
  | setUserEventStatus event =>
    rw [Call.run, complete]
    split
    · intro i ws b hi
      rw [List.getElem?_set] at hi
      split at hi
      · split at hi <;> cases hi
      · exact h i ws b hi
    · exact h

/-- What one thread does leaves the others outside. -/
theorem outside_update {threads : ℕ → Thread} {th : Thread}
    (h : ∀ t', t' ≠ t → (threads t').Outside) (ht : t' ≠ t) :
    (Function.update threads t th t').Outside := by
  rw [Function.update_of_ne ht]
  exact h t' ht

/-- What a step preserves. -/
theorem Inv.step {l : Option Call} (hx : Inv x) (h : Step x l y) : Inv y := by
  have hothers {t : ℕ} (hm : x.mMutex = some t) (t' : ℕ) (ht : t' ≠ t) :
      (x.threads t').Outside := by
    refine hx.outside t' fun h => ht ?_
    exact (Option.some.inj (h.symm.trans hm))
  cases h with
  | @calls t c hthread =>
    have hne {t' : ℕ} (ht' : x.mMutex = some t') : t' ≠ t := by
      rintro rfl
      cases hx.taken t' ht' with
      | locked hth | sent hth | calling hth | returned hth | replied hth =>
        cases hthread.symm.trans hth
    refine ⟨hx.ordered, fun t' hm => ?_, hx.free, fun t' hm => ?_⟩
    · by_cases ht : t' = t
      · rw [ht]
        dsimp only
        rw [Function.update_self]
        trivial
      · dsimp only
        rw [Function.update_of_ne ht]
        exact hx.outside t' hm
    · dsimp only
      rw [Function.update_of_ne (hne hm)]
      exact hx.taken t' hm
  | @locks t c hthread hfree =>
    obtain ⟨hup, hserver, hdown⟩ := hx.free hfree
    refine ⟨hx.ordered, fun t' hm => ?_, fun hm => (nomatch hm), fun t' hm => ?_⟩
    · have ht : t' ≠ t := fun ht => hm (congrArg some ht.symm)
      refine outside_update (fun t'' _ => hx.outside t'' ?_) ht
      rw [hfree]
      exact nofun
    · obtain rfl := Option.some.inj hm
      exact .locked (Function.update_self ..) hup hserver hdown
  | @sends t c hthread =>
    have hm : x.mMutex = some t := hx.mMutex_eq (by rw [hthread]; exact id)
    cases hx.taken t hm with
    | sent hth | calling hth | returned hth | replied hth => cases hthread.symm.trans hth
    | locked hth hup hserver hdown =>
      refine ⟨hx.ordered, fun t' ht' => ?_, fun hfree => ?_, fun t' ht' => ?_⟩
      · refine outside_update (hothers hm) fun ht => ht' ?_
        rw [ht]
        exact hm
      · cases hm.symm.trans hfree
      · obtain rfl := Option.some.inj (hm.symm.trans ht')
        refine .sent (Function.update_self ..) ?_ hserver hdown
        show x.up ++ [c] = [c]
        rw [hup, List.nil_append]
  | @receives t c n hthread hdown =>
    have hm : x.mMutex = some t := hx.mMutex_eq (by rw [hthread]; exact id)
    cases hx.taken t hm with
    | locked _ _ _ hzero | sent _ _ _ hzero | calling _ _ _ hzero | returned _ _ _ hzero =>
      cases hdown.symm.trans hzero
    | replied _ hup hserver hone =>
      refine ⟨hx.ordered, fun t' _ => ?_, fun _ => ⟨hup, hserver, ?_⟩, fun t' ht' => nomatch ht'⟩
      · by_cases ht : t' = t
        · rw [ht]
          dsimp only
          rw [Function.update_self]
          trivial
        · exact outside_update (hothers hm) ht
      · exact Nat.succ.inj (hdown.symm.trans hone)
  | @reads c cs hserver hup =>
    obtain ⟨t, c', hm, hthread⟩ := hx.holder fun h => by cases hup.symm.trans h.1
    refine ⟨hx.ordered, hx.outside, fun hfree => ?_, fun t' ht' => ?_⟩
    · cases hm.symm.trans hfree
    · obtain rfl := Option.some.inj (hm.symm.trans ht')
      cases hx.taken t hm with
      | locked _ hnil | calling _ hnil | returned _ hnil | replied _ hnil =>
        cases hup.symm.trans hnil
      | sent hth hone _ hdown =>
        cases hup.symm.trans hone
        exact .calling hth rfl rfl hdown
  | @driver c hserver hreturns =>
    obtain ⟨t, c', hm, hthread⟩ := hx.holder fun h => by cases hserver.symm.trans h.2.1
    refine ⟨ordered_run hx.ordered, hx.outside, fun hfree => ?_, fun t' ht' => ?_⟩
    · cases hm.symm.trans hfree
    · obtain rfl := Option.some.inj (hm.symm.trans ht')
      cases hx.taken t hm with
      | locked _ _ hs | sent _ _ hs | returned _ _ hs | replied _ _ hs =>
        cases hserver.symm.trans hs
      | calling hth hup _ hdown => exact .returned hth hup rfl hdown
  | replies hserver =>
    obtain ⟨t, c', hm, hthread⟩ := hx.holder fun h => by cases hserver.symm.trans h.2.1
    refine ⟨hx.ordered, hx.outside, fun hfree => ?_, fun t' ht' => ?_⟩
    · cases hm.symm.trans hfree
    · obtain rfl := Option.some.inj (hm.symm.trans ht')
      cases hx.taken t hm with
      | locked _ _ hs | sent _ _ hs | calling _ _ hs | replied _ _ hs =>
        cases hserver.symm.trans hs
      | returned hth hup _ hdown =>
        exact .replied hth hup rfl (congrArg Nat.succ hdown)
  | completes h => exact ⟨h.ordered hx.ordered, hx.outside, hx.free, hx.taken⟩

/-- A call that waits for a user event goes on waiting, and no function of the driver returns. -/
theorem Stuck.step {l : Option Call} (hx : Inv x) (h : Stuck x) (hstep : Step x l y) :
    Stuck y ∧ l = none := by
  obtain ⟨event_list, ⟨t, hm, hthread, hserver, hdown⟩, e, he, hblocked⟩ := h
  have hstay : ¬ (x.threads t).Outside := by
    rcases hthread with hthread | hthread <;> rw [hthread] <;> exact id
  have hne {t' : ℕ} (ht' : (x.threads t').Outside) : t ≠ t' := by
    rintro rfl
    exact hstay ht'
  cases hstep with
  | @calls t' c' hthread' =>
    refine ⟨⟨event_list, ⟨t, hm, ?_, hserver, hdown⟩, e, he, hblocked⟩, rfl⟩
    dsimp only
    rw [Function.update_of_ne (hne (by rw [hthread']; trivial))]
    exact hthread
  | locks _ hfree => cases hm.symm.trans hfree
  | @sends t' c' hthread' =>
    obtain rfl := Option.some.inj
      (hm.symm.trans (hx.mMutex_eq (t := t') (by rw [hthread']; exact id)))
    have hc : c' = .await event_list := by
      rcases hthread with hthread | hthread
      · exact Thread.locked.inj (hthread'.symm.trans hthread)
      · cases hthread'.symm.trans hthread
    refine ⟨⟨event_list, ⟨t, hm, Or.inr ?_, hserver, hdown⟩, e, he, hblocked⟩, rfl⟩
    rw [← hc]
    exact Function.update_self ..
  | receives _ hn => cases hdown.symm.trans hn
  | reads hwaiting hup =>
    exact ⟨⟨event_list, ⟨t, hm, hthread, nofun, hdown⟩, e, he, hblocked⟩, rfl⟩
  | @driver c' hcalling hreturns =>
    have hc : c' = .await event_list := by
      cases hx.taken t hm with
      | locked _ _ hs | sent _ _ hs | returned _ _ hs | replied _ _ hs =>
        cases hcalling.symm.trans hs
      | calling hth _ hs =>
        rcases hthread with hthread | hthread
        · cases hth.symm.trans hthread
        · rw [Server.calling.inj (hcalling.symm.trans hs)]
          exact Thread.sent.inj (hth.symm.trans hthread)
    subst hc
    exact absurd hblocked.pending (hreturns e he)
  | replies hreturned => exact absurd hreturned hserver
  | completes h =>
    exact ⟨⟨event_list, ⟨t, hm, hthread, hserver, hdown⟩, e, he, h.blocked_iff.mpr hblocked⟩, rfl⟩

/-! ## Whole runs -/

/-- What a run preserves. -/
theorem Inv.leads (hx : Inv x) (h : Leads x y) : Inv y := by
  induction h with
  | refl => exact hx
  | tail _ h ih =>
    obtain ⟨l, h⟩ := h
    exact ih.step h

theorem Stuck.leads (hx : Inv x) (hstuck : Stuck x) (h : Leads x y) : Stuck y := by
  induction h with
  | refl => exact hstuck
  | tail hleads h ih =>
    obtain ⟨l, h⟩ := h
    exact (ih.step (hx.leads hleads) h).1

/-! ### Giving the connection back -/

/-- There is a run that gives the connection back, and leaves the thread `t` where it is. -/
def Frees (x : System) (t : ℕ) : Prop :=
  ∃ y, Leads x y ∧ y.mMutex = none ∧ y.threads t = x.threads t

theorem Frees.of_step {l : Option Call} (h : Step x l y) (ht : y.threads t = x.threads t)
    (hy : Frees y t) : Frees x t := by
  obtain ⟨z, hz, hfree, htz⟩ := hy
  exact ⟨z, .head ⟨l, h⟩ hz, hfree, htz.trans ht⟩

theorem leads_of_ticks {events : Events} (h : Ticks x.events events) :
    Leads x { x with events } := by
  induction h with
  | refl => exact .refl
  | tail _ h ih => exact .tail ih ⟨none, .completes h⟩

theorem frees_of_replied (ht : t ≠ t') (hth : x.threads t' = .sent c) (hdown : x.down = 1) :
    Frees x t :=
  ⟨_, .single ⟨none, .receives hth hdown⟩, rfl, Function.update_of_ne ht ..⟩

theorem frees_of_returned (ht : t ≠ t') (hth : x.threads t' = .sent c)
    (hserver : x.server = .returned) (hdown : x.down = 0) : Frees x t :=
  .of_step (.replies hserver) rfl (frees_of_replied ht hth (congrArg Nat.succ hdown))

/-- The driver completes what the call waits for. -/
theorem frees_of_calling (ht : t ≠ t') (hth : x.threads t' = .sent c)
    (hserver : x.server = .calling c) (hdown : x.down = 0) (hordered : Ordered x.events)
    (hblocked : ∀ es, c = .await es → ∀ e ∈ es, ¬ Blocked x.events e) : Frees x t := by
  have hreturns : ∃ events, Ticks x.events events ∧ c.Returns events := by
    cases c with
    | await event_list =>
      refine exists_ticks_of_forall fun e he events hevents => ?_
      refine exists_ticks (hevents.ordered hordered) ?_
      rw [hevents.blocked_iff]
      exact hblocked event_list rfl e he
    | _ => exact ⟨x.events, .refl, trivial⟩
  obtain ⟨events, hticks, hreturns⟩ := hreturns
  obtain ⟨y, hy, hfree, hty⟩ : Frees { x with events } t :=
    .of_step (.driver hserver hreturns) rfl (frees_of_returned ht hth rfl hdown)
  exact ⟨y, (leads_of_ticks hticks).trans hy, hfree, hty⟩

/-- If the call that has the connection does not wait for a user event, it is finished. -/
theorem Inv.frees (hx : Inv x) (hstuck : ¬ Stuck x) (hm : x.mMutex = some t') (ht : t ≠ t') :
    Frees x t := by
  have hblocked {c : Call} (hth : x.threads t' = .locked c ∨ x.threads t' = .sent c)
      (hserver : x.server ≠ .returned) (hdown : x.down = 0) (es : List ℕ) (hc : c = .await es)
      (e : ℕ) (he : e ∈ es) : ¬ Blocked x.events e := fun hblocked =>
    hstuck ⟨es, ⟨t', hm, hc ▸ hth, hserver, hdown⟩, e, he, hblocked⟩
  cases hx.taken t' hm with
  | replied hth _ _ hdown => exact frees_of_replied ht hth hdown
  | returned hth _ hserver hdown => exact frees_of_returned ht hth hserver hdown
  | calling hth _ hserver hdown =>
    exact frees_of_calling ht hth hserver hdown hx.ordered
      (hblocked (Or.inr hth) (by rw [hserver]; exact nofun) hdown)
  | sent hth hup hserver hdown =>
    exact .of_step (.reads hserver hup) rfl (frees_of_calling ht hth rfl hdown hx.ordered
      (hblocked (Or.inr hth) (by rw [hserver]; exact nofun) hdown))
  | @locked c hth hup hserver hdown =>
    refine .of_step (.sends hth) (Function.update_of_ne ht ..) ?_
    have hsent : Function.update x.threads t' (.sent c) t' = .sent c := Function.update_self ..
    have hone : x.up ++ [c] = [c] := by rw [hup, List.nil_append]
    exact .of_step (.reads hserver hone) rfl (frees_of_calling ht hsent rfl hdown hx.ordered
      (hblocked (Or.inl hth) (by rw [hserver]; exact nofun) hdown))

/-- With the connection free, a request gets through. -/
theorem Inv.reaches (hx : Inv x) (hfree : x.mMutex = none) (hth : x.threads t = .calling c)
    (hreturns : c.Returns x.events) : Reaches x c := by
  obtain ⟨hup, hserver, hdown⟩ := hx.free hfree
  have hlocks : Leads x _ := .single ⟨none, .locks hth hfree⟩
  have hsends : Leads x _ := .tail hlocks ⟨none, .sends (Function.update_self ..)⟩
  have hreads : Leads x _ := .tail hsends ⟨none, .reads hserver
    (show x.up ++ [c] = c :: [] by rw [hup, List.nil_append])⟩
  exact ⟨_, _, hreads, .driver rfl hreturns⟩

/-- Behind a call that waits for a user event, no request gets through. -/
theorem Stuck.not_reaches (hx : Inv x) (hstuck : Stuck x) : ¬ Reaches x c := by
  rintro ⟨y, z, hy, hstep⟩
  cases ((hstuck.leads hx hy).step (hx.leads hy) hstep).2

/-- **When `clSetUserEventStatus` gets through**: in every state that a run leads to, and in which a
thread has called it, there is a run in which the request reaches the driver if and only if the
connection is not taken by a call that waits for a user event. -/
theorem setUserEventStatus_reaches_iff {event : ℕ} (hx : Leads initial x)
    (hth : x.threads t = .calling (.setUserEventStatus event)) :
    Reaches x (.setUserEventStatus event) ↔ ¬ Stuck x := by
  have hinv := inv_initial.leads hx
  constructor
  · exact fun hreaches hstuck => hstuck.not_reaches hinv hreaches
  · intro hstuck
    cases hm : x.mMutex with
    | none => exact hinv.reaches hm hth trivial
    | some t' =>
      have ht : t ≠ t' := by
        rintro rfl
        cases hinv.taken t hm with
        | locked h | sent h | calling h | returned h | replied h => cases hth.symm.trans h
      obtain ⟨y, hy, hfree, hty⟩ := hinv.frees hstuck hm ht
      obtain ⟨z, z', hz, hstep⟩ := (hinv.leads hy).reaches hfree (hty.trans hth) trivial
      exact ⟨z, z', hy.trans hz, hstep⟩

end Steps

/-- Thread 0 has made a user event, waits for it, and has the connection.  Thread 1 is about to
complete it. -/
def completing : System where
  threads := Function.update (Function.update (fun _ => .user) 0 (.locked (.await [0]))) 1
    (.calling (.setUserEventStatus 0))
  mMutex := some 0
  up := []
  server := .waiting
  down := 0
  events := [⟨none, false⟩]

theorem leads_completing : Leads initial completing := by
  have hcalls : Leads initial _ := .single ⟨none, .calls (t := 0) .createUserEvent rfl⟩
  have hlocks : Leads initial _ := .tail hcalls ⟨none, .locks (t := 0) rfl rfl⟩
  have hsends : Leads initial _ := .tail hlocks ⟨none, .sends (t := 0) rfl⟩
  have hreads : Leads initial _ := .tail hsends ⟨none, .reads rfl rfl⟩
  have hdriver : Leads initial _ := .tail hreads ⟨some _, .driver rfl trivial⟩
  have hreplies : Leads initial _ := .tail hdriver ⟨none, .replies rfl⟩
  have hreceives : Leads initial _ := .tail hreplies ⟨none, .receives (t := 0) rfl rfl⟩
  have hwaits : Leads initial _ := .tail hreceives ⟨none, .calls (t := 0) (.await [0]) rfl⟩
  have htakes : Leads initial _ := .tail hwaits ⟨none, .locks (t := 0) rfl rfl⟩
  have hsets : Leads initial _ :=
    .tail htakes ⟨none, .calls (t := 1) (.setUserEventStatus 0) rfl⟩
  simp only [Function.update_idem] at hsets
  exact hsets

theorem stuck_completing : Stuck completing :=
  ⟨[0], ⟨0, rfl, Or.inl rfl, nofun, rfl⟩, 0, List.mem_cons_self, .outside rfl⟩

/-- Behind the call that waits, the other one does not get through. -/
theorem setUserEventStatus_reaches_iff_completing :
    ¬ Reaches completing (.setUserEventStatus 0) := fun hreaches =>
  (setUserEventStatus_reaches_iff (t := 1) leads_completing rfl).mp hreaches stuck_completing

/-- A thread waits for a user event before another thread completes it. -/
theorem waiting_blocks_setUserEventStatus :
    ¬ ∀ (x : System) (t t' event : ℕ) (event_list : List ℕ), Leads initial x → event ∈ event_list →
      (x.threads t' = .calling (.await event_list) ∨ x.threads t' = .locked (.await event_list) ∨
        x.threads t' = .sent (.await event_list)) →
      x.threads t = .calling (.setUserEventStatus event) →
        Reaches x (.setUserEventStatus event) := by
  intro h
  exact stuck_completing.not_reaches (inv_initial.leads leads_completing)
    (h _ 1 0 0 [0] leads_completing List.mem_cons_self (Or.inr (Or.inl rfl)) rfl)

end Waiting
end RemoteCL

import RemoteCL.Session.Stores
import RemoteCL.Theory.Locking
import Mathlib.Data.List.Chain

/-!
# The two mutexes of the client

An API function locks `mMutex`, by `Connection::get`, and has it until it returns.  The callbacks
are guarded by `mCallbackMutex`, which `registerCallback` locks while it has the connection, and
which the callback thread locks while it invokes the user's function.  Two API functions invoke a
user's function themselves, and have the connection then.  Users' functions may call API functions.

The programs of the client bear this out (`wlp_functionOf`, `wlp_clSetEventCallback`).

So the mutexes are locked in both orders, and a user's function may come back for a mutex that its
thread holds.  `Harmless` says what users have to avoid, and `deadlock_free` that this is exactly
what leads to a deadlock.

The invariant is that every thread uses the mutexes properly (`WellLocked`), and that no thread
which has the connection and is about to register a callback meets a user's function on the callback
thread that wants the connection (`Apart`).
-/

namespace RemoteCL
namespace Mutexes

open Locking

/-! ## The threads -/

/-- The mutexes of `Connection`. -/
inductive Mutex where
  | mMutex
  | mCallbackMutex
  deriving DecidableEq

/-- What a thread does besides locking and unlocking. -/
inductive Activity where
  /-- Code of the user runs, which may call API functions. -/
  | user
  /-- The callback thread waits for the next trigger. -/
  | deliver
  deriving DecidableEq

open Mutex Activity

abbrev Code := List (Action Mutex Activity)

/-- The API functions, by what they lock. -/
inductive ApiFunction where
  /-- Most functions hold the connection from the request to the reply. -/
  | request
  /-- `clSetEventCallback`, and `clCompileProgram` with a callback while the event stream is open,
  call `registerCallback` meanwhile. -/
  | registration
  /-- `clLinkProgram` with a callback, and `clCompileProgram` with a callback without an event
  stream, invoke `pfn_notify` themselves, and have the connection still. -/
  | notification
  deriving DecidableEq

/-- The locks and unlocks of a call. -/
def ApiFunction.body : ApiFunction → Code
  | request => [.lock mMutex, .unlock mMutex]
  | registration =>
    [.lock mMutex, .lock mCallbackMutex, .unlock mCallbackMutex, .unlock mMutex]
  | notification => [.lock mMutex, .other user, .unlock mMutex]

/-- The threads of the process: the callback thread is thread `0`, and all others are threads of the
application. -/
abbrev Process := State ℕ Mutex Activity

/-- Nothing is locked. -/
def initial : Process :=
  { code := fun t => if t = 0 then [.other deliver] else [.other user]
    holder := fun _ => none }

/-- What may happen next. -/
inductive Event where
  | locks (t : ℕ) (m : Mutex)
  | unlocks (t : ℕ) (m : Mutex)
  | calls (t : ℕ) (f : ApiFunction)
  | returns (t : ℕ)
  | delivers (t : ℕ)
  | ignores (t : ℕ)
  | stops (t : ℕ)

/-- One step of one of the threads. -/
inductive Step : Process → Event → Process → Prop
  | locks {x t m s} (h : x.code t = .lock m :: s) (hfree : x.holder m = none) :
      Step x (.locks t m) (x.locks t m s)
  | unlocks {x t m s} (h : x.code t = .unlock m :: s) :
      Step x (.unlocks t m) (x.unlocks t m s)
  -- the code of the user calls an API function, or returns
  | calls {x t s} (f : ApiFunction) (h : x.code t = .other user :: s) :
      Step x (.calls t f) (x.goesOn t (f.body ++ .other user :: s))
  | returns {x t s} (h : x.code t = .other user :: s) : Step x (.returns t) (x.goesOn t s)
  -- `HandleCallbacks` finds a trigger: for a callback, or for none
  | delivers {x t s} (h : x.code t = .other deliver :: s) :
      Step x (.delivers t) (x.goesOn t (.lock mCallbackMutex :: .other user ::
        .unlock mCallbackMutex :: .other deliver :: s))
  | ignores {x t s} (h : x.code t = .other deliver :: s) :
      Step x (.ignores t) (x.goesOn t (.lock mCallbackMutex :: .unlock mCallbackMutex ::
        .other deliver :: s))
  | stops {x t s} (h : x.code t = .other deliver :: s) : Step x (.stops t) (x.goesOn t s)

/-- The events after which the threads are still able to go on.  A user's function that is invoked
with the connection locked calls no API function.  One that is invoked by the callback thread
registers no callback, and calls no API function while another thread is about to register one;
and no thread takes the connection to register a callback while such a function waits for it. -/
def Harmless (x : Process) : Event → Prop
  | .calls t f => ¬ x.Holds t mMutex ∧ (x.Holds t mCallbackMutex → f ≠ .registration ∧
      ∀ t', x.Holds t' mMutex → ¬ x.Wants t' mCallbackMutex)
  | .locks t mMutex => (x.code t)[1]? = some (.lock mCallbackMutex) →
      ∀ t', x.Holds t' mCallbackMutex → ¬ x.Wants t' mMutex
  | _ => True

/-- The states that runs of harmless events lead to. -/
inductive Reachable : Process → Prop
  | initial : Reachable initial
  | step {x e y} (hx : Reachable x) (h : Step x e y) (he : Harmless x e) : Reachable y

/-! ## The functions of the client -/

section Functions

open Client ByteStream Conversation

/-- What a function does about callbacks depends on whether there is an event stream. -/
def functionOf (s : ClientState) : ApiCall → ApiFunction
  | .clCompileProgram _ _ _ _ _ _ _ notify =>
    if notify.pfn_notify.isSome then
      if s.hasEventStream then .registration else .notification
    else .request
  | .clLinkProgram _ _ _ _ _ _ notify _ =>
    if notify.pfn_notify.isSome then .notification else .request
  | _ => .request

/-- Only registrations touch the callbacks, and only notifications invoke one. -/
def UsesAs (f : ApiFunction) (s s' : ClientState) : Prop :=
  StoredOnly (f = .registration) (fun x => ∀ p g d, x = .notify p g d → f = .notification) s s'

/-- **What is locked is what is needed**: in all runs of a function, whatever the server sends and
whatever fails, the callbacks are left alone unless it is a registration, and no user's function is
invoked unless it is a notification. -/
theorem wlp_functionOf {C : Build} (c : ApiCall) (s : ClientState) (u : Bytes) :
    (c.call C).wlp True s u fun _ s' _ => UsesAs (functionOf s c) s s' := by
  have hrequest (hV : ∀ p g d, ¬ c.MayStore C (.notify p g d)) (hR : ¬ c.MayRegister) :
      (c.call C).wlp True s u fun _ s' _ => UsesAs .request s s' :=
    c.storesOnly (V := fun x => ∀ p g d, x = .notify p g d → _)
      (fun x hx p g d h => absurd (h ▸ hx) (hV p g d)) (fun _ => trivial) (fun h => absurd h hR) s u
  cases c with
  | clCompileProgram program n devices options m headers names notify =>
    refine wlp_clCompileProgram (fun hnotify hstream p g d => ?_) (fun hnotify hstream => ?_) _ _ _
      _ _ _ _ (fun _ => trivial) u
    · rintro p' g' d' -
      rw [functionOf, if_pos hnotify, hstream, if_neg Bool.false_ne_true]
    · rw [functionOf, if_pos hnotify, if_pos hstream]
  | clLinkProgram context n devices options m programs notify err =>
    refine storesOnly_clLinkProgram (fun x hx p g d h => ?_) (fun hnotify p g d => ?_) _ _ _ _ _ _
      s u
    · subst h
      exact hx.elim
    · rintro p' g' d' -
      rw [functionOf, if_pos hnotify]
  | _ => exact hrequest (fun _ _ _ => id) id

/-- `clSetEventCallback` is a registration. -/
theorem wlp_clSetEventCallback (event : Option Handle) (command_exec_callback_type : UInt32)
    (pfn_notify : Option ℕ) (user_data : ℕ) (s : ClientState) (u : Bytes) :
    (clSetEventCallback event command_exec_callback_type pfn_notify user_data).wlp True s u
      fun _ s' _ => UsesAs .registration s s' := by
  cases event with
  | none => exact storesOnly_pure _ s u
  | some event =>
    cases pfn_notify with
    | none => exact storesOnly_pure _ s u
    | some pfn_notify =>
      refine storesOnly_getState_bind (fun s => storesOnly_ite (fun _ => storesOnly_pure _)
        fun _ => StoresOnly.tryCatch ?_ fun x => ?_) s u
      · refine (storesOnly_registerCallback rfl _).bind fun id => ?_
        exact (storesOnly_writeNoexcept _ _).bind fun _ => storesOnly_awaitSuccess
      · cases x with
        | terminate => exact storesOnly_throw _
        | _ => exact storesOnly_pure _

end Functions

/-! ## The invariant -/

/-- What may follow what in the code of a thread. -/
def Follows (a b : Action Mutex Activity) : Prop :=
  a ≠ .other deliver ∧ b ≠ .lock mMutex ∧ (b = .lock mCallbackMutex → a = .lock mMutex)

/-- No thread that is about to register a callback faces a user's function that is about to take
the connection. -/
def Apart (x : Process) : Prop :=
  ∀ t t', x.Holds t mMutex → x.Wants t mCallbackMutex → x.Holds t' mCallbackMutex →
    ¬ x.Wants t' mMutex

structure Inv (x : Process) : Prop where
  balanced : x.Balanced
  follows : ∀ t, (x.code t).IsChain Follows
  apart : Apart x

theorem inv_initial : Inv initial where
  balanced t := by
    show WellLocked (if t = 0 then [.other deliver] else [.other user]) _
    split <;> exact fun m h => nomatch h
  follows t := by
    show List.IsChain Follows (if t = 0 then [.other deliver] else [.other user])
    split <;> exact .singleton _
  apart t t' h := nomatch h

/-! ## One step -/

section Steps

variable {x : Process} {t : ℕ} {a : Action Mutex Activity} {s : Code}

/-- A thread that has done something else than locking the connection locks nothing next. -/
theorem head_ne_lock (h : (a :: s).IsChain Follows) (ha : a ≠ .lock mMutex) (m : Mutex) :
    s.head? ≠ some (.lock m) := by
  intro hs
  cases s with
  | nil => cases hs
  | cons b s =>
    obtain ⟨-, hmutex, hcallback⟩ := (List.isChain_cons_cons.mp h).1
    rw [List.head?_cons, Option.some.injEq] at hs
    cases m with
    | mMutex => exact hmutex hs
    | mCallbackMutex => exact ha (hcallback hs)

/-- The callback thread has nothing to do behind its loop. -/
theorem eq_nil_of_deliver (h : (.other deliver :: s : Code).IsChain Follows) : s = [] := by
  cases s with
  | nil => rfl
  | cons b s => exact absurd rfl (List.isChain_cons_cons.mp h).1.1

/-- A step after which the thread that made it wants nothing. -/
theorem Apart.of_unlocked {y : Process} (h : Apart x)
    (hcode : ∀ t', t' ≠ t → y.code t' = x.code t') (hholds : ∀ t' m, y.Holds t' m → x.Holds t' m)
    (hwants : ∀ m, ¬ y.Wants t m) : Apart y := by
  have hothers {t' : ℕ} {m : Mutex} (h : y.Wants t' m) : x.Wants t' m := by
    have hne : t' ≠ t := by
      rintro rfl
      exact hwants m h
    rwa [State.Wants, hcode t' hne] at h
  exact fun t₁ t₂ h₁ h₁' h₂ h₂' =>
    h t₁ t₂ (hholds _ _ h₁) (hothers h₁') (hholds _ _ h₂) (hothers h₂')

theorem Inv.locks {m : Mutex} (h : Inv x) (hcode : x.code t = .lock m :: s)
    (hfree : x.holder m = none) (hharmless : Harmless x (.locks t m)) : Inv (x.locks t m s) := by
  have hchain := h.follows t
  rw [hcode] at hchain
  have hbalanced := h.balanced.locks hcode hfree
  refine ⟨hbalanced, fun t' => ?_, fun t₁ t₂ hholds₁ hwants₁ hholds₂ hwants₂ => ?_⟩
  · by_cases ht : t' = t
    · rw [ht, State.code_locks_self]
      exact hchain.tail
    · rw [State.code_locks_of_ne ht]
      exact h.follows t'
  · have hne : t₁ ≠ t₂ := by
      rintro rfl
      exact hbalanced.not_holds hwants₁ hholds₂
    have hold {t' : ℕ} {m' : Mutex} (ht : t' ≠ t) (hw : (x.locks t m s).Wants t' m') :
        x.Wants t' m' := by
      rwa [State.Wants, State.code_locks_of_ne ht] at hw
    rw [State.holds_locks hfree] at hholds₁ hholds₂
    rcases hholds₁ with ⟨rfl, rfl⟩ | hholds₁
    · -- the connection is taken
      rcases hholds₂ with ⟨hm, -⟩ | hholds₂
      · cases hm
      · refine hharmless ?_ t₂ hholds₂ (hold hne.symm hwants₂)
        rw [State.Wants, State.code_locks_self] at hwants₁
        rw [hcode, List.getElem?_cons_succ, ← List.head?_eq_getElem?]
        exact hwants₁
    rcases hholds₂ with ⟨rfl, rfl⟩ | hholds₂
    · rw [State.Wants, State.code_locks_self] at hwants₂
      exact head_ne_lock hchain (by simp) _ hwants₂
    cases m with
    | mMutex => cases hfree.symm.trans hholds₁
    | mCallbackMutex => cases hfree.symm.trans hholds₂

theorem Inv.unlocks {m : Mutex} (h : Inv x) (hcode : x.code t = .unlock m :: s) :
    Inv (x.unlocks t m s) := by
  have hchain := h.follows t
  rw [hcode] at hchain
  refine ⟨h.balanced.unlocks hcode, fun t' => ?_, ?_⟩
  · by_cases ht : t' = t
    · rw [ht, State.code_unlocks_self]
      exact hchain.tail
    · rw [State.code_unlocks_of_ne ht]
      exact h.follows t'
  · refine h.apart.of_unlocked (t := t) (fun t' ht => State.code_unlocks_of_ne ht)
      (fun t' m' hm' => (State.holds_unlocks.mp hm').2) fun m' hm' => ?_
    rw [State.Wants, State.code_unlocks_self] at hm'
    exact head_ne_lock hchain (by simp) m' hm'

/-- A thread goes on with other code. -/
theorem Inv.goesOn (h : Inv x) (hs : WellLocked s (x.Holds t)) (hfollows : s.IsChain Follows)
    (hapart : Apart (x.goesOn t s)) : Inv (x.goesOn t s) := by
  refine ⟨h.balanced.goesOn hs, fun t' => ?_, hapart⟩
  by_cases ht : t' = t
  · rw [ht, State.code_goesOn_self]
    exact hfollows
  · rw [State.code_goesOn_of_ne ht]
    exact h.follows t'

theorem Inv.returns {k : Activity} (h : Inv x) (hcode : x.code t = .other k :: s) :
    Inv (x.goesOn t s) := by
  have hchain := h.follows t
  have hlocked := h.balanced t
  rw [hcode] at hchain hlocked
  refine h.goesOn hlocked hchain.tail ?_
  refine h.apart.of_unlocked (t := t) (fun t' ht => State.code_goesOn_of_ne ht)
    (fun t' m hm => hm) fun m hm => ?_
  rw [State.Wants, State.code_goesOn_self] at hm
  exact head_ne_lock hchain (by simp) m hm

/-- The callback thread is about to lock its mutex, and holds nothing. -/
theorem Inv.delivers (h : Inv x) (hcode : x.code t = .other deliver :: s) {c : Code}
    (hlocked : WellLocked (.lock mCallbackMutex :: c) fun _ => False)
    (hfollows : (.lock mCallbackMutex :: c : Code).IsChain Follows) :
    Inv (x.goesOn t (.lock mCallbackMutex :: c)) := by
  have hchain := h.follows t
  have hheld := h.balanced t
  rw [hcode] at hchain hheld
  rw [eq_nil_of_deliver hchain] at hheld
  refine h.goesOn (hlocked.congr fun m => iff_of_false id (hheld m)) hfollows ?_
  refine fun t₁ t₂ hholds₁ hwants₁ hholds₂ hwants₂ => ?_
  by_cases ht₁ : t₁ = t
  · exact hheld _ (ht₁ ▸ hholds₁)
  by_cases ht₂ : t₂ = t
  · exact hheld _ (ht₂ ▸ hholds₂)
  rw [State.Wants, State.code_goesOn_of_ne ht₁] at hwants₁
  rw [State.Wants, State.code_goesOn_of_ne ht₂] at hwants₂
  exact h.apart t₁ t₂ hholds₁ hwants₁ hholds₂ hwants₂

/-- A call from the code of a user. -/
theorem Inv.calls {f : ApiFunction} (h : Inv x) (hcode : x.code t = .other user :: s)
    (hharmless : Harmless x (.calls t f)) :
    Inv (x.goesOn t (f.body ++ .other user :: s)) := by
  have hchain := h.follows t
  have hheld := h.balanced t
  rw [hcode] at hchain hheld
  obtain ⟨hfree, hcallback⟩ := hharmless
  have hhead : (f.body ++ .other user :: s).head? = some (.lock mMutex) := by
    cases f <;> rfl
  refine h.goesOn ?_ ?_ ?_
  · -- what is locked is unlocked again
    have hrest : WellLocked (.other user :: s) (x.Holds t) := hheld
    cases f with
    | request => exact ⟨hfree, Or.inl rfl, hrest.released hfree⟩
    | notification => exact ⟨hfree, Or.inl rfl, hrest.released hfree⟩
    | registration =>
      have hother : ¬ (mCallbackMutex = mMutex ∨ x.Holds t mCallbackMutex) := by
        rintro (hm | hm)
        · cases hm
        · exact (hcallback hm).1 rfl
      refine ⟨hfree, hother, Or.inl rfl, ?_⟩
      exact WellLocked.released (s := .unlock mMutex :: .other user :: s)
        ⟨Or.inl rfl, hrest.released hfree⟩ hother
  · cases f <;> simp [ApiFunction.body, Follows, hchain]
  · refine fun t₁ t₂ hholds₁ hwants₁ hholds₂ hwants₂ => ?_
    by_cases ht₁ : t₁ = t
    · rw [ht₁, State.Wants, State.code_goesOn_self, hhead] at hwants₁
      cases hwants₁
    rw [State.Wants, State.code_goesOn_of_ne ht₁] at hwants₁
    by_cases ht₂ : t₂ = t
    · exact (hcallback (ht₂ ▸ hholds₂)).2 t₁ hholds₁ hwants₁
    · rw [State.Wants, State.code_goesOn_of_ne ht₂] at hwants₂
      exact h.apart t₁ t₂ hholds₁ hwants₁ hholds₂ hwants₂

end Steps

/-- What a step preserves. -/
theorem Inv.step {x y : Process} {e : Event} (hx : Inv x) (h : Step x e y) (he : Harmless x e) :
    Inv y := by
  cases h with
  | locks h hfree => exact hx.locks h hfree he
  | unlocks h => exact hx.unlocks h
  | calls f h => exact hx.calls h he
  | returns h => exact hx.returns h
  | @delivers t s h =>
    have hchain := hx.follows t
    rw [h] at hchain
    rw [eq_nil_of_deliver hchain]
    refine hx.delivers h ⟨id, Or.inl rfl, fun m hm => ?_⟩ ?_
    · exact hm.2.elim hm.1 id
    · simp [Follows]
  | @ignores t s h =>
    have hchain := hx.follows t
    rw [h] at hchain
    rw [eq_nil_of_deliver hchain]
    refine hx.delivers h ⟨id, Or.inl rfl, fun m hm => ?_⟩ ?_
    · exact hm.2.elim hm.1 id
    · simp [Follows]
  | stops h => exact hx.returns h

/-! ## Whole runs -/

/-- What a run preserves. -/
theorem Reachable.inv {x : Process} (h : Reachable x) : Inv x := by
  induction h with
  | initial => exact inv_initial
  | step _ h he ih => exact ih.step h he

/-! ### Harmful events -/

/-- A run from one state to another. -/
def Leads (x y : Process) : Prop := Relation.ReflTransGen (fun x y => ∃ e, Step x e y) x y

/-- Two threads, of which each holds what the other one wants. -/
theorem deadlocked_of_pair {x : Process} (t t' : ℕ) (m m' : Mutex) (hwants : x.Wants t m)
    (hholds' : x.Holds t' m) (hwants' : x.Wants t' m') (hholds : x.Holds t m') : x.Deadlocked :=
  ⟨t, .tail (.single ⟨m, hwants, hholds'⟩) ⟨m', hwants', hholds⟩⟩

theorem deadlocked_of_self {x : Process} {t : ℕ} {m : Mutex} (hwants : x.Wants t m)
    (hholds : x.Holds t m) : x.Deadlocked :=
  ⟨t, .single ⟨m, hwants, hholds⟩⟩

/-- A user's function on the callback thread that registers a callback is stuck, at the latest when
the connection is free. -/
theorem leads_of_registration {x : Process} {t t' : ℕ} {s c : Code}
    (hcode : x.code t = .lock mMutex :: .lock mCallbackMutex :: s)
    (hholds : x.Holds t mCallbackMutex) (hc : x.code t' = c) (hholds' : x.Holds t' mMutex)
    (hlocked : WellLocked c (x.Holds t')) (hchain : c.IsChain Follows) :
    ∃ z, Leads x z ∧ z.Deadlocked := by
  have hwants : x.Wants t mMutex := by rw [State.Wants, hcode, List.head?_cons]
  have hne : t' ≠ t := by
    rintro rfl
    rw [← hc, hcode] at hlocked
    exact hlocked.1 hholds'
  induction c generalizing x with
  | nil => exact absurd hholds' (hlocked mMutex)
  | cons a c ih =>
    cases a with
    | lock m =>
      have hwants' : x.Wants t' m := by rw [State.Wants, hc, List.head?_cons]
      cases m with
      | mMutex => exact absurd hholds' hlocked.1
      | mCallbackMutex => exact ⟨x, .refl, deadlocked_of_pair _ _ _ _ hwants hholds' hwants' hholds⟩
    | unlock m =>
      cases m with
      | mCallbackMutex => exact absurd (Option.some.inj (hlocked.1.symm.trans hholds)) hne
      | mMutex =>
        -- the connection is unlocked, and the thread takes it
        have hfree : (x.unlocks t' mMutex c).holder mMutex = none := State.holder_unlocks_self
        have hcode' : (x.unlocks t' mMutex c).code t =
            .lock mMutex :: .lock mCallbackMutex :: s := by
          rw [State.code_unlocks_of_ne hne.symm, hcode]
        refine ⟨_, .tail (.single ⟨_, .unlocks hc⟩) ⟨_, .locks hcode' hfree⟩,
          deadlocked_of_self (t := t) (m := mCallbackMutex) ?_ ?_⟩
        · rw [State.Wants, State.code_locks_self, List.head?_cons]
        · rw [State.holds_locks hfree, State.holds_unlocks]
          exact Or.inr ⟨Mutex.noConfusion, hholds⟩
    | other k =>
      cases k with
      | deliver =>
        rw [eq_nil_of_deliver hchain] at hlocked
        exact absurd hholds' (hlocked mMutex)
      | user =>
        have hcode' : (x.goesOn t' c).code t = .lock mMutex :: .lock mCallbackMutex :: s := by
          rw [State.code_goesOn_of_ne hne.symm, hcode]
        obtain ⟨z, hz, hdead⟩ := ih hcode' hholds State.code_goesOn_self hholds' hlocked hchain.tail
          (by rw [State.Wants, hcode', List.head?_cons])
        exact ⟨z, .head ⟨_, .returns hc⟩ hz, hdead⟩

/-- An event that is not harmless leads to a deadlock. -/
theorem leads_of_harmful {x y : Process} {e : Event} (hx : Inv x) (h : Step x e y)
    (he : ¬ Harmless x e) : ∃ z, Leads y z ∧ z.Deadlocked := by
  cases h with
  | unlocks | returns | delivers | ignores | stops => exact absurd trivial he
  | @locks t m s h hfree =>
    cases m with
    | mCallbackMutex => exact absurd trivial he
    | mMutex =>
      rw [Harmless] at he
      push Not at he
      obtain ⟨hnext, t', hholds', hwants'⟩ := he
      have hne : t' ≠ t := by
        rintro rfl
        have hlocked := hx.balanced t'
        rw [h] at hlocked hnext
        obtain ⟨s', rfl⟩ : ∃ s', s = .lock mCallbackMutex :: s' := by
          cases s with
          | nil => cases hnext
          | cons a s' => exact ⟨s', congrArg (· :: s') (Option.some.inj hnext)⟩
        exact hlocked.2.1 (Or.inr hholds')
      refine ⟨_, .refl, deadlocked_of_pair t t' mCallbackMutex mMutex
        ?_ ?_ ?_ ?_⟩
      · rw [h, List.getElem?_cons_succ, ← List.head?_eq_getElem?] at hnext
        rw [State.Wants, State.code_locks_self]
        exact hnext
      · exact (State.holds_locks hfree).mpr (Or.inr hholds')
      · rw [State.Wants, State.code_locks_of_ne hne]
        exact hwants'
      · exact (State.holds_locks hfree).mpr (Or.inl ⟨rfl, rfl⟩)
  | @calls t s f h =>
    have hwants : (x.goesOn t (f.body ++ .other user :: s)).Wants t mMutex := by
      rw [State.Wants, State.code_goesOn_self]
      cases f <;> rfl
    by_cases hself : x.Holds t mMutex
    · exact ⟨_, .refl, deadlocked_of_self hwants hself⟩
    rw [Harmless] at he
    push Not at he
    obtain ⟨hholds, he⟩ := he hself
    by_cases hpair : ∃ t', x.Holds t' mMutex ∧ x.Wants t' mCallbackMutex
    · obtain ⟨t', hholds', hwants'⟩ := hpair
      have hne : t' ≠ t := by
        rintro rfl
        exact hself hholds'
      refine ⟨_, .refl, deadlocked_of_pair t t' mMutex mCallbackMutex hwants hholds' ?_ hholds⟩
      rw [State.Wants, State.code_goesOn_of_ne hne]
      exact hwants'
    · push Not at hpair
      have hf : f = .registration := by
        by_contra hf
        obtain ⟨t', hholds', hwants'⟩ := he hf
        exact hpair t' hholds' hwants'
      subst hf
      have hcode : (x.goesOn t (ApiFunction.registration.body ++ .other user :: s)).code t =
          .lock mMutex :: .lock mCallbackMutex :: .unlock mCallbackMutex :: .unlock mMutex ::
            .other user :: s := State.code_goesOn_self
      cases hholder : x.holder mMutex with
      | none =>
        have hfree : (x.goesOn t (ApiFunction.registration.body ++ .other user :: s)).holder
            mMutex = none := hholder
        refine ⟨_, .single ⟨_, .locks hcode hfree⟩,
          deadlocked_of_self (t := t) (m := mCallbackMutex) ?_ ?_⟩
        · rw [State.Wants, State.code_locks_self, List.head?_cons]
        · rw [State.holds_locks hfree]
          exact Or.inr hholds
      | some t' =>
        have hne : t' ≠ t := by
          rintro rfl
          exact hself hholder
        exact leads_of_registration hcode hholds (State.code_goesOn_of_ne hne) hholder
          (hx.balanced t') (hx.follows t')

/-- A run of harmless events does not end in a circle of threads. -/
theorem Reachable.not_deadlocked {x : Process} (h : Reachable x) : ¬ x.Deadlocked := by
  have hx := h.inv
  refine State.not_deadlocked hx.balanced ?_ ?_
  · intro m m' m''
    cases m <;> cases m' <;> cases m'' <;> simp
  · intro t t' m m' hwants hholds' hwants' hholds
    cases m <;> cases m'
    · exact hx.balanced.not_holds hwants hholds
    · exact hx.apart t' t hholds' hwants' hholds hwants
    · exact hx.apart t t' hholds hwants hholds' hwants'
    · exact hx.balanced.not_holds hwants hholds

/-- **When there is a deadlock**: as long as all events are harmless, no threads wait for each other
in a circle, and no thread waits for a mutex that it holds; and from an event that is not harmless
there is a way into a deadlock. -/
theorem deadlock_free {x : Process} (hx : Reachable x) :
    (¬ x.Deadlocked ∧ ∀ t m, x.Wants t m → ¬ x.Holds t m) ∧
      ∀ e y, Step x e y → ¬ Harmless x e → ∃ z, Leads y z ∧ z.Deadlocked :=
  ⟨⟨hx.not_deadlocked, fun _ _ => hx.inv.balanced.not_holds⟩,
    fun _ _ h he => leads_of_harmful hx.inv h he⟩

/-- The callback thread has delivered a trigger, and the user's function has sent a request. -/
def callingBack : Process :=
  let loop : Code := [.unlock mCallbackMutex, .other deliver]
  let delivered := (initial.goesOn 0 (.lock mCallbackMutex :: .other user :: loop)).locks 0
    mCallbackMutex (.other user :: loop)
  (delivered.goesOn 0 (.lock mMutex :: .unlock mMutex :: .other user :: loop)).locks 0 mMutex
    (.unlock mMutex :: .other user :: loop)

/-- It holds both mutexes, and nothing is wrong. -/
theorem deadlock_free_callback :
    (callingBack.Holds 0 mMutex ∧ callingBack.Holds 0 mCallbackMutex) ∧
      ¬ callingBack.Deadlocked := by
  have hdelivers : Reachable _ := .step .initial (.delivers (t := 0) (s := []) rfl) trivial
  have hlocks : Reachable _ := .step hdelivers (.locks (t := 0) rfl rfl) trivial
  have hcalls : Reachable _ := .step hlocks (.calls (t := 0) .request rfl)
    ⟨nofun, fun _ => ⟨nofun, fun _ h => nomatch h⟩⟩
  have htakes : Reachable callingBack := .step hcalls (.locks (t := 0) rfl rfl) nofun
  exact ⟨⟨rfl, rfl⟩, (deadlock_free htakes).1.1⟩

/-- A user's function calls into the library while another thread registers a callback. -/
theorem deadlocks_on_registration : ¬ ∀ x, Leads initial x → ¬ x.Deadlocked := by
  intro h
  have hdelivers : Leads initial _ := .single ⟨_, .delivers (t := 0) (s := []) rfl⟩
  have hlocks : Leads initial _ := .tail hdelivers ⟨_, .locks (t := 0) rfl rfl⟩
  have hregisters : Leads initial _ :=
    .tail hlocks ⟨_, .calls (t := 1) (s := []) .registration rfl⟩
  have htakes : Leads initial _ := .tail hregisters ⟨_, .locks (t := 1) rfl rfl⟩
  have hcalls : Leads initial _ :=
    .tail htakes ⟨_, .calls (t := 0) .request rfl⟩
  exact h _ hcalls (deadlocked_of_pair 0 1 mMutex mCallbackMutex rfl rfl rfl rfl)

end Mutexes
end RemoteCL

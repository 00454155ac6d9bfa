import RemoteCL.Session.History
import RemoteCL.Session.OverSockets
import RemoteCL.Theory.Determinism

/-!
# Calls take effect one at a time

The threads of an application share a connection, and its mutex is theirs for the time of a call.
It is free again when the client has its reply.  The server may still be on its way to the top of
its loop by then, and its streams may be in use; so the calls of two threads do overlap.

Nobody can tell.  What a run of the threads returns, and what it leaves behind in the client, in the
server and in the driver, is what the same calls return and leave behind if they are made one by
one, in the order in which the threads have got the mutex, and each of them on a connection that is
at rest (`SocketThreads.linearizable`).  If the driver has one answer to each question, then this
order is all that matters: neither the schedule of the parties nor the way in which the network cuts
the bytes makes a difference (`SocketThreads.schedule_independent`).
-/

namespace RemoteCL

open ByteStream Conversation Client

namespace SocketThreads

variable {ι δ : Type} {C : Build}

/-! ## Histories -/

variable (ι δ C) in
/-- A call that has returned. -/
structure Returned where
  thread : ι
  call : (apiCalls C δ).Call
  result : Ret

variable (E : δ → (c : ServerCall) → Ans c → δ → Prop) (B : ServerBuild)
variable (s₀ : ClientState) (t₀ : ServerState) (e₀ : δ)

/-- Calls that are made one by one, each when the one before it has come to rest, and the state that
they lead to. -/
inductive OneByOne : List (Returned ι δ C) → ClientState → ServerState → δ → Prop
  | nil : OneByOne [] s₀ t₀ e₀
  | snoc {xs s t e r s' t' e'} (h : OneByOne xs s t e) (i : ι) (c : (apiCalls C δ).Call)
    (hrun : Relation.ReflTransGen (Conversation.Step E (ServerInstance.serve B))
      (RemoteCL.start B (c.1.call C) s t e) (RemoteCL.start B (.ret r) s' t' e')) :
    OneByOne (xs ++ [⟨i, c, r⟩]) s' t' e'

/-- The calls, when the one that is being made has returned `r`. -/
def finished (xs : List (Returned ι δ C)) (p : Option (ι × (apiCalls C δ).Call)) (r : Ret) :
    List (Returned ι δ C) := xs ++ (p.map fun q => ⟨q.1, q.2, r⟩).toList

theorem calls_finished (xs : List (Returned ι δ C)) (p : Option (ι × (apiCalls C δ).Call))
    (r : Ret) :
    (finished xs p r).map Returned.call = xs.map Returned.call ++ (p.map Prod.snd).toList := by
  rw [finished, List.map_append]
  cases p <;> rfl

theorem finished_none (xs : List (Returned ι δ C)) (r : Ret) : finished xs none r = xs :=
  List.append_nil xs

variable [DecidableEq ι]

/-- The runs of `Step`, with the calls that have returned, in the order in which they were made, and
the call that is being made. -/
inductive Logged : List (Returned ι δ C) → Option (ι × (apiCalls C δ).Call) →
    SocketThreads ι δ C → Prop
  | start (buffers : Fin 4 → Buffer) : Logged [] none (start B s₀ t₀ e₀ buffers)
  | call {xs p w h x i} (c : (apiCalls C δ).Call) (hi : w i = none) (hh : h ≠ some i)
    (hx : Logged xs p ⟨w, h, x⟩) : Logged xs p ⟨Function.update w i (some c), h, x⟩
  | lock {xs w x i c} (hi : w i = some c) (hx : Logged xs none ⟨w, none, x⟩) :
    Logged xs (some (i, c)) ⟨Function.update w i none, some i,
      { x with client := { x.client with prog := c.1.call C } }⟩
  | talk {xs p w h x x'} (hstep : Buffered.Step E (ServerInstance.serve B) x x')
    (hx : Logged xs p ⟨w, h, x⟩) : Logged xs p ⟨w, h, x'⟩
  | unlock {xs w i c x r} (hr : x.client.prog = .ret r)
    (hx : Logged xs (some (i, c)) ⟨w, some i, x⟩) :
    Logged (xs ++ [⟨i, c, r⟩]) none ⟨w, none, x⟩

variable {E B s₀ t₀ e₀}

section Log

variable {xs : List (Returned ι δ C)} {p : Option (ι × (apiCalls C δ).Call)}
variable {x : SocketThreads ι δ C}

/-- The thread that has the mutex makes the call. -/
theorem Logged.holder (h : Logged E B s₀ t₀ e₀ xs p x) : x.holder = p.map Prod.fst := by
  induction h with
  | start => rfl
  | call _ _ _ _ ih => exact ih
  | lock => rfl
  | talk _ _ ih => exact ih
  | unlock => rfl

/-- A logged run is a run. -/
theorem Logged.reachable (h : Logged E B s₀ t₀ e₀ xs p x) : Reachable E B s₀ t₀ e₀ x := by
  induction h with
  | start buffers => exact ⟨buffers, .refl⟩
  | call c hi hh _ ih => exact ⟨ih.choose, ih.choose_spec.tail (.call c hi hh)⟩
  | lock hi _ ih => exact ⟨ih.choose, ih.choose_spec.tail (.lock hi)⟩
  | talk hstep _ ih => exact ⟨ih.choose, ih.choose_spec.tail (.talk hstep)⟩
  | unlock hr _ ih => exact ⟨ih.choose, ih.choose_spec.tail (.unlock hr)⟩

/-- Every run can be logged. -/
theorem Reachable.exists_logged (h : Reachable E B s₀ t₀ e₀ x) :
    ∃ xs p, Logged E B s₀ t₀ e₀ xs p x := by
  obtain ⟨buffers, hrun⟩ := h
  induction hrun with
  | refl => exact ⟨[], none, .start buffers⟩
  | tail _ hstep ih =>
    obtain ⟨xs, p, hx⟩ := ih
    cases hstep with
    | call c hi hh => exact ⟨xs, p, hx.call c hi hh⟩
    | lock hi =>
      obtain rfl : p = none := Option.map_eq_none_iff.mp hx.holder.symm
      exact ⟨xs, _, hx.lock hi⟩
    | talk hstep => exact ⟨xs, p, hx.talk hstep⟩
    | unlock hr =>
      obtain ⟨⟨i, c⟩, rfl, hi⟩ := Option.map_eq_some_iff.mp hx.holder.symm
      obtain rfl : i = _ := hi
      exact ⟨_, none, hx.unlock hr⟩

end Log

/-! ## One call -/

section Call

variable {A : Set Ptr} {s s' : ClientState} {t t' : ServerState} {e e' : δ} {r : Ret}
variable {c : (apiCalls C δ).Call}

/-- A call that has come to rest says what it has returned and what it has left behind. -/
theorem start_ret_inj {r' : Ret}
    (h : RemoteCL.start B (.ret r) s t e = RemoteCL.start B (.ret r') s' t' e') :
    r = r' ∧ s = s' ∧ t = t' ∧ e = e' := by
  simp only [RemoteCL.start, Config.mk.injEq, Side.mk.injEq, Prog.ret.injEq, and_true,
    true_and] at h
  exact ⟨h.1.1, h.1.2, h.2.1, h.2.2⟩

theorem good_of_eq_nil (ht : t.mObjects = []) : Good A t.mObjects := by
  rw [ht]
  exact good_nil _

/-- A call that is made at rest comes to rest, by its own steps. -/
theorem settles_call (hI : (apiCalls C δ).Lawful E B A) (hg : Good A t.mObjects) :
    Settles E (ServerInstance.serve B)
      (Final B A fun r s' t' e' =>
        Relation.ReflTransGen (Conversation.Step E (ServerInstance.serve B))
          (RemoteCL.start B (c.1.call C) s t e) (RemoteCL.start B (.ret r) s' t' e'))
      (RemoteCL.start B (c.1.call C) s t e) := by
  refine (Settles.reached (hI c s t e hg trivial)).mono ?_
  rintro y ⟨⟨r, s', t', e', -, rfl⟩ | hhang, hrun⟩
  · exact Or.inl ⟨r, s', t', e', hrun, rfl⟩
  · exact Or.inr hhang

/-- A call that is made when the last one has returned, but the conversation may still go on. -/
theorem settles_next {J : ClientState → ServerState → δ → Prop} {G : CallConfig δ → Prop}
    {p : ClientM Ret} {y : CallConfig δ} (hr : y.client.prog = .ret r)
    (h : Settles E (ServerInstance.serve B) (Final B A fun _ => J) y)
    (hnext : ∀ s t e, J s t e → Settles E (ServerInstance.serve B) G (RemoteCL.start B p s t e)) :
    Settles E (ServerInstance.serve B) G (resume p y) := by
  obtain ⟨⟨q, s, o⟩, server, u, d, e⟩ := y
  obtain rfl : q = .ret r := hr
  refine Settles.resume (fun server u d e hfinal => ?_) h
  obtain ⟨r', s', t', e', hJ, heq⟩ | ⟨q, s', t', e', a, -, -, -, heq⟩ := hfinal
  · simp only [RemoteCL.start, Config.mk.injEq, Side.mk.injEq] at heq
    obtain ⟨⟨-, rfl, rfl⟩, rfl, rfl, rfl, rfl⟩ := heq
    exact hnext s t' e hJ
  · cases heq

/-- It leaves a good table behind. -/
theorem good_of_run (hE : AllLegal A E) (hI : (apiCalls C δ).Lawful E B A)
    (hg : Good A t.mObjects)
    (hrun : Relation.ReflTransGen (Conversation.Step E (ServerInstance.serve B))
      (RemoteCL.start B (c.1.call C) s t e) (RemoteCL.start B (.ret r) s' t' e')) :
    Good A t'.mObjects := by
  have hsettles := Settles.run stable_final (hI c s t e hg trivial) hrun
  obtain ⟨k, hserve⟩ := serve_eq_peek (B := B)
  have hfinal := (settles_stuck (x := RemoteCL.start B (.ret r) s' t' e') (fun hr => hr)
    (by rw [RemoteCL.start, hserve]; exact fun hr => hr rfl) serve_ne_ret).mp hsettles
  obtain ⟨r', s₁, t₁, e₁, heffect, heq⟩ | ⟨q, s₁, t₁, e₁, a, -, -, -, heq⟩ := hfinal
  · obtain ⟨rfl, rfl, rfl, rfl⟩ := start_ret_inj heq
    exact heffect.good hE hg
  · cases heq

omit [DecidableEq ι] in
theorem OneByOne.good {xs : List (Returned ι δ C)} (hE : AllLegal A E)
    (hI : (apiCalls C δ).Lawful E B A) (hg : Good A t₀.mObjects)
    (h : OneByOne E B s₀ t₀ e₀ xs s t e) : Good A t.mObjects := by
  induction h with
  | nil => exact hg
  | snoc _ i c hrun ih => exact good_of_run hE hI ih hrun

end Call

/-! ## The invariant -/

section Log

variable {A : Set Ptr} {xs : List (Returned ι δ C)} {p : Option (ι × (apiCalls C δ).Call)}
variable {x : SocketThreads ι δ C}

theorem Logged.holds (h : Logged E B s₀ t₀ e₀ xs p x) : x.Holds := h.reachable.simulated.1

/-- **The invariant of a run**: without its buffers the conversation comes to rest, where it would
be if the calls had been made one by one. -/
theorem Logged.settles (hE : AllLegal A E) (hI : (apiCalls C δ).Lawful E B A)
    (hg : Good A t₀.mObjects) (h : Logged E B s₀ t₀ e₀ xs p x) :
    Settles E (ServerInstance.serve B)
      (Final B A fun r s t e => OneByOne E B s₀ t₀ e₀ (finished xs p r) s t e) x.conv.abs := by
  induction h with
  | start => exact .final (Or.inl ⟨_, _, _, _, .nil, rfl⟩)
  | call _ _ _ _ ih => exact ih
  | talk hstep hx ih =>
    exact ih.run stable_final (Buffered.run_simulated hx.holds.conv (.single hstep)).2
  | @unlock xs w i c x r hr hx ih =>
    have hr' : x.abs.client.prog = .ret r := hr
    refine (ih.keeps_result hr').mono ?_
    rintro y ⟨⟨r', s, t, e, hone, rfl⟩ | hhang, hprog⟩
    · obtain rfl : r' = r := Prog.ret.inj hprog
      refine Or.inl ⟨_, s, t, e, ?_, rfl⟩
      show OneByOne E B s₀ t₀ e₀ (finished _ none r') s t e
      rwa [finished_none]
    · exact Or.inr hhang
  | @lock xs w x i c hi hx ih =>
    obtain ⟨r, hr⟩ := hx.holds.returned rfl
    have hr' : x.abs.client.prog = .ret r := hr
    simp only [finished_none] at ih
    refine settles_next hr' ih fun s t e hone => ?_
    have hcall := settles_call (c := c) (s := s) (e := e) hI (hone.good hE hI hg)
    exact hcall.mono fun _ => Final.mono fun hrun => hone.snoc i c hrun

end Log

/-! ## All runs -/

section Runs

variable {A : Finset Ptr} {xs ys : List (Returned ι δ C)}
variable {p q : Option (ι × (apiCalls C δ).Call)} {x y : SocketThreads ι δ C}

/-- Where there are no more objects than IDs, no search of the server goes on for ever. -/
theorem Logged.rests (hA : A.card ≤ 65536) (hE : AllLegal A E)
    (hI : (apiCalls C δ).Lawful E B A) (ht : t₀.mObjects = [])
    (h : Logged E B s₀ t₀ e₀ xs p x) :
    Settles E (ServerInstance.serve B)
      (Final B ∅ fun r s t e => OneByOne E B s₀ t₀ e₀ (finished xs p r) s t e) x.conv.abs := by
  refine (h.settles hE hI (good_of_eq_nil ht)).mono ?_
  rintro y (hrest | ⟨q, s, t, e, a, hg, ha, hnone, -⟩)
  · exact Or.inl hrest
  · exact absurd (hg.card_lt ha hnone) (by omega)

variable (E B) in
/-- A conversation stops. -/
def StopsAt (x y : SocketConfig δ) : Prop :=
  Relation.ReflTransGen (Buffered.Step E (ServerInstance.serve B)) x y ∧
    ∀ z, ¬ Buffered.Step E (ServerInstance.serve B) y z

/-- Wherever a run has led, the conversation comes to rest. -/
theorem Logged.stops_at_rest (hA : A.card ≤ 65536) (hE : AllLegal A E) (hanswers : Answers E)
    (hI : (apiCalls C δ).Lawful E B A) (ht : t₀.mObjects = [])
    (h : Logged E B s₀ t₀ e₀ xs p x) :
    Halts (Buffered.Step E (ServerInstance.serve B)) x.conv ∧ ∀ y, StopsAt E B x.conv y →
      AtRest B (fun r s t e => OneByOne E B s₀ t₀ e₀ (finished xs p r) s t e) y.abs := by
  obtain ⟨hhalts, hfinal⟩ := Buffered.Settles.buffered hanswers terminal_final h.holds.conv
    (h.rests hA hE hI ht)
  exact ⟨hhalts, fun y hy => (final_empty y.abs).mp (hfinal y hy.1 hy.2)⟩

/-- **Calls are linearizable**: wherever a run of the threads has led, the conversation does not go
on for ever; and where it stops, the calls have returned, and have left behind in the client, in the
server and in the driver, what they do if they are made one by one, in the order in which the
threads have got the mutex, and each of them at rest. -/
theorem linearizable (hA : A.card ≤ 65536) (hE : AllLegal A E) (hanswers : Answers E)
    (hB : 210 ≤ B.clTarget) (haccepted : Accepted C B.toBuild) (hz : ZlibInverts C B.toBuild)
    (ht : t₀.mObjects = []) (h : Logged E B s₀ t₀ e₀ xs p x) :
    Halts (Buffered.Step E (ServerInstance.serve B)) x.conv ∧ ∀ y, StopsAt E B x.conv y →
      AtRest B (fun r s t e => OneByOne E B s₀ t₀ e₀ (finished xs p r) s t e) y.abs :=
  h.stops_at_rest hA hE hanswers (lawful_apiCalls hE hB haccepted hz) ht

/-- The first call on a new connection. -/
theorem logged_call (i : ι) (c : (apiCalls C δ).Call) (buffers : Fin 4 → Buffer) :
    Logged E B s₀ t₀ e₀ [] (some (i, c))
      ⟨Function.update (Function.update (fun _ => none) i (some c)) i none, some i,
        connected (c.1.call C) s₀ (buffers 0) (buffers 1),
        connected (ServerInstance.serve B) t₀ (buffers 2) (buffers 3), [], [], e₀⟩ :=
  ((Logged.start buffers).call c rfl (Option.some_ne_none i).symm).lock (Function.update_self i _ _)

theorem accepted_plainBuild : Accepted plainBuild plainBuild :=
  ⟨_, [], _, LawfulWire.reads_dec (VersionPacket.ofBuild plainBuild) [], by decide⟩

/-- The platforms are asked for, by one of two threads. -/
theorem linearizable_clGetPlatformIDs :
    let c : (apiCalls plainBuild Unit).Call := ⟨.clGetPlatformIDs 1 true true, fun h => by cases h⟩
    let x : SocketConfig Unit := ⟨connected (c.1.call plainBuild) ⟨[], 0, [], false, []⟩
      Buffer.zeros Buffer.zeros, connected (ServerInstance.serve ⟨plainBuild, 210⟩) ⟨[], none⟩
      Buffer.zeros Buffer.zeros, [], [], ()⟩
    Halts (Buffered.Step (AnyLegal {0}) (ServerInstance.serve ⟨plainBuild, 210⟩)) x ∧
      ∀ y, StopsAt (AnyLegal {0}) ⟨plainBuild, 210⟩ x y →
        AtRest ⟨plainBuild, 210⟩ (fun r s t e => OneByOne (AnyLegal {0}) ⟨plainBuild, 210⟩
          ⟨[], 0, [], false, []⟩ ⟨[], none⟩ ()
          (finished ([] : List (Returned (Fin 2) Unit plainBuild)) (some (0, c)) r) s t e)
          y.abs := by
  intro c x
  have hE : AllLegal (({0} : Finset Ptr) : Set Ptr) (AnyLegal {0}) := fun _ c a _ h => by
    rwa [Finset.coe_singleton]
  exact linearizable (A := {0}) (B := ⟨plainBuild, 210⟩) (C := plainBuild) (by simp) hE
    answers_anyLegal (le_refl 210) accepted_plainBuild (fun _ h => by cases h) rfl
    (logged_call 0 c fun _ => Buffer.zeros)

/-! ## Drivers with one answer -/

omit [DecidableEq ι] in
/-- Made one by one, the calls leave nothing open. -/
theorem OneByOne.functional (hanswers : Answers E) (hfunctional : Functional E)
    (hE : AllLegal A E) (hI : (apiCalls C δ).Lawful E B A) (hg : Good A t₀.mObjects)
    {s s' : ClientState} {t t' : ServerState} {e e' : δ}
    (hx : OneByOne E B s₀ t₀ e₀ xs s t e) (hy : OneByOne E B s₀ t₀ e₀ ys s' t' e')
    (hcalls : xs.map Returned.call = ys.map Returned.call) :
    xs.map Returned.result = ys.map Returned.result ∧ s = s' ∧ t = t' ∧ e = e' := by
  induction hx generalizing ys s' t' e' with
  | nil =>
    cases hy with
    | nil => exact ⟨rfl, rfl, rfl, rfl⟩
    | snoc => simp at hcalls
  | @snoc xs s₁ t₁ e₁ r s₂ t₂ e₂ hone i c hrun ih =>
    cases hy with
    | nil => simp at hcalls
    | @snoc ys s₃ t₃ e₃ r' _ _ _ hone' j c' hrun' =>
      rw [List.map_append, List.map_append] at hcalls
      obtain ⟨hbefore, hlast⟩ := List.append_inj' hcalls rfl
      obtain ⟨hresults, rfl, rfl, rfl⟩ := ih hone' hbefore
      obtain rfl : c = c' := List.head_eq_of_cons_eq hlast
      -- both runs of the last call stop at the same place
      obtain ⟨z, -, hz⟩ := Settles.unique hanswers hfunctional terminal_final
        (hI c s₁ t₁ e₁ (hone.good hE hI hg) trivial)
      have heq := (hz _ hrun fun _ => not_step_rest).trans (hz _ hrun' fun _ => not_step_rest).symm
      obtain ⟨rfl, rfl, rfl, rfl⟩ := start_ret_inj heq
      refine ⟨?_, rfl, rfl, rfl⟩
      rw [List.map_append, List.map_append, hresults]
      rfl

omit [DecidableEq ι] in
/-- The calls that have returned were made one by one, too. -/
theorem OneByOne.returned {r : Ret} {s : ClientState} {t : ServerState} {e : δ}
    (h : OneByOne E B s₀ t₀ e₀ (finished xs p r) s t e) :
    ∃ s t e, OneByOne E B s₀ t₀ e₀ xs s t e := by
  cases p with
  | none =>
    rw [finished_none] at h
    exact ⟨s, t, e, h⟩
  | some q =>
    generalize hfinished : finished xs (some q) r = zs at h
    cases h with
    | nil => exact absurd hfinished (List.append_ne_nil_of_right_ne_nil _ (List.cons_ne_nil _ _))
    | snoc h i c hrun =>
      obtain ⟨rfl, -⟩ := List.append_inj' hfinished rfl
      exact ⟨_, _, _, h⟩

theorem Logged.exists_oneByOne (hA : A.card ≤ 65536) (hE : AllLegal A E) (hanswers : Answers E)
    (hI : (apiCalls C δ).Lawful E B A) (ht : t₀.mObjects = [])
    (h : Logged E B s₀ t₀ e₀ xs p x) : ∃ s t e, OneByOne E B s₀ t₀ e₀ xs s t e := by
  obtain ⟨y, -, hy⟩ := (h.rests hA hE hI ht).exists_final hanswers
  obtain ⟨r, s, t, e, hone, -⟩ := (final_empty y).mp hy
  exact hone.returned

/-- **The schedule makes no difference**: on a driver that has one answer to each question, two runs
in which the threads have got the mutex for the same calls, in the same order, return the same; and
if both come to rest, they leave the same behind. -/
theorem schedule_independent (hA : A.card ≤ 65536) (hE : AllLegal A E) (hanswers : Answers E)
    (hfunctional : Functional E) (hB : 210 ≤ B.clTarget) (haccepted : Accepted C B.toBuild)
    (hz : ZlibInverts C B.toBuild) (ht : t₀.mObjects = [])
    (hx : Logged E B s₀ t₀ e₀ xs p x) (hy : Logged E B s₀ t₀ e₀ ys q y)
    (hcalls : xs.map Returned.call = ys.map Returned.call) :
    xs.map Returned.result = ys.map Returned.result ∧
      (p.map Prod.snd = q.map Prod.snd → ∀ x' y', StopsAt E B x.conv x' → StopsAt E B y.conv y' →
        x'.client.st = y'.client.st ∧ x'.server.st = y'.server.st ∧ x'.env = y'.env) := by
  have hI := lawful_apiCalls (A := A) hE hB haccepted hz
  have hgood : Good (A : Set Ptr) t₀.mObjects := good_of_eq_nil ht
  obtain ⟨s, t, e, hone⟩ := hx.exists_oneByOne hA hE hanswers hI ht
  obtain ⟨s', t', e', hone'⟩ := hy.exists_oneByOne hA hE hanswers hI ht
  refine ⟨(hone.functional hanswers hfunctional hE hI hgood hone' hcalls).1, ?_⟩
  intro hpq x' y' hx' hy'
  obtain ⟨r₁, s₁, t₁, e₁, hone₁, hx'⟩ := (hx.stops_at_rest hA hE hanswers hI ht).2 x' hx'
  obtain ⟨r₂, s₂, t₂, e₂, hone₂, hy'⟩ := (hy.stops_at_rest hA hE hanswers hI ht).2 y' hy'
  have hall : (finished xs p r₁).map Returned.call = (finished ys q r₂).map Returned.call := by
    rw [calls_finished, calls_finished, hcalls, hpq]
  obtain ⟨-, rfl, rfl, rfl⟩ := hone₁.functional hanswers hfunctional hE hI hgood hone₂ hall
  exact ⟨(congrArg (fun z => z.client.st) hx').trans (congrArg (fun z => z.client.st) hy').symm,
    (congrArg (fun z => z.server.st) hx').trans (congrArg (fun z => z.server.st) hy').symm,
    (congrArg (fun z => z.env) hx').trans (congrArg (fun z => z.env) hy').symm⟩

/-- A run of the conversation, in a run of the threads. -/
theorem Logged.talks {w : ι → Option (apiCalls C δ).Call} {h : Option ι} {x y : SocketConfig δ}
    (hxy : Relation.ReflTransGen (Buffered.Step E (ServerInstance.serve B)) x y)
    (hx : Logged E B s₀ t₀ e₀ xs p ⟨w, h, x⟩) : Logged E B s₀ t₀ e₀ xs p ⟨w, h, y⟩ := by
  induction hxy with
  | refl => exact hx
  | tail _ hstep ih => exact ih.talk hstep

/-- The first call returns. -/
theorem exists_logged_returned (hA : A.card ≤ 65536) (hE : AllLegal A E) (hanswers : Answers E)
    (hI : (apiCalls C δ).Lawful E B A) (ht : t₀.mObjects = []) (i : ι)
    (c : (apiCalls C δ).Call) (buffers : Fin 4 → Buffer) :
    ∃ r x, Logged E B s₀ t₀ e₀ [⟨i, c, r⟩] none x := by
  have hcall : Logged E B s₀ t₀ e₀ [] (some (i, c)) _ := logged_call i c buffers
  obtain ⟨hhalts, hrest⟩ := hcall.stops_at_rest hA hE hanswers hI ht
  obtain ⟨y, hrun, hstop⟩ := hhalts.exists_end
  obtain ⟨r, s, t, e, -, hy⟩ := hrest y ⟨hrun, hstop⟩
  have hr : y.client.prog = .ret r := congrArg (fun z => z.client.prog) hy
  exact ⟨r, _, (hcall.talks hrun).unlock hr⟩

/-- The driver that refuses everything. -/
abbrev Refuses : Unit → (c : ServerCall) → Ans c → Unit → Prop := fun _ c a _ => a = refuse c

/-- Two runs in which the platforms are asked for, once by the one and once by the other of two
threads. -/
theorem schedule_independent_clGetPlatformIDs :
    ∃ r, ∃ x y : SocketThreads (Fin 2) Unit plainBuild,
      Logged Refuses ⟨plainBuild, 210⟩ ⟨[], 0, [], false, []⟩ ⟨[], none⟩ ()
          [⟨0, ⟨.clGetPlatformIDs 1 true true, fun h => by cases h⟩, r⟩] none x ∧
        Logged Refuses ⟨plainBuild, 210⟩ ⟨[], 0, [], false, []⟩ ⟨[], none⟩ ()
          [⟨1, ⟨.clGetPlatformIDs 1 true true, fun h => by cases h⟩, r⟩] none y ∧
        ∀ x' y', StopsAt Refuses ⟨plainBuild, 210⟩ x.conv x' →
          StopsAt Refuses ⟨plainBuild, 210⟩ y.conv y' →
            x'.client.st = y'.client.st ∧ x'.server.st = y'.server.st ∧ x'.env = y'.env := by
  have hE : AllLegal (({0} : Finset Ptr) : Set Ptr) Refuses := fun _ c a _ h => by
    rw [h, Finset.coe_singleton]
    exact legal_refuse c
  have hanswers : Answers Refuses := fun _ c => ⟨refuse c, (), rfl⟩
  have hfunctional : Functional Refuses := fun _ _ _ _ _ _ h h' => ⟨h.trans h'.symm, rfl⟩
  have hz : ZlibInverts plainBuild plainBuild := fun _ h => by cases h
  have hI : (apiCalls plainBuild Unit).Lawful Refuses ⟨plainBuild, 210⟩ _ :=
    lawful_apiCalls hE (le_refl 210) accepted_plainBuild hz
  have hA : ({0} : Finset Ptr).card ≤ 65536 := by simp
  have hreturned (i : Fin 2) : ∃ r x, Logged Refuses ⟨plainBuild, 210⟩ ⟨[], 0, [], false, []⟩
      ⟨[], none⟩ () [⟨i, ⟨.clGetPlatformIDs 1 true true, fun h => by cases h⟩, r⟩] none x :=
    exists_logged_returned hA hE hanswers hI rfl i _ fun _ => Buffer.zeros
  obtain ⟨r, x, hx⟩ := hreturned 0
  obtain ⟨r', y, hy⟩ := hreturned 1
  obtain ⟨hresult, hstates⟩ := schedule_independent (B := ⟨plainBuild, 210⟩) (C := plainBuild)
    hA hE hanswers hfunctional (le_refl 210) accepted_plainBuild hz rfl hx hy rfl
  obtain rfl : r = r' := List.head_eq_of_cons_eq hresult
  exact ⟨r, x, y, hx, hy, hstates rfl⟩

end Runs

end SocketThreads

end RemoteCL

import RemoteCL.Session.Calls
import RemoteCL.Theory.Execute
import Mathlib.Logic.Function.Basic

/-!
# Runs

The threads of an application make calls, on one connection.  A call takes the lock of the
connection, and leaves it when it returns; the server may still be busy with its loop by then.  So a
run interleaves the calls of the threads, and within a call the steps of the two parties.

What calls there are is an `Interface`.  A call may have to be made with care: `Safe` says in which
states of the server and the driver it can be made.  `Threads.inv` is the induction over runs:
whatever holds of a new connection, and is kept by the effect of every call, holds whenever a call
has come to rest, and every call does come to rest.  With the table of the server as the invariant
it says that the parties stay in step (`Threads.inStep`).
-/

namespace RemoteCL

open ByteStream Conversation Client

/-- The calls that an application may make. -/
structure Interface (δ : Type) where
  Call : Type
  program : Call → ClientM Ret
  /-- How many of the IDs in its reply a call resolves. -/
  takes : Call → List IDType → ℕ
  /-- The call may store a part of a handle. -/
  truncates : Call → Bool
  /-- The call can be made in such a state of the server and the driver. -/
  Safe : Call → ServerState → δ → Prop

section Runs

variable {ι δ : Type} [DecidableEq ι]

/-- The threads of an application, and their connection. -/
structure Threads (ι : Type) {δ : Type} (I : Interface δ) where
  /-- The calls that wait for the connection. -/
  waiting : ι → Option I.Call
  /-- The thread that has locked the connection. -/
  holder : Option ι
  conv : CallConfig δ

/-- The client goes on with another program. -/
def resume (p : ClientM Ret) (x : CallConfig δ) : CallConfig δ :=
  { x with client := { x.client with prog := p } }

variable (E : δ → (c : ServerCall) → Ans c → δ → Prop) (B : ServerBuild) {I : Interface δ}

/-- The conversation may come to rest in such a state. -/
def MayRest (x : CallConfig δ) (t : ServerState) (e : δ) : Prop :=
  ∃ r s, Relation.ReflTransGen (Conversation.Step E (ServerInstance.serve B)) x
    (start B (.ret r) s t e)

/-- A step of a thread, or of the conversation. -/
inductive Threads.Step : Threads ι I → Threads ι I → Prop
  | call {w h x i} (c : I.Call) (hi : w i = none) (hh : h ≠ some i) :
    Step ⟨w, h, x⟩ ⟨Function.update w i (some c), h, x⟩
  | lock {w x i c} (hi : w i = some c) (hsafe : ∀ t e, MayRest E B x t e → I.Safe c t e) :
    Step ⟨w, none, x⟩ ⟨Function.update w i none, some i, resume (I.program c) x⟩
  | talk {w h x x'} (hx : Conversation.Step E (ServerInstance.serve B) x x') :
    Step ⟨w, h, x⟩ ⟨w, h, x'⟩
  | unlock {w i x r} (hx : x.client.prog = .ret r) : Step ⟨w, some i, x⟩ ⟨w, none, x⟩

/-- No thread has called anything yet.  The client has returned from setting up the connection. -/
def Threads.start (s : ClientState) (t : ServerState) (e : δ) : Threads ι I :=
  ⟨fun _ => none, none, RemoteCL.start B (.ret (.code CL_SUCCESS)) s t e⟩

/-- What a run can lead to. -/
def Threads.Reachable (s : ClientState) (t : ServerState) (e : δ) (x : Threads ι I) : Prop :=
  Relation.ReflTransGen (Step E B) (start B s t e) x

variable (A : Set Ptr) (J : ClientState → ServerState → δ → Prop)

variable (I) in
/-- Every call comes to rest where it can be made. -/
def Interface.Lawful : Prop :=
  ∀ c s t e, Good A t.mObjects → I.Safe c t e →
    Completes E B A (I.takes c) (I.truncates c) (I.program c) s t e

variable (I) in
/-- What the calls keep. -/
structure Kept : Prop where
  good : ∀ {s t e}, J s t e → Good A t.mObjects
  effect : ∀ {s t e r s' t' e'} (c : I.Call), J s t e →
    Effect E (I.takes c) (I.truncates c) s t e r s' t' e' → J s' t' e'

/-- The invariant of a run: the call that has returned leaves the connection alone, and the
conversation comes to rest. -/
structure Threads.Inv (x : Threads ι I) : Prop where
  returned : x.holder = none → ∃ r, x.conv.client.prog = .ret r
  settles : Settles E (ServerInstance.serve B) (Final B A fun _ => J) x.conv

variable {E B A J}

/-- A call that is made while the server still finishes the last one. -/
theorem settles_resume (hI : I.Lawful E B A) (hJ : Kept E I A J) {x : CallConfig δ} {r : Ret}
    (hx : x.client.prog = .ret r)
    (h : Settles E (ServerInstance.serve B) (Final B A fun _ => J) x) {c : I.Call}
    (hsafe : ∀ t e, MayRest E B x t e → I.Safe c t e) :
    Settles E (ServerInstance.serve B) (Final B A fun _ => J) (resume (I.program c) x) := by
  have hreached := h.reached
  obtain ⟨⟨p, s, o⟩, server, u, d, e⟩ := x
  subst hx
  refine Settles.resume (fun server u d e hfinal => ?_) hreached
  obtain ⟨⟨r', s', t', e', hinv, heq⟩ | ⟨q, s', t', e', p, -, -, -, heq⟩, hrun⟩ := hfinal
  · rw [heq] at hrun
    have hmade : I.Safe c t' e' := hsafe t' e' ⟨r', s', hrun⟩
    simp only [RemoteCL.start, Config.mk.injEq, Side.mk.injEq] at heq
    obtain ⟨⟨-, rfl, rfl⟩, rfl, rfl, rfl, rfl⟩ := heq
    refine (hI c s t' e (hJ.good hinv) hmade).mono ?_
    rintro x (⟨r, s, t, e, heffect, rfl⟩ | hhang)
    · exact Or.inl ⟨r, s, t, e, hJ.effect c hinv heffect, rfl⟩
    · exact Or.inr hhang
  · cases heq

theorem Threads.Inv.step (hI : I.Lawful E B A) (hJ : Kept E I A J) {x y : Threads ι I}
    (hx : x.Inv E B A J) (h : Step E B x y) : y.Inv E B A J := by
  obtain ⟨hreturned, hsettles⟩ := hx
  cases h with
  | call => exact ⟨hreturned, hsettles⟩
  | lock hi hsafe =>
    obtain ⟨r, hr⟩ := hreturned rfl
    exact ⟨(fun h => nomatch h), settles_resume hI hJ hr hsettles hsafe⟩
  | talk hstep =>
    refine ⟨fun hnone => ?_, hsettles.step stable_final hstep⟩
    -- a client that has returned does not move
    obtain ⟨r, hr⟩ := hreturned hnone
    cases hstep with
    | @client c _ _ _ _ _ _ _ m =>
      obtain ⟨p, s, o⟩ := c
      have hp : p = .ret r := hr
      subst hp
      cases m
    | _ => exact ⟨r, hr⟩
  | unlock hr => exact ⟨fun _ => ⟨_, hr⟩, hsettles⟩

/-- **Runs keep what calls keep.** -/
theorem Threads.inv (hI : I.Lawful E B A) (hJ : Kept E I A J) {s : ClientState}
    {t : ServerState} {e : δ} (hinit : J s t e) {x : Threads ι I}
    (h : Reachable E B s t e x) : x.Inv E B A J := by
  induction h with
  | refl => exact ⟨fun _ => ⟨_, rfl⟩, Settles.final (Or.inl ⟨_, s, t, e, hinit, rfl⟩)⟩
  | tail _ hstep ih => exact ih.step hI hJ hstep

omit [DecidableEq ι] in
/-- Where there are no more objects than IDs, the server's search always ends. -/
theorem Threads.Inv.atRest {A : Finset Ptr} (hA : A.card ≤ 65536) {x : Threads ι I}
    (h : x.Inv E B A J) : Settles E (ServerInstance.serve B) (AtRest B fun _ => J) x.conv := by
  refine h.settles.mono ?_
  rintro x (hrest | ⟨q, s, t, e, p, hg, hp, hnone, -⟩)
  · exact hrest
  · exact absurd (hg.card_lt hp hnone) (by omega)

theorem kept_good (hE : AllLegal A E) : Kept E I A fun _ t _ => Good A t.mObjects where
  good hg := hg
  effect _ hg heffect := heffect.good hE hg

end Runs

/-! ## Executing calls -/

section Execute

variable {ι δ : Type} [DecidableEq ι] {I : Interface δ}
variable (answer : δ → (c : ServerCall) → Ans c × δ) (B : ServerBuild)

/-- What the client has returned, if it has. -/
def returned (x : CallConfig δ) : Option Ret :=
  match x.client.prog with
  | .ret r => some r
  | _ => none

theorem prog_eq_ret {x : CallConfig δ} {r : Ret} (h : returned x = some r) :
    x.client.prog = .ret r := by
  rw [returned] at h
  split at h
  · rw [← Option.some.inj h]
    assumption
  · exact nomatch h

/-- A call is made, and executed for `n` steps. -/
def executeCall (n : ℕ) (c : I.Call) (x : CallConfig δ) : CallConfig δ :=
  execute answer (ServerInstance.serve B) n (resume (I.program c) x)

/-- One call after the other. -/
def executeCalls (n : ℕ) (cs : List I.Call) (x : CallConfig δ) : CallConfig δ :=
  cs.foldl (fun x c => executeCall answer B n c x) x

/-- Each call has returned before the next one is made. -/
def returnAll (n : ℕ) : List I.Call → CallConfig δ → Bool
  | [], x => (returned x).isSome
  | c :: cs, x => (returned x).isSome && returnAll n cs (executeCall answer B n c x)

/-- No thread is calling. -/
def Threads.idle (x : CallConfig δ) : Threads ι I := ⟨fun _ => none, none, x⟩

variable {answer B} {E : δ → (c : ServerCall) → Ans c → δ → Prop} {s : ClientState}
variable {t : ServerState} {e : δ}

/-- The parties talk while the threads do nothing else. -/
theorem Threads.talks {w : ι → Option I.Call} {h : Option ι} {x y : CallConfig δ}
    (hxy : Relation.ReflTransGen (Conversation.Step E (ServerInstance.serve B)) x y) :
    Relation.ReflTransGen (Step E B) (⟨w, h, x⟩ : Threads ι I) ⟨w, h, y⟩ :=
  hxy.lift (Threads.mk w h) fun _ _ => .talk

theorem Threads.reachable_talk {w : ι → Option I.Call} {h : Option ι} {x y : CallConfig δ}
    (hx : Reachable E B s t e ⟨w, h, x⟩)
    (hxy : Relation.ReflTransGen (Conversation.Step E (ServerInstance.serve B)) x y) :
    Reachable E B s t e ⟨w, h, y⟩ := hx.trans (talks hxy)

/-- **The calls of one thread, executed one after the other, are a run.** -/
theorem Threads.reachable_executeCalls (hE : ∀ e c, E e c (answer e c).1 (answer e c).2)
    (hsafe : ∀ c t e, I.Safe c t e) (i : ι) {n : ℕ} {cs : List I.Call} {x : CallConfig δ}
    (hx : Reachable E B s t e (idle x : Threads ι I))
    (hreturn : returnAll answer B n cs x = true) :
    Reachable E B s t e (idle (executeCalls answer B n cs x) : Threads ι I) := by
  induction cs generalizing x with
  | nil => exact hx
  | cons c cs ih =>
    rw [returnAll, Bool.and_eq_true] at hreturn
    obtain ⟨-, hreturn⟩ := hreturn
    refine ih ?_ hreturn
    have hcall := hx.tail (.call (i := i) c rfl fun h => nomatch h)
    have hlock := hcall.tail (.lock (Function.update_self i _ _) fun _ _ _ => hsafe c _ _)
    rw [Function.update_idem, Function.update_eq_self i] at hlock
    have htalk := reachable_talk hlock (reaches_execute hE n _)
    -- the next call is only made when this one has returned, and so is the end of the list
    have hret : (returned (executeCall answer B n c x)).isSome := by
      cases cs with
      | nil => exact hreturn
      | cons d ds =>
        rw [returnAll, Bool.and_eq_true] at hreturn
        exact hreturn.1
    obtain ⟨r, hr⟩ := Option.isSome_iff_exists.mp hret
    exact htalk.tail (.unlock (prog_eq_ret hr))

end Execute

/-! ## Calls that can be made at any time -/

section ApiCalls

variable {ι δ : Type} [DecidableEq ι]

/-- The calls whose strings, lists and payloads fit into their fields. -/
def apiCalls (C : Build) (δ : Type) : Interface δ where
  Call := {c : ApiCall // c.Fits}
  program c := c.1.call C
  takes c := c.1.takes
  truncates c := c.1.truncates
  Safe _ _ _ := True

variable {E : δ → (c : ServerCall) → Ans c → δ → Prop} {B : ServerBuild} {C : Build} {e : δ}

theorem lawful_apiCalls {A : Set Ptr} (hE : AllLegal A E) (hB : 210 ≤ B.clTarget)
    (haccepted : Accepted C B.toBuild) (hz : ZlibInverts C B.toBuild) :
    (apiCalls C δ).Lawful E B A := fun c _ _ _ hg _ =>
  ApiCall.completes hB (haccepted.sameFormat_down hz) (haccepted.sameFormat_up hz) hE hg c.1 c.2

/-- **The parties stay in step**: wherever a run has led, nobody meets a packet that he has not
asked for, and the call that is being made comes to rest with both streams empty. -/
theorem Threads.inStep {A : Finset Ptr} (hA : A.card ≤ 65536) (hE : AllLegal A E)
    (hanswers : Answers E) (hB : 210 ≤ B.clTarget) (haccepted : Accepted C B.toBuild)
    (hz : ZlibInverts C B.toBuild) {s : ClientState} {t : ServerState} (ht : t.mObjects = [])
    {x : Threads ι (apiCalls C δ)} (h : Reachable E B s t e x) :
    Settles E (ServerInstance.serve B) (AtRest B fun _ _ _ _ => True) x.conv ∧
      (∀ k, x.conv.client.prog ≠ .check false k) ∧
        ∀ k, x.conv.server.prog ≠ .check false k := by
  have hgood : Good A t.mObjects := by
    rw [ht]
    exact good_nil _
  have hinv := Threads.inv (lawful_apiCalls hE hB haccepted hz) (kept_good hE) hgood h
  refine ⟨(hinv.atRest hA).mono ?_, fun _ => hinv.settles.client_check hanswers terminal_final,
    fun _ => hinv.settles.server_check terminal_final⟩
  rintro x ⟨r, s, t, e, -, rfl⟩
  exact ⟨r, s, t, e, trivial, rfl⟩

/-- A thread makes a call, and locks a new connection. -/
theorem Threads.exists_reachable_call (i : ι) (c : (apiCalls C δ).Call) (s : ClientState)
    (t : ServerState) (e : δ) : ∃ x : Threads ι (apiCalls C δ), Reachable E B s t e x ∧
      x.conv = RemoteCL.start B (c.1.call C) s t e :=
  ⟨_, Relation.ReflTransGen.tail (.single (Step.call c rfl fun h => nomatch h))
    (Step.lock (Function.update_self i _ _) fun _ _ _ => trivial), rfl⟩

theorem Threads.inStep_clGetPlatformIDs :
    let x : CallConfig Unit :=
      RemoteCL.start ⟨plainBuild, 210⟩
        (ApiCall.call plainBuild (.clGetPlatformIDs 1 true true)) ⟨[], 0, [], false, []⟩
        ⟨[], none⟩ ()
    Settles (AnyLegal {0}) (ServerInstance.serve ⟨plainBuild, 210⟩)
        (AtRest ⟨plainBuild, 210⟩ fun _ _ _ _ => True) x ∧
      (∀ k, x.client.prog ≠ .check false k) ∧ ∀ k, x.server.prog ≠ .check false k := by
  obtain ⟨x, hx, hconv⟩ := Threads.exists_reachable_call (E := AnyLegal {0})
    (B := ⟨plainBuild, 210⟩) (C := plainBuild) (0 : Fin 2)
    ⟨.clGetPlatformIDs 1 true true, fun h => by cases h⟩ ⟨[], 0, [], false, []⟩ ⟨[], none⟩ ()
  have hE : AllLegal (({0} : Finset Ptr) : Set Ptr) (AnyLegal {0}) := fun _ c a _ h => by
    rwa [Finset.coe_singleton]
  have haccepted : Accepted plainBuild plainBuild :=
    ⟨_, [], _, LawfulWire.reads_dec (VersionPacket.ofBuild plainBuild) [], by decide⟩
  have hstep := Threads.inStep (A := {0}) (B := ⟨plainBuild, 210⟩) (C := plainBuild) (by simp) hE
    answers_anyLegal (le_refl 210) haccepted (fun _ h => nomatch h) rfl hx
  rwa [hconv] at hstep

end ApiCalls

end RemoteCL

import RemoteCL.Theory.Duplex

/-!
# What a conversation comes to

`Settles` asks for more than an outcome: on the way every expectation must hold.  A program whose
expectations are not compiled in goes on behind one that fails, and `Attains` is what can then be
said of it: wherever a run has led, it can go on into `F`.

Two outcomes of one conversation can be put together (`Settles.and`) when one of them is final.
The other one may be something that has happened on the way, such as the first question to the
environment.

What a client returns does not change any more (`Returned`), whatever the server goes on with.  A
client for which there is no answer does not return (`Abandoned`).
-/

namespace Conversation

open ByteStream

section Outcomes

variable {σ τ ε C : Type} {A : C → Type} {ρ δ : Type}
variable (E : δ → (c : C) → A c → δ → Prop) (serve : Prog τ ε C A Bool)

/-- Wherever a run from this configuration has led, it can go on into `F`. -/
def Attains (F : Config σ τ ε C A ρ δ → Prop) (x : Config σ τ ε C A ρ δ) : Prop :=
  ∀ y, Relation.ReflTransGen (Step E serve) x y →
    ∃ z, Relation.ReflTransGen (Step E serve) y z ∧ F z

variable {E serve} {F G : Config σ τ ε C A ρ δ → Prop} {x y : Config σ τ ε C A ρ δ}

/-! ## Where nothing moves -/

/-- A party that has come to an end, or waits for bytes that are not there. -/
def Idle {α : Type} (p : Prog σ ε C A α) (i : Bytes) : Prop :=
  match p with
  | .ret _ | .throw _ | .spin => True
  | .read n _ => i.length < n
  | .peek _ => i = []
  | _ => False

theorem Idle.not_move {α : Type} {s s' : Side σ ε C A α} {i i' w : Bytes} {d d' : δ}
    (h : Idle s.prog i) : ¬ Move E s i d s' i' w d' := by
  intro m
  cases m with
  | read hb =>
    have hlt : (_ ++ i').length < _ := h
    rw [List.length_append] at hlt
    omega
  | peek => exact absurd h (List.cons_ne_nil _ _)
  | _ => exact h

/-- Nothing moves. -/
def Halted (E : δ → (c : C) → A c → δ → Prop) (serve : Prog τ ε C A Bool)
    (x : Config σ τ ε C A ρ δ) : Prop := ∀ y, ¬ Step E serve x y

/-- Two parties that cannot move, and have sent everything. -/
theorem halted_of_idle {p : Prog σ ε Empty NoAnswer ρ} {q : Prog τ ε C A Bool} {s : σ} {t : τ}
    {u d : Bytes} {e : δ} (hp : Idle p d) (hq : Idle q u) (hagain : q ≠ .ret true) :
    Halted E serve (⟨⟨p, s, []⟩, ⟨q, t, []⟩, u, d, e⟩ : Config σ τ ε C A ρ δ) := by
  intro y hstep
  generalize hx : (⟨⟨p, s, []⟩, ⟨q, t, []⟩, u, d, e⟩ : Config σ τ ε C A ρ δ) = x at hstep
  cases hstep with
  | client m =>
    cases hx
    exact Idle.not_move hp m
  | server m =>
    cases hx
    exact Idle.not_move hq m
  | again =>
    cases hx
    exact hagain rfl
  | clientSpill h =>
    simp only [Config.mk.injEq, Side.mk.injEq] at hx
    exact h (List.append_eq_nil_iff.mp hx.1.2.2.symm).1
  | serverSpill h =>
    simp only [Config.mk.injEq, Side.mk.injEq] at hx
    exact h (List.append_eq_nil_iff.mp hx.2.1.2.2.symm).1

theorem Attains.run (hx : Attains E serve F x) (hxy : Relation.ReflTransGen (Step E serve) x y) :
    Attains E serve F y := fun _ hz => hx _ (hxy.trans hz)

theorem Attains.mono (hFG : ∀ x, F x → G x) (hx : Attains E serve F x) : Attains E serve G x := by
  intro y hy
  obtain ⟨z, hyz, hz⟩ := hx y hy
  exact ⟨z, hyz, hFG z hz⟩

/-- What a conversation attains it can reach. -/
theorem Attains.exists_run (hx : Attains E serve F x) :
    ∃ z, Relation.ReflTransGen (Step E serve) x z ∧ F z := hx x .refl

/-- A conversation that settles attains what it settles in. -/
theorem Settles.attains (hE : Answers E) (hF : Stable E serve F) (hx : Settles E serve F x) :
    Attains E serve F x := fun _ hy => (hx.run hF hy).exists_final hE

/-- Where nothing moves, a conversation has settled. -/
theorem Settles.of_stuck (hE : Answers E) (hx : Settles E serve F x)
    (hstuck : ∀ y, ¬ Step E serve x y) : F x := by
  refine (hx.progress hE).resolve_right ?_
  rintro ⟨y, hy⟩
  exact hstuck y hy

/-- Where nothing moves, a conversation has attained what it attains. -/
theorem Attains.of_stuck (hx : Attains E serve F x) (hstuck : ∀ y, ¬ Step E serve x y) : F x := by
  obtain ⟨z, hxz, hz⟩ := hx.exists_run
  rcases Relation.ReflTransGen.cases_head hxz with rfl | ⟨y, hy, -⟩
  · exact hz
  · exact absurd hy (hstuck y)

/-- **Two outcomes of one conversation**, of which one is final. -/
theorem Settles.and (hE : Answers E) (hF : Terminal E serve F) (hG : Stable E serve G)
    (hf : Settles E serve F x) (hg : Settles E serve G x) :
    Settles E serve (fun y => F y ∧ G y) x := by
  refine hf.reached.mono fun y hy => ⟨hy.1, ?_⟩
  exact (hg.run hG hy.2).of_stuck hE fun z => hF.stuck hy.1

/-- Nothing is expected where nothing moves. -/
theorem terminal_halted : Terminal E serve fun x => Halted E serve x ∧ F x where
  stuck hx hstep := hx.1 _ hstep
  client_check := by
    rintro ⟨⟨p, s, o⟩, sv, u, d, e⟩ k ⟨hx, -⟩ rfl
    exact hx _ (Step.client Move.check)
  server_check := by
    rintro ⟨c, ⟨p, t, o⟩, u, d, e⟩ k ⟨hx, -⟩ rfl
    exact hx _ (Step.server Move.check)

/-- **Where the end of a conversation is known**, so is what it attains. -/
theorem attains_iff_of_settles (hE : Answers E) {p : Prop}
    (hx : Settles E serve (fun y => Halted E serve y ∧ (F y ↔ p)) x) : Attains E serve F x ↔ p := by
  constructor
  · intro h
    obtain ⟨y, hxy, hy, hp⟩ := hx.exists_final hE
    exact hp.mp ((h.run hxy).of_stuck hy)
  · intro hp
    have hF := hx.mono (G := fun y => Halted E serve y ∧ F y) fun y hy => ⟨hy.1, hy.2.mpr hp⟩
    exact (hF.attains hE terminal_halted.stable).mono fun _ hy => hy.2

theorem Stable.and (hF : Stable E serve F) (hG : Stable E serve G) :
    Stable E serve fun y => F y ∧ G y :=
  fun x y hx hxy => ⟨hF x y hx.1 hxy, hG x y hx.2 hxy⟩

/-- A step is also one with an environment that answers the same here. -/
theorem Step.mono {E' : δ → (c : C) → A c → δ → Prop} (h : Step E serve x y)
    (hE : ∀ c a, E x.env c a y.env → E' x.env c a y.env) : Step E' serve x y := by
  cases h with
  | client m => exact .client m
  | server m =>
    refine .server ?_
    cases m with
    | call h => exact .call (hE _ _ h)
    | read hb => exact .read hb
    | _ => constructor
  | again => exact .again
  | clientSpill hx => exact .clientSpill hx
  | serverSpill hx => exact .serverSpill hx

/-- What has happened stays so along a run. -/
theorem Stable.run (hF : Stable E serve F) (hx : F x)
    (hxy : Relation.ReflTransGen (Step E serve) x y) : F y := by
  induction hxy with
  | refl => exact hx
  | tail _ hstep ih => exact hF _ _ ih hstep

/-- What has happened before a conversation settles is still so then. -/
theorem Settles.keep (hG : Stable E serve G) (hx : Settles E serve F x) (hg : G x) :
    Settles E serve (fun y => F y ∧ G y) x :=
  hx.reached.mono fun _ hy => ⟨hy.1, hG.run hg hy.2⟩

/-! ## What a client returns -/

/-- The client has returned. -/
def Returned (P : ρ → σ → Prop) (x : Config σ τ ε C A ρ δ) : Prop :=
  ∃ r, x.client.prog = .ret r ∧ P r x.client.st

/-- The client waits for a server that has stopped. -/
def Abandoned (x : Config σ τ ε C A ρ δ) : Prop :=
  ∃ n q s p t u e, 0 < n ∧ (p = .spin ∨ ∃ ex, p = .throw ex) ∧
    x = ⟨⟨.read n q, s, []⟩, ⟨p, t, []⟩, u, [], e⟩

variable {P : ρ → σ → Prop}

theorem stable_returned : Stable E serve (Returned (C := C) (A := A) P) := by
  rintro ⟨⟨p, s, o⟩, sv, u, d, e⟩ y ⟨r, hr, hP⟩ hstep
  simp only at hr hP
  subst hr
  cases hstep with
  | client m => cases m
  | server m => exact ⟨r, rfl, hP⟩
  | again => exact ⟨r, rfl, hP⟩
  | clientSpill hx => exact ⟨r, rfl, hP⟩
  | serverSpill hx => exact ⟨r, rfl, hP⟩

theorem not_step_abandoned (hx : Abandoned x) : ¬ Step E serve x y := by
  obtain ⟨n, q, s, p, t, u, e, hn, hp, rfl⟩ := hx
  have hclient : Idle (Prog.read n q) [] := hn
  rcases hp with rfl | ⟨ex, rfl⟩
  · exact halted_of_idle (q := .spin) hclient trivial (fun h => by cases h) y
  · exact halted_of_idle (q := .throw ex) hclient trivial (fun h => by cases h) y

/-- The client has returned, or never will. -/
def Comes (P : ρ → σ → Prop) (x : Config σ τ ε C A ρ δ) : Prop := Returned P x ∨ Abandoned x

theorem stable_comes : Stable E serve (Comes (C := C) (A := A) P) := by
  rintro x y (hx | hx) hstep
  · exact Or.inl (stable_returned x y hx hstep)
  · exact absurd hstep (not_step_abandoned hx)

/-- **What a client returns**, whenever it does. -/
theorem Settles.of_comes (hE : Answers E) (hx : Settles E serve (Comes P) x)
    (hxy : Relation.ReflTransGen (Step E serve) x y) {r : ρ} (hr : y.client.prog = .ret r) :
    P r y.client.st := by
  obtain ⟨z, hyz, hz⟩ := (hx.run stable_comes hxy).exists_final hE
  have hkept : Returned (fun r' s' => r' = r ∧ s' = y.client.st) z :=
    stable_returned.run ⟨r, hr, rfl, rfl⟩ hyz
  obtain ⟨r', hr', rfl, hst⟩ := hkept
  rcases hz with ⟨r'', hr'', hP⟩ | ⟨n, q, s, p, t, u, e, -, -, rfl⟩
  · rw [hr', Prog.ret.injEq] at hr''
    subst hr''
    exact hst ▸ hP
  · cases hr'

/-! ## When the server is gone -/

/-- The server has stopped, and the read the client waits in fails with `ex`: then it returns. -/
def Lost (ex : ε) (P : ρ → σ → Prop) (x : Config σ τ ε C A ρ δ) : Prop :=
  ∃ n q s ex' t u e r, 0 < n ∧ q (.error ex) = .ret r ∧ P r s ∧
    x = ⟨⟨.read n q, s, []⟩, ⟨.throw ex', t, []⟩, u, [], e⟩

/-- The client has returned, or does when its connection is found to be closed. -/
def Finishes (ex : ε) (P : ρ → σ → Prop) (x : Config σ τ ε C A ρ δ) : Prop :=
  Returned P x ∨ Lost ex P x

variable {ex : ε}

theorem Lost.not_step (hx : Lost ex P x) : ¬ Step E serve x y := by
  obtain ⟨n, q, s, ex', t, u, e, r, hn, -, -, rfl⟩ := hx
  have hclient : Idle (Prog.read n q) [] := hn
  exact halted_of_idle (q := .throw ex') hclient trivial (fun h => by cases h) y

theorem stable_finishes : Stable E serve (Finishes (C := C) (A := A) ex P) := by
  rintro x y (hx | hx) hstep
  · exact Or.inl (stable_returned x y hx hstep)
  · exact absurd hstep hx.not_step

/-- A client that finds its connection closed has waited for a server that has stopped. -/
theorem Finishes.comes {x : Config σ τ ε C A ρ δ} (h : Finishes ex P x) : Comes P x := by
  refine h.imp_right ?_
  rintro ⟨n, q, s, ex', t, u, e, -, hn, -, -, hx⟩
  exact ⟨n, q, s, _, t, u, e, hn, Or.inr ⟨ex', rfl⟩, hx⟩

/-- What a client has returned it keeps. -/
theorem Returned.run (hx : Returned P x) (hxy : Relation.ReflTransGen (Step E serve) x y) :
    Returned P y := stable_returned.run hx hxy

/-- **A client that returns** returns what it is said to finish with. -/
theorem Settles.of_finishes (hE : Answers E) {Q : ρ → σ → Prop}
    (hx : Settles E serve (Finishes ex P) x) (hr : Settles E serve (Returned Q) x) :
    ∃ r s, P r s ∧ Q r s := by
  obtain ⟨y, hxy, hy⟩ := hr.exists_final hE
  obtain ⟨z, hyz, hz⟩ := (hx.run stable_finishes hxy).exists_final hE
  obtain ⟨r, hr, hQ⟩ := hy.run hyz
  rcases hz with ⟨r', hr', hP⟩ | ⟨n, q, s, ex', t, u, e, r', -, -, -, rfl⟩
  · rw [hr', Prog.ret.injEq] at hr
    exact ⟨r', z.client.st, hP, hr ▸ hQ⟩
  · cases hr

end Outcomes

end Conversation

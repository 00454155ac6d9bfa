import RemoteCL.Theory.Duplex

/-!
# What does not depend on the schedule

Two parties that share nothing but streams do not race.  If the environment has one answer to each
question, then all schedules of a conversation that settles stop at the same configuration
(`Settles.unique`).  It is the one that the strategy behind `Settles` leads to: the strategy leaves
nothing open but the answers, so it has one goal, and what settles stays so along every run.
-/

namespace Conversation

open ByteStream

section Moves

variable {σ ε C : Type} {A : C → Type} {α δ : Type} {E : δ → (c : C) → A c → δ → Prop}

/-- The environment has at most one answer to each question. -/
def Functional (E : δ → (c : C) → A c → δ → Prop) : Prop :=
  ∀ d c a a' d₁ d₂, E d c a d₁ → E d c a' d₂ → a = a' ∧ d₁ = d₂

/-- A party has at most one move. -/
theorem Move.functional (hE : Functional E) {s s₁ s₂ : Side σ ε C A α} {i i₁ i₂ w₁ w₂ : Bytes}
    {d d₁ d₂ : δ} (h₁ : Move E s i d s₁ i₁ w₁ d₁) (h₂ : Move E s i d s₂ i₂ w₂ d₂) :
    s₁ = s₂ ∧ i₁ = i₂ ∧ w₁ = w₂ ∧ d₁ = d₂ := by
  by_cases hs : Determined s.prog
  · exact Move.det hs h₁ h₂
  · -- what is left open is the answer to a question
    cases h₁ with
    | call ha₁ =>
      cases h₂ with
      | call ha₂ =>
        obtain ⟨rfl, rfl⟩ := hE _ _ _ _ _ _ ha₁ ha₂
        exact ⟨rfl, rfl, rfl, rfl⟩
    | _ => exact absurd trivial hs

end Moves

section Config

variable {σ τ ε C : Type} {A : C → Type} {ρ δ : Type} {E : δ → (c : C) → A c → δ → Prop}
variable {serve : Prog τ ε C A Bool} {F : Config σ τ ε C A ρ δ → Prop}
variable {x y z : Config σ τ ε C A ρ δ}

/-- The strategy has one goal. -/
theorem Settles.exists_goal (hanswers : Answers E) (hE : Functional E)
    (hx : Settles E serve F x) : ∃ y, F y ∧ Settles E serve (fun z => z = y) x := by
  induction hx with
  | @final x h => exact ⟨x, h, .final rfl⟩
  | client hr _ ih =>
    obtain ⟨c', d', w, _, m⟩ := hr.exists_move answers_noEnv ()
    obtain ⟨y, hy, hsettles⟩ := ih _ _ _ m
    refine ⟨y, hy, .client hr fun c₂ d₂ w₂ m₂ => ?_⟩
    obtain ⟨rfl, rfl, rfl, -⟩ := Move.det (determined_client _) m m₂
    exact hsettles
  | server hr _ ih =>
    obtain ⟨s', u', w, e', m⟩ := hr.exists_move hanswers _
    obtain ⟨y, hy, hsettles⟩ := ih _ _ _ _ m
    refine ⟨y, hy, .server hr fun s₂ u₂ w₂ e₂ m₂ => ?_⟩
    obtain ⟨rfl, rfl, rfl, rfl⟩ := Move.functional hE m m₂
    exact hsettles
  | again _ ih =>
    obtain ⟨y, hy, hsettles⟩ := ih
    exact ⟨y, hy, .again hsettles⟩

/-- **All schedules stop at the same configuration.** -/
theorem Settles.unique (hanswers : Answers E) (hE : Functional E) (hF : Terminal E serve F)
    (hx : Settles E serve F x) : ∃ y, F y ∧ ∀ z, Relation.ReflTransGen (Step E serve) x z →
      (∀ w, ¬ Step E serve z w) → z = y := by
  obtain ⟨y, hy, hsettles⟩ := hx.exists_goal hanswers hE
  have hstable : Stable E serve fun z => z = y := by
    rintro z w rfl hstep
    exact absurd hstep (hF.stuck hy)
  refine ⟨y, hy, fun z hxz hstop => ?_⟩
  rcases (hsettles.run hstable hxz).progress hanswers with hz | ⟨w, hstep⟩
  · exact hz
  · exact absurd hstep (hstop w)

/-- A client that has returned does not move. -/
theorem prog_of_run {r : ρ} (hr : x.client.prog = .ret r)
    (h : Relation.ReflTransGen (Step E serve) x y) : y.client.prog = .ret r := by
  induction h with
  | refl => exact hr
  | tail _ hstep ih =>
    cases hstep with
    | @client c _ _ _ _ _ _ _ m =>
      obtain ⟨p, t, o⟩ := c
      have hp : p = .ret r := ih
      subst hp
      cases m
    | _ => exact ih

/-- What a client has returned is its result when the conversation has settled. -/
theorem Settles.keeps_result {r : ρ} (hr : x.client.prog = .ret r) (hx : Settles E serve F x) :
    Settles E serve (fun y => F y ∧ y.client.prog = .ret r) x :=
  hx.reached.mono fun _ h => ⟨h.1, prog_of_run hr h.2⟩

end Config

end Conversation

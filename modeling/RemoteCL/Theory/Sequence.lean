import RemoteCL.Theory.Duplex

/-!
# One program after another

A client that makes several calls is a program too: the first call in a context that goes on with
the others.  What a program does in a context is what it does by itself, until it ends.  So a
conversation that settles by itself settles in every context that settles from where it ends
(`Settles.context`).
-/

namespace Conversation

open ByteStream

section Config

variable {σ τ ε C : Type} {A : C → Type} {ρ ρ' δ : Type}
variable {E : δ → (c : C) → A c → δ → Prop} {serve : Prog τ ε C A Bool}

section Context

variable {K : Prog σ ε Empty NoAnswer ρ → Prog σ ε Empty NoAnswer ρ'} (hK : Prog.Context K)
include hK

/-- What a program does in a context is what it does by itself, as long as it can move. -/
theorem Move.of_context {p : Prog σ ε Empty NoAnswer ρ} {t : σ} {o i i' w : Bytes}
    {c : Side σ ε Empty NoAnswer ρ'} (hr : Ready p i)
    (h : Move noEnv ⟨K p, t, o⟩ i () c i' w ()) :
    ∃ c' : Side σ ε Empty NoAnswer ρ, c = ⟨K c'.prog, c'.st, c'.out⟩ ∧
      Move noEnv ⟨p, t, o⟩ i () c' i' w () := by
  cases p with
  | ret | throw | spin => exact hr.elim
  | get k =>
    rw [hK.get] at h
    cases h
    exact ⟨_, rfl, .get⟩
  | put s k =>
    rw [hK.put] at h
    cases h
    exact ⟨⟨k, s, o⟩, rfl, .put⟩
  | write b k =>
    rw [hK.write] at h
    cases h
    exact ⟨⟨k (.ok ()), t, o ++ b⟩, rfl, .write⟩
  | flush k =>
    rw [hK.flush] at h
    cases h
    exact ⟨⟨k (.ok ()), t, []⟩, rfl, .flush⟩
  | read n k =>
    rw [hK.read] at h
    cases h with
    | read hb => exact ⟨⟨k (.ok _), t, o⟩, rfl, .read hb⟩
  | peek k =>
    rw [hK.peek] at h
    cases h
    exact ⟨⟨k (some _), t, o⟩, rfl, .peek⟩
  | check b k =>
    rw [hK.check] at h
    cases h
    exact ⟨⟨k, t, o⟩, rfl, .check⟩
  | call c => exact c.elim

/-- A program that can move still can in a context. -/
theorem Ready.context {p : Prog σ ε Empty NoAnswer ρ} {i : Bytes} (hr : Ready p i) :
    Ready (K p) i := by
  cases p with
  | ret | throw | spin => exact hr.elim
  | get k =>
    rw [hK.get]
    trivial
  | put s k =>
    rw [hK.put]
    trivial
  | write b k =>
    rw [hK.write]
    trivial
  | flush k =>
    rw [hK.flush]
    trivial
  | read n k =>
    rw [hK.read]
    exact hr
  | peek k =>
    rw [hK.peek]
    exact hr
  | check b k =>
    rw [hK.check]
    exact hr
  | call c => exact c.elim

/-- **Sequencing**: a program in a context settles where it settles by itself, and what the context
makes of its end settles. -/
theorem Settles.context {F : Config σ τ ε C A ρ δ → Prop} {G : Config σ τ ε C A ρ' δ → Prop}
    (hFG : ∀ p t o s u d e, F ⟨⟨p, t, o⟩, s, u, d, e⟩ → Settles E serve G ⟨⟨K p, t, o⟩, s, u, d, e⟩)
    {x : Config σ τ ε C A ρ δ} (h : Settles E serve F x) :
    Settles E serve G ⟨⟨K x.client.prog, x.client.st, x.client.out⟩, x.server, x.up, x.down,
      x.env⟩ := by
  induction h with
  | final h => exact hFG _ _ _ _ _ _ _ h
  | client hr _ ih =>
    refine Settles.client (Ready.context hK hr) fun c' d' w m => ?_
    obtain ⟨c, rfl, m'⟩ := Move.of_context hK hr m
    exact ih _ _ _ m'
  | server hr _ ih => exact Settles.server hr fun s' u' w e' m => ih _ _ _ _ m
  | again _ ih => exact Settles.again ih

end Context

/-- A client that has returned stays where it is. -/
theorem Settles.returned {F : Config σ τ ε C A ρ δ → Prop} (hE : Answers E)
    {x : Config σ τ ε C A ρ δ} (h : Settles E serve F x) {r : ρ} (hx : x.client.prog = .ret r) :
    ∃ y, F y ∧ y.client.prog = .ret r := by
  induction h with
  | final h => exact ⟨_, h, hx⟩
  | client hr =>
    rw [hx] at hr
    exact hr.elim
  | server hr _ ih =>
    obtain ⟨s', u', w, e', m⟩ := hr.exists_move hE _
    exact ih _ _ _ _ m hx
  | again _ ih => exact ih hx

end Config

end Conversation

import RemoteCL.Theory.Duplex

/-!
# Every schedule ends

`Settles` follows one schedule.  Here it is shown that the others are no longer: if some strategy
leads into a configuration where nothing moves, then no run goes on for ever, whoever is scheduled
and however often (`Settles.halts`).  Nothing is assumed about fairness.

The argument is that the parties share nothing but the streams.  When a party is ready, its move
can be postponed behind a move of the other one, and the two orders lead to the same place; so what
the other party does before the move is a run from behind the move, and such runs end.  Bytes may
also spill before the move, but only as many as wait.

The last section is about two systems.  A system that is simulated by one in which no run goes on
for ever is of that kind itself, if its steps that simulate nothing make a measure smaller
(`halts_of_simulation`).
-/

namespace Conversation

open ByteStream

/-! ## Runs that end -/

/-- No run from `x` goes on for ever. -/
def Halts {X : Type} (r : X → X → Prop) (x : X) : Prop := Acc (flip r) x

section Halts

variable {X Y : Type} {r : X → X → Prop} {q : Y → Y → Prop} {x y : X}

theorem halts_iff : Halts r x ↔ ∀ y, r x y → Halts r y :=
  ⟨fun h _ hy => h.inv hy, fun h => Acc.intro x h⟩

theorem Halts.step (h : Halts r x) (hxy : r x y) : Halts r y := h.inv hxy

theorem Halts.run (h : Halts r x) (hxy : Relation.ReflTransGen r x y) : Halts r y := by
  induction hxy with
  | refl => exact h
  | tail _ hstep ih => exact ih.step hstep

/-- Every run can be followed to its end. -/
theorem Halts.exists_end (h : Halts r x) :
    ∃ y, Relation.ReflTransGen r x y ∧ ∀ z, ¬ r y z := by
  induction h with
  | intro x _ ih =>
    by_cases hx : ∃ y, r x y
    · obtain ⟨y, hxy⟩ := hx
      obtain ⟨z, hyz, hz⟩ := ih y hxy
      exact ⟨z, .head hxy hyz, hz⟩
    · exact ⟨x, .refl, fun y hxy => hx ⟨y, hxy⟩⟩

/-- **Simulation**: where the simulating system halts, so does the simulated one.  A step that
simulates no step has to make the measure smaller. -/
theorem halts_of_simulation {I : X → Prop} {abs : X → Y} {μ : X → ℕ}
    (hstep : ∀ x y, I x → r x y → I y ∧ (Relation.TransGen q (abs x) (abs y) ∨
      abs y = abs x ∧ μ y < μ x))
    (hx : I x) (h : Halts q (abs x)) : Halts r x := by
  generalize hz : abs x = z at h
  have h' : Acc (Relation.TransGen (flip q)) z := h.transGen
  induction h' generalizing x with
  | intro z _ ih =>
    -- the measure is what is left to do before the next step that counts
    induction hn : μ x using Nat.strong_induction_on generalizing x with
    | _ n ihn =>
      refine halts_iff.mpr fun y hxy => ?_
      obtain ⟨hy, hrun | ⟨heq, hlt⟩⟩ := hstep x y hx hxy
      · rw [hz] at hrun
        exact ih _ (Relation.transGen_swap.mpr hrun) hy rfl
          (Halts.run h hrun.to_reflTransGen)
      · exact ihn (μ y) (hn ▸ hlt) hy (heq.trans hz) rfl

end Halts

section Moves

variable {σ ε C : Type} {A : C → Type} {α δ : Type} {E : δ → (c : C) → A c → δ → Prop}

/-- The converse of `Move.unspill`: bytes that wait at a move could have spilled before it. -/
theorem Move.spill {p : Prog σ ε C A α} {s : σ} {x y i i' w : Bytes} {d d' : δ}
    {s' : Side σ ε C A α} (h : Move E ⟨p, s, x ++ y⟩ i d s' i' w d') :
    (w = [] ∧ ∃ o, s'.out = x ++ o ∧ Move E ⟨p, s, y⟩ i d ⟨s'.prog, s'.st, o⟩ i' [] d') ∨
      ∃ v, w = x ++ v ∧ Move E ⟨p, s, y⟩ i d s' i' v d' := by
  cases h with
  | write => exact Or.inl ⟨rfl, _, List.append_assoc _ _ _, Move.write⟩
  | flush => exact Or.inr ⟨y, rfl, Move.flush⟩
  | read hb => exact Or.inl ⟨rfl, y, rfl, Move.read hb⟩
  | call h => exact Or.inl ⟨rfl, y, rfl, Move.call h⟩
  | _ => exact Or.inl ⟨rfl, y, rfl, by constructor⟩

end Moves

/-! ## Conversations -/

section Config

variable {σ τ ε C : Type} {A : C → Type} {ρ δ : Type} {E : δ → (c : C) → A c → δ → Prop}
variable {serve : Prog τ ε C A Bool} {c c' : Side σ ε Empty NoAnswer ρ} {s : Side τ ε C A Bool}
variable {u u' d d' w : Bytes} {e e' : δ}

/-- The client is ready, and behind its move no run goes on for ever. -/
theorem halts_of_client (hr : Ready c.prog d) (m : Move noEnv c d () c' d' w ())
    (h : Halts (Step E serve) ⟨c', s, u ++ w, d', e⟩) :
    Halts (Step E serve) ⟨c, s, u, d, e⟩ := by
  generalize hz : (⟨c', s, u ++ w, d', e⟩ : Config σ τ ε C A ρ δ) = z at h
  induction h generalizing c c' s u d d' w e with
  | intro z hz' ih =>
    subst hz
    -- what spills before a flush goes out with it: then only the buffer has become smaller
    induction hn : c.out.length using Nat.strong_induction_on generalizing c c' u w with
    | _ n ihn =>
      refine halts_iff.mpr fun y hxy => ?_
      cases hxy with
      | client m₂ =>
        obtain ⟨rfl, rfl, rfl, -⟩ := Move.det (determined_client _) m m₂
        exact Acc.intro _ hz'
      | @server _ _ _ v _ _ _ _ _ m₂ =>
        exact ih _ (Step.server (m₂.append w)) (hr.append v) (m.append v) rfl
      | again => exact ih _ Step.again hr m rfl
      | @clientSpill p t x y _ _ _ _ hx =>
        obtain ⟨p', t', o'⟩ := c'
        rcases m.spill with ⟨rfl, o, rfl, m'⟩ | ⟨v, rfl, m'⟩
        · refine ih _ ?_ hr m' rfl
          rw [List.append_nil, List.append_nil]
          exact Step.clientSpill hx
        · have hlt : y.length < n := by
            have hpos := List.length_pos_iff.mpr hx
            rw [← hn]
            show y.length < (x ++ y).length
            rw [List.length_append]
            omega
          rw [← List.append_assoc] at hz' ih
          exact ihn _ hlt hr m' hz' ih rfl
      | @serverSpill _ p t x y _ _ _ hx =>
        exact ih _ (Step.serverSpill hx) (hr.append x) (m.append x) rfl

/-- The server is ready, and behind each of its moves no run goes on for ever. -/
theorem halts_of_server (hr : Ready s.prog u) {s' : Side τ ε C A Bool}
    (m : Move E s u e s' u' w e')
    (h : ∀ s' u' w e', Move E s u e s' u' w e' → Halts (Step E serve) ⟨c, s', u', d ++ w, e'⟩) :
    Halts (Step E serve) ⟨c, s, u, d, e⟩ := by
  have hm := h _ _ _ _ m
  generalize hz : (⟨c, s', u', d ++ w, e'⟩ : Config σ τ ε C A ρ δ) = z at hm
  induction hm generalizing c s s' u u' d w e e' with
  | intro z hz' ih =>
    subst hz
    induction hn : s.out.length using Nat.strong_induction_on generalizing s s' u' d w with
    | _ n ihn =>
      refine halts_iff.mpr fun y hxy => ?_
      cases hxy with
      | server m₂ => exact h _ _ _ _ m₂
      | @client _ _ _ v _ _ _ _ m₂ =>
        refine ih _ (Step.client (m₂.append w)) (hr.append v) (m.append v) ?_ rfl
        intro s₁ u₁ w₁ e₁ m₁
        obtain ⟨u₂, rfl, m₁'⟩ := Move.of_append hr m₁
        exact (h _ _ _ _ m₁').step (Step.client (m₂.append w₁))
      | again => exact hr.elim
      | @clientSpill p t x y _ _ _ _ hx =>
        refine ih _ (Step.clientSpill hx) (hr.append x) (m.append x) ?_ rfl
        intro s₁ u₁ w₁ e₁ m₁
        obtain ⟨u₂, rfl, m₁'⟩ := Move.of_append hr m₁
        exact (h _ _ _ _ m₁').step (Step.clientSpill hx)
      | @serverSpill _ p t x y _ _ _ hx =>
        -- a move with less in the buffer is a move with more, and the bytes spill behind it
        have hspill : ∀ s' u' w e', Move E ⟨p, t, y⟩ u e s' u' w e' →
            Halts (Step E serve) ⟨c, s', u', d ++ x ++ w, e'⟩ := by
          intro s₁ u₁ w₁ e₁ m₁
          obtain ⟨p₁, t₁, o₁⟩ := s₁
          rcases Move.unspill (x := x) m₁ with ⟨rfl, o, rfl, m₂⟩ | ⟨-, m₂⟩
          · have hstep := (h _ _ _ _ m₂).step (Step.serverSpill hx)
            rwa [List.append_nil] at hstep ⊢
          · rw [List.append_assoc]
            exact h _ _ _ _ m₂
        obtain ⟨p', t', o'⟩ := s'
        rcases m.spill with ⟨rfl, o, rfl, m'⟩ | ⟨v, rfl, m'⟩
        · refine ih _ ?_ hr m' hspill rfl
          rw [List.append_nil, List.append_nil]
          exact Step.serverSpill hx
        · have hlt : y.length < n := by
            have hpos := List.length_pos_iff.mpr hx
            rw [← hn]
            show y.length < (x ++ y).length
            rw [List.length_append]
            omega
          rw [← List.append_assoc] at hz' ih
          exact ihn _ hlt hr m' hspill hz' ih rfl

/-- The server's loop starts its next iteration, from which no run goes on for ever. -/
theorem halts_of_again {t : τ} {o : Bytes}
    (h : Halts (Step E serve) ⟨c, ⟨serve, t, o⟩, u, d, e⟩) :
    Halts (Step E serve) ⟨c, ⟨.ret true, t, o⟩, u, d, e⟩ := by
  generalize hz : (⟨c, ⟨serve, t, o⟩, u, d, e⟩ : Config σ τ ε C A ρ δ) = z at h
  induction h generalizing c u d o with
  | intro z hz' ih =>
    subst hz
    refine halts_iff.mpr fun y hxy => ?_
    cases hxy with
    | client m => exact ih _ (Step.client m) rfl
    | server m => cases m
    | again => exact Acc.intro _ hz'
    | clientSpill hx => exact ih _ (Step.clientSpill hx) rfl
    | serverSpill hx => exact ih _ (Step.serverSpill hx) rfl

/-- **No schedule goes on for ever**, where one leads into configurations that are final. -/
theorem Settles.halts {F : Config σ τ ε C A ρ δ → Prop} (hE : Answers E)
    (hF : Terminal E serve F) {x : Config σ τ ε C A ρ δ} (hx : Settles E serve F x) :
    Halts (Step E serve) x := by
  induction hx with
  | final h => exact halts_iff.mpr fun y hxy => absurd hxy (hF.stuck h)
  | client hr _ ih =>
    obtain ⟨c', d', w, _, m⟩ := hr.exists_move answers_noEnv ()
    exact halts_of_client hr m (ih _ _ _ m)
  | server hr _ ih =>
    obtain ⟨s', u', w, e', m⟩ := hr.exists_move hE _
    exact halts_of_server hr m ih
  | again _ ih => exact halts_of_again ih

end Config

end Conversation

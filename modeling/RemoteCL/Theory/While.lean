import Mathlib.Data.Nat.Notation

/-!
# While loops

`Prog.spin` stands for a loop that is known not to end.  For a loop of which this has to be found
out, `While guard body s s'` is a run of it, from the state `s` in front of the loop to the state
`s'` behind it.  There is no such run if the loop does not end.

What every round keeps holds behind the loop (`While.invariant`), where the guard is false
(`While.exit`).  A loop whose guard follows from what every round keeps has no end
(`While.not_ends`).
-/

namespace Conversation

/-- A run of a loop that tests the guard before each round. -/
inductive While {σ : Type} (guard : σ → Prop) (body : σ → σ) : σ → σ → Prop
  | done {s} (h : ¬ guard s) : While guard body s s
  | round {s s'} (h : guard s) (hrest : While guard body (body s) s') : While guard body s s'

namespace While

variable {σ : Type} {guard : σ → Prop} {body : σ → σ} {s s' : σ} {I : σ → Prop}

theorem exit (h : While guard body s s') : ¬ guard s' := by
  induction h with
  | done h => exact h
  | round _ _ ih => exact ih

theorem invariant (h : While guard body s s') (hI : ∀ s, guard s → I s → I (body s)) (hs : I s) :
    I s' := by
  induction h with
  | done _ => exact hs
  | round h _ ih => exact ih (hI _ h hs)

theorem not_ends (hguard : ∀ s, I s → guard s) (hI : ∀ s, I s → I (body s)) (hs : I s) :
    ¬ ∃ s', While guard body s s' := by
  rintro ⟨s', h⟩
  exact h.exit (hguard s' (h.invariant (fun s _ => hI s) hs))

end While

end Conversation

import RemoteCL.Theory.Duplex

/-!
# Executing a conversation

A conversation with an environment that is a function can be run: `advance` lets the client move if
it can, and else the server.  The configurations that `execute` arrives at are reached by the steps
of the conversation, so running it is a way to show what can happen (`reaches_execute`).
-/

namespace Conversation

open ByteStream

section Party

variable {σ ε C : Type} {A : C → Type} {α δ : Type} (answer : δ → (c : C) → A c × δ)

/-- The next move of a party, with its inbox, what it adds to the wire, and the environment. -/
def advanceSide (s : Side σ ε C A α) (i : Bytes) (d : δ) :
    Option (Side σ ε C A α × Bytes × Bytes × δ) :=
  match s.prog with
  | .get k => some (⟨k s.st, s.st, s.out⟩, i, [], d)
  | .put t k => some (⟨k, t, s.out⟩, i, [], d)
  | .write b k => some (⟨k (.ok ()), s.st, s.out ++ b⟩, i, [], d)
  | .flush k => some (⟨k (.ok ()), s.st, []⟩, i, s.out, d)
  | .read n k =>
    if n ≤ i.length then some (⟨k (.ok (i.take n)), s.st, s.out⟩, i.drop n, [], d) else none
  | .peek k =>
    match i with
    | [] => none
    | b :: i => some (⟨k (some b), s.st, s.out⟩, b :: i, [], d)
  | .check _ k => some (⟨k, s.st, s.out⟩, i, [], d)
  | .call c k => some (⟨k (answer d c).1, s.st, s.out⟩, i, [], (answer d c).2)
  | .ret _ | .throw _ | .spin => none

variable {answer} {E : δ → (c : C) → A c → δ → Prop}

theorem move_advanceSide (hE : ∀ d c, E d c (answer d c).1 (answer d c).2) {s s' : Side σ ε C A α}
    {i i' w : Bytes} {d d' : δ} (h : advanceSide answer s i d = some (s', i', w, d')) :
    Move E s i d s' i' w d' := by
  obtain ⟨p, t, o⟩ := s
  cases p with
  | ret | throw | spin => cases h
  | read n k =>
    simp only [advanceSide] at h
    split at h
    · rename_i hn
      cases h
      have hmove : Move E (⟨.read n k, t, o⟩ : Side σ ε C A α) (i.take n ++ i.drop n) d
          ⟨k (.ok (i.take n)), t, o⟩ (i.drop n) [] d := Move.read (List.length_take_of_le hn)
      rwa [List.take_append_drop] at hmove
    · cases h
  | peek k =>
    cases i with
    | nil => cases h
    | cons b i =>
      cases h
      exact Move.peek
  | call c k =>
    cases h
    exact Move.call (hE d c)
  | _ =>
    cases h
    constructor

end Party

section Config

variable {σ τ ε C : Type} {A : C → Type} {ρ δ : Type}
variable (answer : δ → (c : C) → A c × δ) (serve : Prog τ ε C A Bool)

/-- The next step of a conversation. -/
def advance (x : Config σ τ ε C A ρ δ) : Option (Config σ τ ε C A ρ δ) :=
  match advanceSide (fun _ c => c.elim) x.client x.down () with
  | some (c, d, w, _) => some ⟨c, x.server, x.up ++ w, d, x.env⟩
  | none =>
    match x.server.prog with
    | .ret true => some { x with server := { x.server with prog := serve } }
    | _ =>
      match advanceSide answer x.server x.up x.env with
      | some (s, u, w, e) => some ⟨x.client, s, u, x.down ++ w, e⟩
      | none => none

/-- The first `n` steps, or all of them if there are not as many. -/
def execute : ℕ → Config σ τ ε C A ρ δ → Config σ τ ε C A ρ δ
  | 0, x => x
  | n + 1, x =>
    match advance answer serve x with
    | some y => execute n y
    | none => x

variable {answer serve} {E : δ → (c : C) → A c → δ → Prop}

theorem step_advance (hE : ∀ d c, E d c (answer d c).1 (answer d c).2)
    {x y : Config σ τ ε C A ρ δ} (h : advance answer serve x = some y) : Step E serve x y := by
  obtain ⟨client, server, u, d, e⟩ := x
  rw [advance] at h
  split at h
  · rename_i hc
    cases h
    exact Step.client (move_advanceSide (fun _ c => c.elim) hc)
  split at h
  · rename_i hs
    obtain ⟨p, t, o⟩ := server
    cases h
    have hp : p = .ret true := hs
    subst hp
    exact Step.again
  split at h
  · rename_i hs
    cases h
    exact Step.server (move_advanceSide hE hs)
  · cases h

/-- **What is executed can happen.** -/
theorem reaches_execute (hE : ∀ d c, E d c (answer d c).1 (answer d c).2) (n : ℕ)
    (x : Config σ τ ε C A ρ δ) :
    Relation.ReflTransGen (Step E serve) x (execute answer serve n x) := by
  induction n generalizing x with
  | zero => exact .refl
  | succ n ih =>
    rw [execute]
    split
    · rename_i h
      exact .head (step_advance hE h) (ih _)
    · exact .refl

end Config

end Conversation

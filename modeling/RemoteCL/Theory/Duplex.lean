import RemoteCL.Theory.Prog
import Mathlib.Logic.Relation

/-!
# Two parties over a pair of byte streams

A client program and a server loop, joined by two first-in first-out byte streams.  Each party
buffers what it writes; a flush puts the buffer on the wire, and the buffer may also spill onto
the wire at any earlier time.  The parties run concurrently: a schedule may let either of them
take the next step, and the environment answers the server's questions within a given relation.

The point of this file is that *one schedule suffices*.  `Settles F` says that some strategy
of choosing who moves next leads, whatever the environment answers, to a configuration in `F`,
and that no expectation fails on the way.  The two parties share nothing but the streams, and a
party that can move keeps its move when the other one moves.  So `Settles` is preserved by
*every* step, not only by those of the strategy (`Settles.step`): a conversation that has been
followed along one convenient schedule is known along all of them.

The file ends with one rewriting rule for each interaction, for following a program.
-/

namespace Conversation

open ByteStream

/-! ## One party -/

/-- A party: what it will do, its private state, and what it has written but not yet sent. -/
structure Side (σ ε C : Type) (A : C → Type) (α : Type) where
  prog : Prog σ ε C A α
  st : σ
  out : Bytes

section Moves

variable {σ ε C : Type} {A : C → Type} {α δ : Type}

/-- One interaction of a party.  From its inbox `i` it leaves the inbox `i'`, and it adds `w`
to the wire.  `E d c a d'` is the environment's relation: in the state `d` it may answer the
question `c` with `a`, and is then in the state `d'`. -/
inductive Move (E : δ → (c : C) → A c → δ → Prop) :
    Side σ ε C A α → Bytes → δ → Side σ ε C A α → Bytes → Bytes → δ → Prop
  | get {k s o i d} : Move E ⟨.get k, s, o⟩ i d ⟨k s, s, o⟩ i [] d
  | put {k s s' o i d} : Move E ⟨.put s' k, s, o⟩ i d ⟨k, s', o⟩ i [] d
  | write {b k s o i d} : Move E ⟨.write b k, s, o⟩ i d ⟨k (.ok ()), s, o ++ b⟩ i [] d
  | flush {k s o i d} : Move E ⟨.flush k, s, o⟩ i d ⟨k (.ok ()), s, []⟩ i o d
  | read {b n k s o i d} (hb : b.length = n) :
      Move E ⟨.read n k, s, o⟩ (b ++ i) d ⟨k (.ok b), s, o⟩ i [] d
  | peek {b k s o i d} :
      Move E ⟨.peek k, s, o⟩ (b :: i) d ⟨k (some b), s, o⟩ (b :: i) [] d
  | check {b k s o i d} : Move E ⟨.check b k, s, o⟩ i d ⟨k, s, o⟩ i [] d
  | call {c a k s o i d d'} (h : E d c a d') :
      Move E ⟨.call c k, s, o⟩ i d ⟨k a, s, o⟩ i [] d'

/-- The party can move, and what it expects holds. -/
def Ready (p : Prog σ ε C A α) (i : Bytes) : Prop :=
  match p with
  | .get _ | .put _ _ | .write _ _ | .flush _ | .call _ _ => True
  | .check b _ => b = true
  | .read n _ => n ≤ i.length
  | .peek _ => i ≠ []
  | .ret _ | .throw _ | .spin => False

variable {E : δ → (c : C) → A c → δ → Prop}

/-- A party that can move still can when more has arrived. -/
theorem Ready.append {p : Prog σ ε C A α} {i : Bytes} (h : Ready p i) (more : Bytes) :
    Ready p (i ++ more) := by
  cases p with
  | read n k =>
    have hn : n ≤ i.length := h
    show n ≤ (i ++ more).length
    rw [List.length_append]
    omega
  | peek k => exact fun hnil => h (List.append_eq_nil_iff.mp hnil).1
  | _ => exact h

/-- A move does not look behind the bytes it takes. -/
theorem Move.append {s s' : Side σ ε C A α} {i i' w : Bytes} {d d' : δ}
    (h : Move E s i d s' i' w d') (more : Bytes) :
    Move E s (i ++ more) d s' (i' ++ more) w d' := by
  cases h with
  | read hb =>
    rw [List.append_assoc]
    exact Move.read hb
  | call h => exact Move.call h
  | _ => constructor

/-- A move that was possible before more arrived is the same move afterwards. -/
theorem Move.of_append {s s' : Side σ ε C A α} {i j w more : Bytes} {d d' : δ}
    (hr : Ready s.prog i) (h : Move E s (i ++ more) d s' j w d') :
    ∃ i', j = i' ++ more ∧ Move E s i d s' i' w d' := by
  generalize hI : i ++ more = I at h
  cases h with
  | @read b n k t o i₂ d hb =>
    -- both splittings of the inbox are at the same place
    have hn : n ≤ i.length := hr
    have hbi : b = i.take n := by
      have htake := congrArg (List.take n) hI
      rw [List.take_append_of_le_length hn, ← hb, List.take_left, hb] at htake
      exact htake.symm
    have hsplit : i = b ++ i.drop n := by rw [hbi, List.take_append_drop]
    refine ⟨i.drop n, ?_, ?_⟩
    · have hdrop := congrArg (List.drop n) hI
      rw [List.drop_append_of_le_length hn, ← hb, List.drop_left, hb] at hdrop
      exact hdrop.symm
    · have hmove : Move E ⟨Prog.read n k, t, o⟩ (b ++ i.drop n) d ⟨k (.ok b), t, o⟩
          (i.drop n) [] d := Move.read hb
      rwa [← hsplit] at hmove
  | @peek b k t o i₂ d =>
    cases i with
    | nil => exact absurd rfl hr
    | cons c i =>
      rw [List.cons_append, List.cons.injEq] at hI
      obtain ⟨rfl, rfl⟩ := hI
      exact ⟨c :: i, rfl, Move.peek⟩
  | call h => exact ⟨i, hI.symm, Move.call h⟩
  | _ => exact ⟨i, hI.symm, by constructor⟩

/-- Whatever has spilled onto the wire before a move could have stayed in the buffer until
after it, or went out with the move. -/
theorem Move.unspill {p : Prog σ ε C A α} {s : σ} {x y i i' w : Bytes} {d d' : δ}
    {s' : Side σ ε C A α} (h : Move E ⟨p, s, y⟩ i d s' i' w d') :
    (w = [] ∧ ∃ o, s'.out = o ∧ Move E ⟨p, s, x ++ y⟩ i d ⟨s'.prog, s'.st, x ++ o⟩ i' [] d') ∨
      (s'.out = [] ∧ Move E ⟨p, s, x ++ y⟩ i d s' i' (x ++ w) d') := by
  cases h with
  | write =>
    refine Or.inl ⟨rfl, _, rfl, ?_⟩
    rw [← List.append_assoc]
    exact Move.write
  | flush => exact Or.inr ⟨rfl, Move.flush⟩
  | read hb => exact Or.inl ⟨rfl, _, rfl, Move.read hb⟩
  | call h => exact Or.inl ⟨rfl, _, rfl, Move.call h⟩
  | _ => exact Or.inl ⟨rfl, _, rfl, by constructor⟩

end Moves

/-! ## Both parties -/

/-- Nobody answers: the client asks its environment nothing. -/
abbrev NoAnswer : Empty → Type := fun c => c.elim

section Config

variable {σ τ ε C : Type} {A : C → Type} {ρ δ : Type}

/-- A conversation in progress: the two parties, what is on the wire in each direction, and the
state of the server's environment.  `up` runs from the client to the server. -/
structure Config (σ τ ε C : Type) (A : C → Type) (ρ δ : Type) where
  client : Side σ ε Empty NoAnswer ρ
  server : Side τ ε C A Bool
  up : Bytes
  down : Bytes
  env : δ

/-- The client's environment, which is never asked anything. -/
def noEnv : Unit → (c : Empty) → NoAnswer c → Unit → Prop := fun _ _ _ _ => False

variable (E : δ → (c : C) → A c → δ → Prop) (serve : Prog τ ε C A Bool)

/-- One step of the conversation.  The server is a loop around `serve`: it starts again when an
iteration returns `true`. -/
inductive Step : Config σ τ ε C A ρ δ → Config σ τ ε C A ρ δ → Prop
  | client {c s u w d c' d' e} (h : Move noEnv c d () c' d' w ()) :
      Step ⟨c, s, u, d, e⟩ ⟨c', s, u ++ w, d', e⟩
  | server {c s u w d s' u' e e'} (h : Move E s u e s' u' w e') :
      Step ⟨c, s, u, d, e⟩ ⟨c, s', u', d ++ w, e'⟩
  | again {c t o u d e} : Step ⟨c, ⟨.ret true, t, o⟩, u, d, e⟩ ⟨c, ⟨serve, t, o⟩, u, d, e⟩
  | clientSpill {p t x y s u d e} (hx : x ≠ []) :
      Step ⟨⟨p, t, x ++ y⟩, s, u, d, e⟩ ⟨⟨p, t, y⟩, s, u ++ x, d, e⟩
  | serverSpill {c p t x y u d e} (hx : x ≠ []) :
      Step ⟨c, ⟨p, t, x ++ y⟩, u, d, e⟩ ⟨c, ⟨p, t, y⟩, u, d ++ x, e⟩

/-- Some choice of who moves next leads into `F`, whatever the environment answers, and no
expectation fails on the way. -/
inductive Settles (F : Config σ τ ε C A ρ δ → Prop) : Config σ τ ε C A ρ δ → Prop
  | final {x} (h : F x) : Settles F x
  | client {c s u d e} (hr : Ready c.prog d)
      (h : ∀ c' d' w, Move noEnv c d () c' d' w () → Settles F ⟨c', s, u ++ w, d', e⟩) :
      Settles F ⟨c, s, u, d, e⟩
  | server {c s u d e} (hr : Ready s.prog u)
      (h : ∀ s' u' w e', Move E s u e s' u' w e' → Settles F ⟨c, s', u', d ++ w, e'⟩) :
      Settles F ⟨c, s, u, d, e⟩
  | again {c t o u d e} (h : Settles F ⟨c, ⟨serve, t, o⟩, u, d, e⟩) :
      Settles F ⟨c, ⟨.ret true, t, o⟩, u, d, e⟩

/-- The configurations of `F` are final: nothing moves there, and nothing there is expected in
vain. -/
structure Terminal (F : Config σ τ ε C A ρ δ → Prop) : Prop where
  stuck : ∀ {x y}, F x → ¬ Step E serve x y
  client_check : ∀ {x k}, F x → x.client.prog ≠ .check false k
  server_check : ∀ {x k}, F x → x.server.prog ≠ .check false k

/-- What every step keeps.  It may be a final configuration, or something that has happened. -/
def Stable (F : Config σ τ ε C A ρ δ → Prop) : Prop := ∀ x y, F x → Step E serve x y → F y

variable {E serve}

theorem Terminal.stable {F : Config σ τ ε C A ρ δ → Prop} (hF : Terminal E serve F) :
    Stable E serve F := fun _ _ hx hxy => absurd hxy (hF.stuck hx)

/-- **One schedule suffices**: every step, of either party, leads to a configuration from which
the conversation still settles. -/
theorem Settles.step {F : Config σ τ ε C A ρ δ → Prop} (hF : Stable E serve F)
    {x y : Config σ τ ε C A ρ δ} (hx : Settles E serve F x) (hxy : Step E serve x y) :
    Settles E serve F y := by
  induction hx generalizing y with
  | final h => exact Settles.final (hF _ _ h hxy)
  | @client c s u d e hr h ih =>
    cases hxy with
    | client m => exact h _ _ _ m
    | @server _ _ _ w _ _ _ _ _ m =>
      refine Settles.client (hr.append w) fun c' d' w' m' => ?_
      obtain ⟨d'', rfl, m''⟩ := Move.of_append hr m'
      exact ih _ _ _ m'' (Step.server (m.append w'))
    | again =>
      exact Settles.client hr fun c' d' w' m' => ih _ _ _ m' Step.again
    | @clientSpill p t x y _ _ _ _ hx =>
      refine Settles.client hr fun c' d' w' m' => ?_
      obtain ⟨p', t', o'⟩ := c'
      rcases Move.unspill (x := x) m' with ⟨rfl, o, rfl, m''⟩ | ⟨ho, m''⟩
      · -- the bytes could have stayed: let them spill after the move
        have hspill := ih _ _ _ m'' (Step.clientSpill hx)
        rwa [List.append_nil] at hspill ⊢
      · -- a flush takes them along
        have hflush := h _ _ _ m''
        rwa [← List.append_assoc] at hflush
    | @serverSpill _ p t x y _ _ _ hx =>
      refine Settles.client (hr.append x) fun c' d' w' m' => ?_
      obtain ⟨d'', rfl, m''⟩ := Move.of_append hr m'
      exact ih _ _ _ m'' (Step.serverSpill hx)
  | @server c s u d e hr h ih =>
    cases hxy with
    | @client _ _ _ w _ _ _ _ m =>
      refine Settles.server (hr.append w) fun s' u' w' e' m' => ?_
      obtain ⟨u'', rfl, m''⟩ := Move.of_append hr m'
      exact ih _ _ _ _ m'' (Step.client (m.append w'))
    | server m => exact h _ _ _ _ m
    | again => exact hr.elim
    | @clientSpill p t x y _ _ _ _ hx =>
      refine Settles.server (hr.append x) fun s' u' w' e' m' => ?_
      obtain ⟨u'', rfl, m''⟩ := Move.of_append hr m'
      exact ih _ _ _ _ m'' (Step.clientSpill hx)
    | @serverSpill _ p t x y _ _ _ hx =>
      refine Settles.server hr fun s' u' w' e' m' => ?_
      obtain ⟨p', t', o'⟩ := s'
      rcases Move.unspill (x := x) m' with ⟨rfl, o, rfl, m''⟩ | ⟨ho, m''⟩
      · have hspill := ih _ _ _ _ m'' (Step.serverSpill hx)
        rwa [List.append_nil] at hspill ⊢
      · have hflush := h _ _ _ _ m''
        rwa [← List.append_assoc] at hflush
  | @again c t o u d e h ih =>
    cases hxy with
    | client m => exact Settles.again (ih (Step.client m))
    | server m => cases m
    | again => exact h
    | clientSpill hx => exact Settles.again (ih (Step.clientSpill hx))
    | serverSpill hx => exact Settles.again (ih (Step.serverSpill hx))

/-- A client that has returned may go on with another program: what the server has still to do
comes first. -/
theorem Settles.resume {F G : Config σ τ ε C A ρ δ → Prop} {r : ρ} {t : σ} {o : Bytes}
    {p : Prog σ ε Empty NoAnswer ρ}
    (hFG : ∀ s u d e, F ⟨⟨.ret r, t, o⟩, s, u, d, e⟩ → Settles E serve G ⟨⟨p, t, o⟩, s, u, d, e⟩)
    {s : Side τ ε C A Bool} {u d : Bytes} {e : δ}
    (h : Settles E serve F ⟨⟨.ret r, t, o⟩, s, u, d, e⟩) :
    Settles E serve G ⟨⟨p, t, o⟩, s, u, d, e⟩ := by
  generalize hx : (⟨⟨.ret r, t, o⟩, s, u, d, e⟩ : Config σ τ ε C A ρ δ) = x at h
  induction h generalizing s u d e with
  | final h =>
    subst hx
    exact hFG _ _ _ _ h
  | client hr =>
    cases hx
    exact hr.elim
  | server hr _ ih =>
    cases hx
    exact Settles.server hr fun s' u' w e' m => ih s' u' w e' m rfl
  | again _ ih =>
    cases hx
    exact Settles.again (ih rfl)

/-- Where neither party can go on, only a final configuration settles. -/
theorem settles_stuck {F : Config σ τ ε C A ρ δ → Prop} {x : Config σ τ ε C A ρ δ}
    (hclient : ¬ Ready x.client.prog x.down) (hserver : ¬ Ready x.server.prog x.up)
    (hagain : x.server.prog ≠ .ret true) : Settles E serve F x ↔ F x := by
  constructor
  · intro h
    cases h with
    | final h => exact h
    | client hr => exact absurd hr hclient
    | server hr => exact absurd hr hserver
    | again => exact absurd rfl hagain
  · exact Settles.final

/-- Along every run the conversation still settles. -/
theorem Settles.run {F : Config σ τ ε C A ρ δ → Prop} (hF : Stable E serve F)
    {x y : Config σ τ ε C A ρ δ} (hx : Settles E serve F x)
    (hxy : Relation.ReflTransGen (Step E serve) x y) : Settles E serve F y := by
  induction hxy with
  | refl => exact hx
  | tail _ hstep ih => exact ih.step hF hstep

/-! ## What holds at every configuration of a conversation that settles -/

/-- The environment answers every question in some way. -/
def Answers (E : δ → (c : C) → A c → δ → Prop) : Prop := ∀ d c, ∃ a d', E d c a d'

/-- A party that is ready has a move. -/
theorem Ready.exists_move {α : Type} (hE : Answers E) {s : Side τ ε C A α} {i : Bytes}
    (hr : Ready s.prog i) (d : δ) : ∃ s' i' w d', Move E s i d s' i' w d' := by
  obtain ⟨p, t, o⟩ := s
  cases p with
  | ret | throw | spin => exact hr.elim
  | read n k =>
    have hsplit : i = i.take n ++ i.drop n := (List.take_append_drop n i).symm
    rw [hsplit]
    exact ⟨_, _, _, _, Move.read (List.length_take_of_le hr)⟩
  | peek k =>
    cases i with
    | nil => exact absurd rfl hr
    | cons b i => exact ⟨_, _, _, _, Move.peek⟩
  | call c k =>
    obtain ⟨a, d', h⟩ := hE d c
    exact ⟨_, _, _, _, Move.call h⟩
  | _ => exact ⟨_, _, _, _, by constructor⟩

theorem answers_noEnv : Answers noEnv := fun _ c => c.elim

/-- The client never stands at an expectation that fails. -/
theorem Settles.client_check {F : Config σ τ ε C A ρ δ → Prop} (hE : Answers E)
    (hF : Terminal E serve F) {x : Config σ τ ε C A ρ δ} (hx : Settles E serve F x) {k} :
    x.client.prog ≠ .check false k := by
  induction hx with
  | final h => exact hF.client_check h
  | client hr _ _ =>
    intro hc
    rw [hc] at hr
    exact Bool.false_ne_true hr
  | server hr _ ih =>
    -- the server's move does not touch the client
    obtain ⟨s', u', w, e', m⟩ := hr.exists_move hE _
    exact ih _ _ _ _ m
  | again _ ih => exact ih

/-- The server never stands at an expectation that fails. -/
theorem Settles.server_check {F : Config σ τ ε C A ρ δ → Prop} (hF : Terminal E serve F)
    {x : Config σ τ ε C A ρ δ} (hx : Settles E serve F x) {k} :
    x.server.prog ≠ .check false k := by
  induction hx with
  | final h => exact hF.server_check h
  | client hr _ ih =>
    obtain ⟨c', d', w, _, m⟩ := hr.exists_move answers_noEnv ()
    exact ih _ _ _ m
  | server hr _ _ =>
    intro hc
    rw [hc] at hr
    exact Bool.false_ne_true hr
  | again => exact fun hc => by cases hc

/-- A conversation that settles is in a final configuration or can go on. -/
theorem Settles.progress {F : Config σ τ ε C A ρ δ → Prop} (hE : Answers E)
    {x : Config σ τ ε C A ρ δ} (hx : Settles E serve F x) : F x ∨ ∃ y, Step E serve x y := by
  cases hx with
  | final h => exact Or.inl h
  | client hr _ =>
    obtain ⟨c', d', w, _, m⟩ := hr.exists_move answers_noEnv ()
    exact Or.inr ⟨_, Step.client m⟩
  | server hr _ =>
    obtain ⟨s', u', w, e', m⟩ := hr.exists_move hE _
    exact Or.inr ⟨_, Step.server m⟩
  | again => exact Or.inr ⟨_, Step.again⟩

/-- A weaker goal is reached where a stronger one is. -/
theorem Settles.mono {F G : Config σ τ ε C A ρ δ → Prop} (hFG : ∀ x, F x → G x)
    {x : Config σ τ ε C A ρ δ} (hx : Settles E serve F x) : Settles E serve G x := by
  induction hx with
  | final h => exact Settles.final (hFG _ h)
  | client hr _ ih => exact Settles.client hr ih
  | server hr _ ih => exact Settles.server hr ih
  | again _ ih => exact Settles.again ih

/-- A conversation that settles has a run into a final configuration. -/
theorem Settles.exists_final {F : Config σ τ ε C A ρ δ → Prop} (hE : Answers E)
    {x : Config σ τ ε C A ρ δ} (hx : Settles E serve F x) :
    ∃ y, Relation.ReflTransGen (Step E serve) x y ∧ F y := by
  induction hx with
  | final h => exact ⟨_, .refl, h⟩
  | client hr _ ih =>
    obtain ⟨c', d', w, _, m⟩ := hr.exists_move answers_noEnv ()
    obtain ⟨y, hy, hF⟩ := ih _ _ _ m
    exact ⟨y, .head (Step.client m) hy, hF⟩
  | server hr _ ih =>
    obtain ⟨s', u', w, e', m⟩ := hr.exists_move hE _
    obtain ⟨y, hy, hF⟩ := ih _ _ _ _ m
    exact ⟨y, .head (Step.server m) hy, hF⟩
  | again _ ih =>
    obtain ⟨y, hy, hF⟩ := ih
    exact ⟨y, .head Step.again hy, hF⟩

/-- What the answers of the environment keep is kept by every run. -/
theorem env_of_run {I : δ → Prop} (hI : ∀ d c a d', E d c a d' → I d → I d')
    {x y : Config σ τ ε C A ρ δ} (hx : I x.env)
    (hxy : Relation.ReflTransGen (Step E serve) x y) : I y.env := by
  induction hxy with
  | refl => exact hx
  | tail _ hstep ih =>
    cases hstep with
    | server m =>
      cases m with
      | call h => exact hI _ _ _ _ h ih
      | _ => exact ih
    | _ => exact ih

/-- The configuration that a conversation settles in has been reached by its steps. -/
theorem Settles.reached {F : Config σ τ ε C A ρ δ → Prop} {x : Config σ τ ε C A ρ δ}
    (hx : Settles E serve F x) :
    Settles E serve (fun y => F y ∧ Relation.ReflTransGen (Step E serve) x y) x := by
  suffices h : ∀ z, Relation.ReflTransGen (Step E serve) z x →
      Settles E serve (fun y => F y ∧ Relation.ReflTransGen (Step E serve) z y) x from
    h x .refl
  induction hx with
  | final h => exact fun z hz => Settles.final ⟨h, hz⟩
  | client hr _ ih =>
    exact fun z hz => Settles.client hr fun c' d' w m => ih _ _ _ m z (hz.tail (Step.client m))
  | server hr _ ih =>
    exact fun z hz => Settles.server hr fun s' u' w e' m =>
      ih _ _ _ _ m z (hz.tail (Step.server m))
  | again _ ih => exact fun z hz => Settles.again (ih z (hz.tail Step.again))

/-! ## Following a program -/

/-- The program's next interaction is not a question to the environment. -/
def Determined {α : Type} : Prog τ ε C A α → Prop
  | .call _ _ => False
  | _ => True

/-- Apart from questions to the environment, a party has at most one move. -/
theorem Move.det {α : Type} {s s₁ s₂ : Side τ ε C A α} {i i₁ i₂ w₁ w₂ : Bytes} {d d₁ d₂ : δ}
    (hs : Determined s.prog) (h₁ : Move E s i d s₁ i₁ w₁ d₁)
    (h₂ : Move E s i d s₂ i₂ w₂ d₂) : s₁ = s₂ ∧ i₁ = i₂ ∧ w₁ = w₂ ∧ d₁ = d₂ := by
  cases h₁ with
  | @read b n k t o _ d hb =>
    generalize hI : b ++ i₁ = I at h₂
    cases h₂ with
    | @read b' _ _ _ _ _ _ hb' =>
      obtain ⟨rfl, rfl⟩ := List.append_inj hI (hb.trans hb'.symm)
      exact ⟨rfl, rfl, rfl, rfl⟩
  | call => exact hs.elim
  | _ => cases h₂; exact ⟨rfl, rfl, rfl, rfl⟩

variable {F : Config σ τ ε C A ρ δ → Prop}

/-- The client never asks. -/
theorem determined_client {α : Type} (p : Prog σ ε Empty NoAnswer α) : Determined p := by
  cases p with
  | call c => exact c.elim
  | _ => trivial

theorem settles_client_move (hF : Stable E serve F) {c s u d e c' d' w}
    (hr : Ready c.prog d) (m : Move noEnv c d () c' d' w ()) :
    Settles E serve F ⟨c, s, u, d, e⟩ ↔ Settles E serve F ⟨c', s, u ++ w, d', e⟩ := by
  refine ⟨fun h => h.step hF (Step.client m), fun h => Settles.client hr fun c₂ d₂ w₂ m₂ => ?_⟩
  obtain ⟨rfl, rfl, rfl, -⟩ := Move.det (determined_client _) m m₂
  exact h

theorem settles_server_move (hF : Stable E serve F) {c s u d e s' u' w e'}
    (hs : Determined s.prog) (hr : Ready s.prog u) (m : Move E s u e s' u' w e') :
    Settles E serve F ⟨c, s, u, d, e⟩ ↔ Settles E serve F ⟨c, s', u', d ++ w, e'⟩ := by
  refine ⟨fun h => h.step hF (Step.server m),
    fun h => Settles.server hr fun s₂ u₂ w₂ e₂ m₂ => ?_⟩
  obtain ⟨rfl, rfl, rfl, rfl⟩ := Move.det hs m m₂
  exact h

section Rules

variable (hF : Stable E serve F) {α β : Type} {u d v : Bytes} {e : δ}
include hF

/-! ### The client -/

section Client

variable {K : Prog σ ε Empty NoAnswer β → Prog σ ε Empty NoAnswer ρ} (hK : Prog.Context K)
variable {s : Side τ ε C A Bool} {t : σ} {o : Bytes}
include hK

theorem settles_client_send {b : Bytes} {k : Unit → Prog σ ε Empty NoAnswer β} :
    Settles E serve F ⟨⟨K (Prog.send b >>= k), t, o⟩, s, u, d, e⟩ ↔
      Settles E serve F ⟨⟨K (k ()), t, o ++ b⟩, s, u, d, e⟩ := by
  have h := settles_client_move (e := e) (u := u) (s := s) (d := d) hF
    (c := ⟨.write b fun r => K (Prog.liftExcept r >>= k), t, o⟩) trivial Move.write
  rw [List.append_nil, ← hK.write] at h
  exact h

theorem settles_client_flush {k : Unit → Prog σ ε Empty NoAnswer β} :
    Settles E serve F ⟨⟨K (Prog.flushOut >>= k), t, o⟩, s, u, d, e⟩ ↔
      Settles E serve F ⟨⟨K (k ()), t, []⟩, s, u ++ o, d, e⟩ := by
  have h := settles_client_move (e := e) (u := u) (s := s) (d := d) hF
    (c := ⟨.flush fun r => K (Prog.liftExcept r >>= k), t, o⟩) trivial Move.flush
  rw [← hK.flush] at h
  exact h

theorem settles_client_get {k : σ → Prog σ ε Empty NoAnswer β} :
    Settles E serve F ⟨⟨K (Prog.getState >>= k), t, o⟩, s, u, d, e⟩ ↔
      Settles E serve F ⟨⟨K (k t), t, o⟩, s, u, d, e⟩ := by
  have h := settles_client_move (e := e) (u := u) (s := s) (d := d) hF
    (c := ⟨.get fun t => K (k t), t, o⟩) trivial Move.get
  rw [List.append_nil, ← hK.get] at h
  exact h

theorem settles_client_put {t' : σ} {k : Unit → Prog σ ε Empty NoAnswer β} :
    Settles E serve F ⟨⟨K (Prog.putState t' >>= k), t, o⟩, s, u, d, e⟩ ↔
      Settles E serve F ⟨⟨K (k ()), t', o⟩, s, u, d, e⟩ := by
  have h := settles_client_move (e := e) (u := u) (s := s) (d := d) hF
    (c := ⟨.put t' (K (k ())), t, o⟩) trivial Move.put
  rw [List.append_nil, ← hK.put] at h
  exact h

theorem settles_client_modify {f : σ → σ} {k : Unit → Prog σ ε Empty NoAnswer β} :
    Settles E serve F ⟨⟨K (Prog.modifyState f >>= k), t, o⟩, s, u, d, e⟩ ↔
      Settles E serve F ⟨⟨K (k ()), f t, o⟩, s, u, d, e⟩ :=
  (settles_client_get hF hK (k := fun t => Prog.putState (f t) >>= k)).trans
    (settles_client_put hF hK)

/-- An expectation that holds is passed. -/
theorem settles_client_expect {b : Bool} (hb : b = true)
    {k : Unit → Prog σ ε Empty NoAnswer β} :
    Settles E serve F ⟨⟨K (Prog.expect b >>= k), t, o⟩, s, u, d, e⟩ ↔
      Settles E serve F ⟨⟨K (k ()), t, o⟩, s, u, d, e⟩ := by
  have h := settles_client_move (e := e) (u := u) (s := s) (d := d) hF
    (c := ⟨.check b (K (k ())), t, o⟩) hb Move.check
  rw [List.append_nil, ← hK.check] at h
  exact h

theorem settles_client_read {n : ℕ} (hn : n ≤ d.length)
    {k : Except ε Bytes → Prog σ ε Empty NoAnswer β} :
    Settles E serve F ⟨⟨K (Prog.read n k), t, o⟩, s, u, d, e⟩ ↔
      Settles E serve F ⟨⟨K (k (.ok (d.take n))), t, o⟩, s, u, d.drop n, e⟩ := by
  have h := settles_client_move (e := e) (u := u) (s := s) hF
    (c := ⟨.read n fun r => K (k r), t, o⟩) (d := d.take n ++ d.drop n)
    ((List.take_append_drop n d).symm ▸ hn) (Move.read (List.length_take_of_le hn))
  rw [List.take_append_drop, List.append_nil, ← hK.read] at h
  exact h

/-- A reader that finds its word takes it off the stream. -/
theorem settles_client_reader {r : Reader α} {a : α} {k : α → Prog σ ε Empty NoAnswer β}
    (h : r.run d = some (a, v)) :
    Settles E serve F ⟨⟨K (Prog.ofReader r >>= k), t, o⟩, s, u, d, e⟩ ↔
      Settles E serve F ⟨⟨K (k a), t, o⟩, s, u, v, e⟩ := by
  induction r generalizing d with
  | done b =>
    rw [Reader.run_done, Option.some.injEq, Prod.mk.injEq] at h
    obtain ⟨rfl, rfl⟩ := h
    rfl
  | take n q ih =>
    rw [Reader.run_take] at h
    split at h
    · rename_i hn
      rw [Prog.ofReader_take_bind]
      exact (settles_client_read hF hK hn).trans (ih _ h)
    · exact absurd h (by simp)

end Client

/-! ### The server -/

section Server

variable {K : Prog τ ε C A β → Prog τ ε C A Bool} (hK : Prog.Context K)
variable {c : Side σ ε Empty NoAnswer ρ} {t : τ} {o : Bytes}
include hK

theorem settles_server_send {b : Bytes} {k : Unit → Prog τ ε C A β} :
    Settles E serve F ⟨c, ⟨K (Prog.send b >>= k), t, o⟩, u, d, e⟩ ↔
      Settles E serve F ⟨c, ⟨K (k ()), t, o ++ b⟩, u, d, e⟩ := by
  have h := settles_server_move (c := c) (d := d) (u := u) (e := e) hF
    (s := ⟨.write b fun r => K (Prog.liftExcept r >>= k), t, o⟩) trivial trivial Move.write
  rw [List.append_nil, ← hK.write] at h
  exact h

theorem settles_server_flush {k : Unit → Prog τ ε C A β} :
    Settles E serve F ⟨c, ⟨K (Prog.flushOut >>= k), t, o⟩, u, d, e⟩ ↔
      Settles E serve F ⟨c, ⟨K (k ()), t, []⟩, u, d ++ o, e⟩ := by
  have h := settles_server_move (c := c) (d := d) (u := u) (e := e) hF
    (s := ⟨.flush fun r => K (Prog.liftExcept r >>= k), t, o⟩) trivial trivial Move.flush
  rw [← hK.flush] at h
  exact h

theorem settles_server_get {k : τ → Prog τ ε C A β} :
    Settles E serve F ⟨c, ⟨K (Prog.getState >>= k), t, o⟩, u, d, e⟩ ↔
      Settles E serve F ⟨c, ⟨K (k t), t, o⟩, u, d, e⟩ := by
  have h := settles_server_move (c := c) (d := d) (u := u) (e := e) hF
    (s := ⟨.get fun t => K (k t), t, o⟩) trivial trivial Move.get
  rw [List.append_nil, ← hK.get] at h
  exact h

theorem settles_server_put {t' : τ} {k : Unit → Prog τ ε C A β} :
    Settles E serve F ⟨c, ⟨K (Prog.putState t' >>= k), t, o⟩, u, d, e⟩ ↔
      Settles E serve F ⟨c, ⟨K (k ()), t', o⟩, u, d, e⟩ := by
  have h := settles_server_move (c := c) (d := d) (u := u) (e := e) hF
    (s := ⟨.put t' (K (k ())), t, o⟩) trivial trivial Move.put
  rw [List.append_nil, ← hK.put] at h
  exact h

theorem settles_server_modify {f : τ → τ} {k : Unit → Prog τ ε C A β} :
    Settles E serve F ⟨c, ⟨K (Prog.modifyState f >>= k), t, o⟩, u, d, e⟩ ↔
      Settles E serve F ⟨c, ⟨K (k ()), f t, o⟩, u, d, e⟩ :=
  (settles_server_get hF hK (k := fun t => Prog.putState (f t) >>= k)).trans
    (settles_server_put hF hK)

theorem settles_server_expect {b : Bool} (hb : b = true) {k : Unit → Prog τ ε C A β} :
    Settles E serve F ⟨c, ⟨K (Prog.expect b >>= k), t, o⟩, u, d, e⟩ ↔
      Settles E serve F ⟨c, ⟨K (k ()), t, o⟩, u, d, e⟩ := by
  have h := settles_server_move (c := c) (d := d) (u := u) (e := e) hF
    (s := ⟨.check b (K (k ())), t, o⟩) trivial hb Move.check
  rw [List.append_nil, ← hK.check] at h
  exact h

theorem settles_server_peek {b : UInt8} {k : Option UInt8 → Prog τ ε C A β} :
    Settles E serve F ⟨c, ⟨K (Prog.peekByte >>= k), t, o⟩, b :: u, d, e⟩ ↔
      Settles E serve F ⟨c, ⟨K (k (some b)), t, o⟩, b :: u, d, e⟩ := by
  have h := settles_server_move (c := c) (d := d) (u := b :: u) (e := e) hF
    (s := ⟨.peek fun b => K (k b), t, o⟩) trivial (List.cons_ne_nil _ _) Move.peek
  rw [List.append_nil, ← hK.peek] at h
  exact h

/-- The environment may answer a question in every way its relation allows. -/
theorem settles_server_ask {q : C} {k : A q → Prog τ ε C A β} :
    Settles E serve F ⟨c, ⟨K (Prog.ask q >>= k), t, o⟩, u, d, e⟩ ↔
      ∀ a e', E e q a e' → Settles E serve F ⟨c, ⟨K (k a), t, o⟩, u, d, e'⟩ := by
  have hprog : K (Prog.ask q >>= k) = .call q fun a => K (k a) := hK.call q k
  rw [hprog]
  constructor
  · intro h a e' ha
    have hstep := h.step hF (Step.server (Move.call (k := fun a => K (k a)) ha))
    rwa [List.append_nil] at hstep
  · intro h
    refine Settles.server trivial fun s' u' w e' m => ?_
    cases m with
    | call ha =>
      rw [List.append_nil]
      exact h _ _ ha

theorem settles_server_read {n : ℕ} (hn : n ≤ u.length)
    {k : Except ε Bytes → Prog τ ε C A β} :
    Settles E serve F ⟨c, ⟨K (Prog.read n k), t, o⟩, u, d, e⟩ ↔
      Settles E serve F ⟨c, ⟨K (k (.ok (u.take n))), t, o⟩, u.drop n, d, e⟩ := by
  have h := settles_server_move (c := c) (d := d) (e := e) hF
    (s := ⟨.read n fun r => K (k r), t, o⟩) (u := u.take n ++ u.drop n) trivial
    ((List.take_append_drop n u).symm ▸ hn) (Move.read (List.length_take_of_le hn))
  rw [List.take_append_drop, List.append_nil, ← hK.read] at h
  exact h

theorem settles_server_reader {r : Reader α} {a : α} {k : α → Prog τ ε C A β}
    (h : r.run u = some (a, v)) :
    Settles E serve F ⟨c, ⟨K (Prog.ofReader r >>= k), t, o⟩, u, d, e⟩ ↔
      Settles E serve F ⟨c, ⟨K (k a), t, o⟩, v, d, e⟩ := by
  induction r generalizing u with
  | done b =>
    rw [Reader.run_done, Option.some.injEq, Prod.mk.injEq] at h
    obtain ⟨rfl, rfl⟩ := h
    rfl
  | take n q ih =>
    rw [Reader.run_take] at h
    split at h
    · rename_i hn
      rw [Prog.ofReader_take_bind]
      exact (settles_server_read hF hK hn).trans (ih _ h)
    · exact absurd h (by simp)

end Server

/-- The server's loop starts its next iteration. -/
theorem settles_server_again {c : Side σ ε Empty NoAnswer ρ} {t : τ} {o : Bytes} :
    Settles E serve F ⟨c, ⟨.ret true, t, o⟩, u, d, e⟩ ↔
      Settles E serve F ⟨c, ⟨serve, t, o⟩, u, d, e⟩ :=
  ⟨fun h => h.step hF Step.again, Settles.again⟩

end Rules

end Config

end Conversation

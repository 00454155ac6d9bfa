import RemoteCL.Theory.Termination

/-!
# Conversations over buffered streams

In a conversation a party reads a number of bytes at once, and bytes that wait to be sent may go out
at any time.  Real streams have buffers on either side.  A `Sink` decides by itself which bytes go
out when something is written, and a `Source` fetches what the network has, in pieces of any size: a
read takes several steps, between which the other party may move, and what has been fetched too
early waits in the source.

Forgetting the buffers is a simulation (`Step.simulated`): a buffered step is a step of the
conversation and perhaps a spill, or it is one more piece of a read, and then fewer bytes are ahead
of the two parties.  Where the conversation can go on, the buffered one can (`exists_move`).  So
what is known of all runs of a conversation is known of those over buffers (`Settles.buffered`).
-/

namespace Conversation

open ByteStream

/-! ## The two halves of a stream -/

/-- The writing half: what happens to its state, and which bytes go to the wire. -/
structure Sink where
  State : Type
  /-- What holds of the states that occur. -/
  Holds : State → Prop
  /-- The bytes that wait. -/
  pending : State → Bytes
  write : State → Bytes → State → Bytes → Prop
  flush : State → State → Bytes → Prop
  exists_write : ∀ {s}, Holds s → ∀ b, ∃ s' w, write s b s' w
  of_write : ∀ {s b s' w}, Holds s → write s b s' w →
    Holds s' ∧ pending s ++ b = w ++ pending s'
  exists_flush : ∀ {s}, Holds s → ∃ s' w, flush s s' w
  of_flush : ∀ {s s' w}, Holds s → flush s s' w → Holds s' ∧ w = pending s ∧ pending s' = []

/-- The reading half: it takes bytes from the wire. -/
structure Source where
  State : Type
  Holds : State → Prop
  /-- The bytes that have been taken from the wire and not been read. -/
  cached : State → Bytes
  /-- `more s i n b s' i'`: of at most `n` bytes that are wanted, `b` come next. -/
  more : State → Bytes → ℕ → Bytes → State → Bytes → Prop
  peek : State → Bytes → UInt8 → State → Bytes → Prop
  exists_more : ∀ {s i n}, Holds s → 0 < n → cached s ++ i ≠ [] → ∃ b s' i', more s i n b s' i'
  of_more : ∀ {s i n b s' i'}, Holds s → 0 < n → cached s ++ i ≠ [] → more s i n b s' i' →
    Holds s' ∧ cached s ++ i = b ++ (cached s' ++ i') ∧ b ≠ [] ∧ b.length ≤ n
  exists_peek : ∀ {s i}, Holds s → cached s ++ i ≠ [] → ∃ b s' i', peek s i b s' i'
  of_peek : ∀ {s i b s' i'}, Holds s → cached s ++ i ≠ [] → peek s i b s' i' →
    Holds s' ∧ cached s' ++ i' = cached s ++ i ∧ (cached s ++ i).head? = some b

namespace Buffered

/-! ## One party -/

/-- A party with its two halves of a stream, and what it has got so far of the bytes that it is
reading. -/
structure Party (W : Sink) (R : Source) (σ ε C : Type) (A : C → Type) (α : Type) where
  prog : Prog σ ε C A α
  st : σ
  sink : W.State
  source : R.State
  got : Bytes

section Moves

variable {W : Sink} {R : Source} {σ ε C : Type} {A : C → Type} {α δ : Type}

namespace Party

/-- The party without its buffers. -/
def side (p : Party W R σ ε C A α) : Side σ ε C A α := ⟨p.prog, p.st, W.pending p.sink⟩

/-- What the party can still read: what it has got, what is in the buffer and what is on the
wire. -/
def inbox (p : Party W R σ ε C A α) (i : Bytes) : Bytes := p.got ++ (R.cached p.source ++ i)

/-- The number of bytes that the party has not got yet. -/
def ahead (p : Party W R σ ε C A α) (i : Bytes) : ℕ := (R.cached p.source ++ i).length

/-- The invariant: only a party that reads has got something, and no more than it reads. -/
structure Holds (p : Party W R σ ε C A α) : Prop where
  sink : W.Holds p.sink
  source : R.Holds p.source
  got : p.got = [] ∨ ∃ n k, p.prog = .read n k ∧ p.got.length ≤ n

theorem inbox_append (p : Party W R σ ε C A α) (i w : Bytes) :
    p.inbox (i ++ w) = p.inbox i ++ w := by
  simp only [inbox, List.append_assoc]

end Party

/-- One interaction of a party, like `Conversation.Move`.  A party that reads waits until there is a
byte, in its buffer or on the wire. -/
inductive Move (E : δ → (c : C) → A c → δ → Prop) :
    Party W R σ ε C A α → Bytes → δ → Party W R σ ε C A α → Bytes → Bytes → δ → Prop
  | get {k s o r i d} : Move E ⟨.get k, s, o, r, []⟩ i d ⟨k s, s, o, r, []⟩ i [] d
  | put {k s s' o r i d} : Move E ⟨.put s' k, s, o, r, []⟩ i d ⟨k, s', o, r, []⟩ i [] d
  | write {b k s o o' w r i d} (h : W.write o b o' w) :
      Move E ⟨.write b k, s, o, r, []⟩ i d ⟨k (.ok ()), s, o', r, []⟩ i w d
  | flush {k s o o' w r i d} (h : W.flush o o' w) :
      Move E ⟨.flush k, s, o, r, []⟩ i d ⟨k (.ok ()), s, o', r, []⟩ i w d
  | more {n k s o r r' got b i i' d} (hgot : got.length < n) (hi : R.cached r ++ i ≠ [])
      (h : R.more r i (n - got.length) b r' i') :
      Move E ⟨.read n k, s, o, r, got⟩ i d ⟨.read n k, s, o, r', got ++ b⟩ i' [] d
  | read {n k s o r got i d} (hgot : got.length = n) :
      Move E ⟨.read n k, s, o, r, got⟩ i d ⟨k (.ok got), s, o, r, []⟩ i [] d
  | peek {k s o r r' b i i' d} (hi : R.cached r ++ i ≠ []) (h : R.peek r i b r' i') :
      Move E ⟨.peek k, s, o, r, []⟩ i d ⟨k (some b), s, o, r', []⟩ i' [] d
  | check {b k s o r i d} : Move E ⟨.check b k, s, o, r, []⟩ i d ⟨k, s, o, r, []⟩ i [] d
  | call {c a k s o r i d d'} (h : E d c a d') :
      Move E ⟨.call c k, s, o, r, []⟩ i d ⟨k a, s, o, r, []⟩ i [] d'

variable {E : δ → (c : C) → A c → δ → Prop} {p p' : Party W R σ ε C A α} {i i' w : Bytes}
variable {d d' : δ}

/-- **A buffered move is a move and a spill, or a piece of a read.** -/
theorem Move.simulated (hp : p.Holds) (h : Move E p i d p' i' w d') :
    p'.Holds ∧
      ((∃ v x, w = v ++ x ∧ Conversation.Move E p.side (p.inbox i) d
          ⟨p'.prog, p'.st, x ++ W.pending p'.sink⟩ (p'.inbox i') v d') ∨
        (p'.side = p.side ∧ p'.inbox i' = p.inbox i ∧ w = [] ∧ d' = d ∧
          p'.ahead i' < p.ahead i)) := by
  obtain ⟨hsink, hsource, hread⟩ := hp
  cases h with
  | write h =>
    obtain ⟨hsink', hwrite⟩ := W.of_write hsink h
    refine ⟨⟨hsink', hsource, Or.inl rfl⟩, Or.inl ⟨[], w, rfl, ?_⟩⟩
    rw [← hwrite]
    exact .write
  | flush h =>
    obtain ⟨hsink', rfl, hnil⟩ := W.of_flush hsink h
    refine ⟨⟨hsink', hsource, Or.inl rfl⟩, Or.inl ⟨_, [], (List.append_nil _).symm, ?_⟩⟩
    rw [List.nil_append, hnil]
    exact .flush
  | @more n k s o r r' got b _ _ _ hgot hi h =>
    obtain ⟨hsource', happend, hb, hle⟩ := R.of_more hsource (by omega) hi h
    refine ⟨⟨hsink, hsource', Or.inr ⟨n, k, rfl, ?_⟩⟩, Or.inr ⟨rfl, ?_, rfl, rfl, ?_⟩⟩
    · show (got ++ b).length ≤ n
      rw [List.length_append]
      omega
    · show got ++ b ++ (R.cached r' ++ i') = got ++ (R.cached r ++ i)
      rw [happend, List.append_assoc]
    · show (R.cached r' ++ i').length < (R.cached r ++ i).length
      have hpos : 0 < b.length := List.length_pos_iff.mpr hb
      have hlen : (b ++ (R.cached r' ++ i')).length = b.length + (R.cached r' ++ i').length :=
        List.length_append
      rw [happend, hlen]
      exact Nat.lt_add_of_pos_left hpos
  | read hgot => exact ⟨⟨hsink, hsource, Or.inl rfl⟩, Or.inl ⟨[], [], rfl, .read hgot⟩⟩
  | @peek k s o r r' b _ _ _ hi h =>
    obtain ⟨hsource', happend, hhead⟩ := R.of_peek hsource hi h
    refine ⟨⟨hsink, hsource', Or.inl rfl⟩, Or.inl ⟨[], [], rfl, ?_⟩⟩
    obtain ⟨rest, hrest⟩ : ∃ rest, R.cached r ++ i = b :: rest := List.head?_eq_some_iff.mp hhead
    show Conversation.Move E ⟨.peek k, s, _⟩ (R.cached r ++ i) d ⟨k (some b), s, _⟩
      (R.cached r' ++ i') [] d
    rw [happend, hrest]
    exact .peek
  | call h => exact ⟨⟨hsink, hsource, Or.inl rfl⟩, Or.inl ⟨[], [], rfl, .call h⟩⟩
  | _ => exact ⟨⟨hsink, hsource, Or.inl rfl⟩, Or.inl ⟨[], [], rfl, by constructor⟩⟩

/-- A party that is ready without its buffers has a move. -/
theorem exists_move (hE : Answers E) (hp : p.Holds) (hr : Ready p.prog (p.inbox i)) (d : δ) :
    ∃ p' i' w d', Move E p i d p' i' w d' := by
  obtain ⟨prog, s, o, r, got⟩ := p
  obtain ⟨hsink, hsource, hread⟩ := hp
  by_cases hprog : ∃ n k, prog = .read n k
  · obtain ⟨n, k, rfl⟩ := hprog
    have hn : n ≤ (got ++ (R.cached r ++ i)).length := hr
    by_cases hgot : got.length = n
    · exact ⟨_, _, _, _, .read hgot⟩
    · have hlt : got.length < n := by
        rcases hread with hnil | ⟨_, _, heq, hle⟩
        · have hnil' : got = [] := hnil
          rw [hnil'] at hgot ⊢
          exact Nat.pos_of_ne_zero (Ne.symm hgot)
        · cases heq
          exact Nat.lt_of_le_of_ne hle hgot
      have hi : R.cached r ++ i ≠ [] := by
        intro hnil
        rw [hnil, List.append_nil] at hn
        omega
      obtain ⟨b, r', i', h⟩ := R.exists_more hsource (show 0 < n - got.length by omega) hi
      exact ⟨_, _, _, _, .more hlt hi h⟩
  · have hnil : got = [] := by
      refine hread.resolve_right ?_
      rintro ⟨n, k, h, -⟩
      exact hprog ⟨n, k, h⟩
    subst hnil
    cases prog with
    | ret | throw | spin => exact hr.elim
    | read n k => exact absurd ⟨n, k, rfl⟩ hprog
    | write b k =>
      obtain ⟨o', w, h⟩ := W.exists_write hsink b
      exact ⟨_, _, _, _, .write h⟩
    | flush k =>
      obtain ⟨o', w, h⟩ := W.exists_flush hsink
      exact ⟨_, _, _, _, .flush h⟩
    | peek k =>
      obtain ⟨b, r', i', h⟩ := R.exists_peek hsource hr
      exact ⟨_, _, _, _, .peek hr h⟩
    | call c k =>
      obtain ⟨a, d', h⟩ := hE d c
      exact ⟨_, _, _, _, .call h⟩
    | _ => exact ⟨_, _, _, _, by constructor⟩

end Moves

/-! ## Both parties -/

/-- A conversation over buffered streams, like `Conversation.Config`. -/
structure Config (W : Sink) (R : Source) (σ τ ε C : Type) (A : C → Type) (ρ δ : Type) where
  client : Party W R σ ε Empty NoAnswer ρ
  server : Party W R τ ε C A Bool
  up : Bytes
  down : Bytes
  env : δ

section Config

variable {W : Sink} {R : Source} {σ τ ε C : Type} {A : C → Type} {ρ δ : Type}

namespace Config

/-- The conversation without the buffers. -/
def abs (x : Config W R σ τ ε C A ρ δ) : Conversation.Config σ τ ε C A ρ δ :=
  ⟨x.client.side, x.server.side, x.server.inbox x.up, x.client.inbox x.down, x.env⟩

structure Holds (x : Config W R σ τ ε C A ρ δ) : Prop where
  client : x.client.Holds
  server : x.server.Holds

/-- The number of bytes that nobody has got yet. -/
def ahead (x : Config W R σ τ ε C A ρ δ) : ℕ := x.client.ahead x.down + x.server.ahead x.up

end Config

variable (E : δ → (c : C) → A c → δ → Prop) (serve : Prog τ ε C A Bool)

/-- One step of the conversation. -/
inductive Step : Config W R σ τ ε C A ρ δ → Config W R σ τ ε C A ρ δ → Prop
  | client {c s u w d c' d' e} (h : Move noEnv c d () c' d' w ()) :
      Step ⟨c, s, u, d, e⟩ ⟨c', s, u ++ w, d', e⟩
  | server {c s u w d s' u' e e'} (h : Move E s u e s' u' w e') :
      Step ⟨c, s, u, d, e⟩ ⟨c, s', u', d ++ w, e'⟩
  | again {c t o r u d e} :
      Step ⟨c, ⟨.ret true, t, o, r, []⟩, u, d, e⟩ ⟨c, ⟨serve, t, o, r, []⟩, u, d, e⟩

variable {E serve} {x y : Config W R σ τ ε C A ρ δ}

/-- **Forgetting the buffers is a simulation.** -/
theorem Step.simulated (hx : x.Holds) (h : Step E serve x y) :
    y.Holds ∧ (Relation.TransGen (Conversation.Step E serve) x.abs y.abs ∨
      y.abs = x.abs ∧ y.ahead < x.ahead) := by
  obtain ⟨hclient, hserver⟩ := hx
  cases h with
  | @client c s u _ d c' d' e m =>
    obtain ⟨hclient', ⟨v, x, rfl, hmove⟩ | ⟨hside, hinbox, rfl, -, hahead⟩⟩ := m.simulated hclient
    · refine ⟨⟨hclient', hserver⟩, Or.inl ?_⟩
      have hstep : Conversation.Step E serve
          ⟨c.side, s.side, s.inbox u, c.inbox d, e⟩
          ⟨⟨c'.prog, c'.st, x ++ W.pending c'.sink⟩, s.side, s.inbox u ++ v, c'.inbox d', e⟩ :=
        .client hmove
      have habs : Relation.ReflTransGen (Conversation.Step E serve)
          ⟨⟨c'.prog, c'.st, x ++ W.pending c'.sink⟩, s.side, s.inbox u ++ v, c'.inbox d', e⟩
          ⟨c'.side, s.side, s.inbox (u ++ (v ++ x)), c'.inbox d', e⟩ := by
        rw [Party.inbox_append, ← List.append_assoc]
        by_cases hx : x = []
        · subst hx
          rw [List.nil_append, List.append_nil]
          exact .refl
        · exact .single (.clientSpill hx)
      exact .head' hstep habs
    · refine ⟨⟨hclient', hserver⟩, Or.inr ⟨?_, ?_⟩⟩
      · simp only [Config.abs, hside, hinbox, List.append_nil]
      · show c'.ahead d' + s.ahead (u ++ []) < c.ahead d + s.ahead u
        rw [List.append_nil]
        exact Nat.add_lt_add_right hahead _
  | @server c s u _ d s' u' e e' m =>
    obtain ⟨hserver', ⟨v, x, rfl, hmove⟩ | ⟨hside, hinbox, rfl, rfl, hahead⟩⟩ :=
      m.simulated hserver
    · refine ⟨⟨hclient, hserver'⟩, Or.inl ?_⟩
      have hstep : Conversation.Step E serve
          ⟨c.side, s.side, s.inbox u, c.inbox d, e⟩
          ⟨c.side, ⟨s'.prog, s'.st, x ++ W.pending s'.sink⟩, s'.inbox u', c.inbox d ++ v, e'⟩ :=
        .server hmove
      have habs : Relation.ReflTransGen (Conversation.Step E serve)
          ⟨c.side, ⟨s'.prog, s'.st, x ++ W.pending s'.sink⟩, s'.inbox u', c.inbox d ++ v, e'⟩
          ⟨c.side, s'.side, s'.inbox u', c.inbox (d ++ (v ++ x)), e'⟩ := by
        rw [Party.inbox_append, ← List.append_assoc]
        by_cases hx : x = []
        · subst hx
          rw [List.nil_append, List.append_nil]
          exact .refl
        · exact .single (.serverSpill hx)
      exact .head' hstep habs
    · refine ⟨⟨hclient, hserver'⟩, Or.inr ⟨?_, ?_⟩⟩
      · simp only [Config.abs, hside, hinbox, List.append_nil]
      · show c.ahead (d ++ []) + s'.ahead u' < c.ahead d + s.ahead u
        rw [List.append_nil]
        exact Nat.add_lt_add_left hahead _
  | again => exact ⟨⟨hclient, hserver.sink, hserver.source, Or.inl rfl⟩, Or.inl (.single .again)⟩

/-- **Every run over buffers is one without them.** -/
theorem run_simulated (hx : x.Holds) (h : Relation.ReflTransGen (Step E serve) x y) :
    y.Holds ∧ Relation.ReflTransGen (Conversation.Step E serve) x.abs y.abs := by
  induction h with
  | refl => exact ⟨hx, .refl⟩
  | tail _ hstep ih =>
    obtain ⟨hy, hrun⟩ := ih
    obtain ⟨hz, hnext | ⟨heq, -⟩⟩ := hstep.simulated hy
    · exact ⟨hz, hrun.trans hnext.to_reflTransGen⟩
    · exact ⟨hz, heq ▸ hrun⟩

/-- A conversation that stops over its buffers has stopped without them. -/
theorem stuck_simulated (hE : Answers E) (hx : x.Holds) (h : ∀ y, ¬ Step E serve x y) :
    ¬ Ready x.abs.client.prog x.abs.down ∧ ¬ Ready x.abs.server.prog x.abs.up ∧
      x.abs.server.prog ≠ .ret true := by
  obtain ⟨c, ⟨q, t, o, r, got⟩, u, d, e⟩ := x
  obtain ⟨hclient, hserver⟩ := hx
  refine ⟨fun hr => ?_, fun hr => ?_, fun hr => ?_⟩
  · obtain ⟨_, _, _, _, m⟩ := exists_move answers_noEnv hclient hr ()
    exact h _ (.client m)
  · obtain ⟨_, _, _, _, m⟩ := exists_move hE hserver hr e
    exact h _ (.server m)
  · have hq : q = .ret true := hr
    subst hq
    have hnil : got = [] := by
      refine hserver.got.resolve_right ?_
      rintro ⟨n, k, h, -⟩
      cases h
    subst hnil
    exact h _ .again

/-- **What settles, settles over buffers**: no run goes on for ever, and where a run stops the
conversation without the buffers is final. -/
theorem Settles.buffered (hE : Answers E) {F : Conversation.Config σ τ ε C A ρ δ → Prop}
    (hF : Terminal E serve F) (hx : x.Holds) (h : Settles E serve F x.abs) :
    Halts (Step E serve) x ∧ ∀ y, Relation.ReflTransGen (Step E serve) x y →
      (∀ z, ¬ Step E serve y z) → F y.abs := by
  have hhalts : Halts (Step E serve) x :=
    halts_of_simulation (fun x y hx h => Step.simulated hx h) hx (h.halts hE hF)
  refine ⟨hhalts, fun y hxy hstop => ?_⟩
  obtain ⟨hy, hrun⟩ := run_simulated hx hxy
  obtain ⟨hclient, hserver, hagain⟩ := stuck_simulated hE hy hstop
  exact (settles_stuck hclient hserver hagain).mp (h.run hF.stable hrun)

end Config

end Buffered

end Conversation

import Mathlib.Logic.Relation
import RemoteCL.Server.Thread
import RemoteCL.Theory.Descriptors

/-!
# The processes of the server

Without `REMOTECL_SERVER_USE_THREADS` the server forks a process for each connection.  The processes
share nothing, but a child starts with a copy of all descriptors of its parent, and from there on
each file is open until all processes that refer to it have closed it.

Here `main` is followed in all its processes, in any interleaving, with connections that cannot be
accepted, forks that fail, and children that abort.  `System.Step.isolated` keeps what the processes
have to do with one another: only the first one accepts, it has no connection open when it does,
and every connection is open in one process at most, but for the time that the first process takes
to close it.

## The second close

`Socket::close` leaves the number of the descriptor in place, and the destructor closes it again.
A child closes the server socket explicitly, and a second time at the end of `main`.  In between the
number is free, and it is the lowest one that is: the first file that the child opens gets it.
-/

namespace RemoteCL

open Conversation Processes

/-- What a descriptor is open to. -/
inductive File where
  /-- What the server has been started with. -/
  | inherited
  /-- The server socket. -/
  | listening
  /-- An accepted connection. -/
  | connection (n : ℕ)
  /-- What a process opens while it serves its connection: the sockets of the event stream, and the
  files of the driver. -/
  | own (pid : ℕ)
  deriving DecidableEq

/-- Where a process is in `main`, with the number of the connection while `client` is there. -/
inductive Point where
  | accepting
  | accepted (client : ℕ)
  /-- In the parent: at the destructor of `client`. -/
  | forked (client : ℕ)
  /-- In the child: behind `fork`. -/
  | born (client : ℕ)
  /-- In the child: in `run`. -/
  | serving (client : ℕ)
  /-- Behind the loop: at the destructor of `server`. -/
  | leaving
  | returning
  | ended (status : Int32)
  | aborted
  deriving DecidableEq

namespace Point

def client : Point → Option ℕ
  | accepted c | forked c | born c | serving c => some c
  | _ => none

/-- The points of a process that goes on accepting connections. -/
def Parent : Point → Prop
  | accepting | accepted _ | forked _ => True
  | _ => False

end Point

structure Process where
  files : Descriptors File
  /-- The number in `server`. -/
  server : ℕ
  running : Bool
  point : Point
  deriving DecidableEq

namespace Process

def lookup (p : Process) (n : ℕ) : Option File := p.files.lookup n

/-- The condition at the end of the loop. -/
def loop (p : Process) : Process :=
  { p with point := if p.running = true then .accepting else .leaving }

/-- The process is gone, and with it all that it had open. -/
def gone (p : Process) (point : Point) : Process := { p with files := [], point := point }

end Process

/-- What the `try` block of `main` leaves to its loop.  Of other exceptions it catches
`std::system_error` only. -/
def ThreadEnd.Caught : ThreadEnd → Prop
  | .returns => True
  | .escapes e => e = .socketError ∨ e = .other
  | .never _ => False

section Step

variable {δ : Type} (E : δ → (c : ServerCall) → Ans c → δ → Prop) (B : ServerBuild)

/-- The steps that a process takes by itself. -/
inductive Process.Step (pid : ℕ) : Process → Process → Prop
  /-- The exception is caught. -/
  | acceptFails {p} (h : p.point = .accepting) : Step pid p p.loop
  | forkFails {p c} (h : p.point = .accepted c) : Step pid p { p with point := .forked c }
  | drops {p c} (h : p.point = .forked c) :
      Step pid p { p with files := p.files.closed c }.loop
  | starts {p c} (h : p.point = .born c) :
      Step pid p { p with files := p.files.closed p.server, running := false, point := .serving c }
  | opens {p c} (h : p.point = .serving c) :
      Step pid p { p with files := p.files.opened (.own pid) }
  | shuts {p c n} (h : p.point = .serving c) (hn : p.lookup n = some (.own pid)) :
      Step pid p { p with files := p.files.closed n }
  /-- The `ServerInstance` is destroyed, and its socket closed. -/
  | finishes {p c u d x d' S} (h : p.point = .serving c) (hthread : Thread E B u d x d' S)
      (hx : x.Caught) : Step pid p { p with files := p.files.closed c }.loop
  | aborts {p c u d e d' S} (h : p.point = .serving c) (hthread : Thread E B u d (.escapes e) d' S)
      (he : e ≠ .socketError) : Step pid p (p.gone .aborted)
  /-- A signal, such as a fault in the driver. -/
  | killed {p c} (h : p.point = .serving c) : Step pid p (p.gone .aborted)
  | leaves {p} (h : p.point = .leaving) :
      Step pid p { p with files := p.files.closed p.server, point := .returning }
  | returns {p} (h : p.point = .returning) : Step pid p (p.gone (.ended 0))

/-- All processes, in the order in which they were forked, and the number of connections accepted
so far. -/
structure System where
  processes : List Process
  connections : ℕ
  deriving DecidableEq

namespace System

/-- The server, started with the files of `t`, behind the constructor of `server`. -/
def initial (t : Descriptors File) : System :=
  ⟨[⟨t.opened .listening, t.lowest, true, .accepting⟩], 0⟩

inductive Step : System → System → Prop
  | moves {s : System} {pid p p'} (hp : s.processes[pid]? = some p)
      (h : Process.Step E B pid p p') :
      Step s { s with processes := s.processes.set pid p' }
  | accepts {s : System} {pid p} (hp : s.processes[pid]? = some p) (h : p.point = .accepting) :
      Step s ⟨s.processes.set pid { p with
        files := p.files.opened (.connection s.connections), point := .accepted p.files.lowest },
        s.connections + 1⟩
  | forks {s : System} {pid p c} (hp : s.processes[pid]? = some p) (h : p.point = .accepted c) :
      Step s { s with processes := s.processes.set pid { p with point := .forked c } ++
        [{ p with point := .born c }] }

end System

end Step

/-! ## One process -/

/-- What is open in a process, of those up to the `n`-th connection. -/
structure Process.Sound (pid n : ℕ) (p : Process) : Prop where
  /-- The number in `client` refers to a connection. -/
  client : ∀ c, p.point.client = some c → ∃ m < n, p.lookup c = some (.connection m)
  /-- No other number does. -/
  connection : ∀ k m, p.lookup k = some (.connection m) → p.point.client = some k
  /-- The number in `server` refers to the server socket while the loop is to go on. -/
  server : p.running = true → p.lookup p.server = some .listening
  listening : ∀ k, p.lookup k = some .listening → k = p.server ∧ p.running = true
  own : ∀ k q, p.lookup k = some (.own q) → q = pid ∧ p.running = false
  /-- Behind the loop the number in `server` may have been given to another file. -/
  reused : p.running = false → ∀ f, p.lookup p.server = some f → f = .own pid
  /-- The numbers below that of `server` stay in use until the process is gone. -/
  below : p.files = [] ∨ ∀ k < p.server, p.lookup k = some .inherited
  running : p.running = true ↔ p.point.Parent ∨ ∃ c, p.point = .born c

namespace Process

variable {δ : Type} {E : δ → (c : ServerCall) → Ans c → δ → Prop} {B : ServerBuild}
variable {pid n m : ℕ} {p p' : Process}

/-- `main` gets to another point, with the same `client`. -/
theorem Sound.atPoint (h : p.Sound pid n) {point : Point} (hclient : point.client = p.point.client)
    (hrunning : point.Parent ∨ (∃ c, point = .born c) ↔ p.point.Parent ∨ ∃ c, p.point = .born c) :
    Sound pid n { p with point := point } where
  client c hc := h.client c (hclient ▸ hc)
  connection k m hk := hclient.trans (h.connection k m hk)
  server := h.server
  listening := h.listening
  own := h.own
  reused := h.reused
  below := h.below
  running := h.running.trans hrunning.symm

/-- Before the loop is left nothing is open that a process has opened itself: the child starts like
its parent. -/
theorem Sound.child (h : p.Sound pid n) (hp : p.running = true) (pid' : ℕ) : p.Sound pid' n where
  client := h.client
  connection := h.connection
  server := h.server
  listening := h.listening
  own k q hk := absurd hp (by rw [(h.own k q hk).2]; exact Bool.false_ne_true)
  reused hp' := absurd (hp'.symm.trans hp) Bool.false_ne_true
  below := h.below
  running := h.running

theorem Sound.mono (h : p.Sound pid n) (hnm : n ≤ m) : p.Sound pid m where
  client c hc := by
    obtain ⟨i, hi, hlookup⟩ := h.client c hc
    exact ⟨i, hi.trans_le hnm, hlookup⟩
  connection := h.connection
  server := h.server
  listening := h.listening
  own := h.own
  reused := h.reused
  below := h.below
  running := h.running

/-- The connection is closed. -/
theorem Sound.closeClient (h : p.Sound pid n) {c : ℕ} (hc : p.point.client = some c) {point : Point}
    (hpoint : point.client = none)
    (hrunning : p.running = true ↔ point.Parent ∨ ∃ c, point = .born c) :
    Sound pid n { p with files := p.files.closed c, point := point } := by
  obtain ⟨m, hm, hconnection⟩ := h.client c hc
  have hlookup (k : ℕ) : (p.files.closed c).lookup k = if k = c then none else p.lookup k :=
    Descriptors.lookup_closed _ _ _
  have hold {k : ℕ} {f : File} (hk : (p.files.closed c).lookup k = some f) :
      p.lookup k = some f := by
    rw [hlookup] at hk
    split at hk
    · cases hk
    · exact hk
  have hnew {k : ℕ} {f : File} (hk : p.lookup k = some f) (hf : f ≠ .connection m) :
      (p.files.closed c).lookup k = some f := by
    rw [hlookup, if_neg, hk]
    rintro rfl
    exact hf (Option.some.inj (hk.symm.trans hconnection))
  exact {
    client := fun k hk => by rw [hpoint] at hk; cases hk
    connection := fun k i hk => by
      have hkc : k = c := Option.some.inj ((h.connection k i (hold hk)).symm.trans hc)
      have hfree := hlookup k
      rw [if_pos hkc] at hfree
      exact absurd (hk.symm.trans hfree) (Option.some_ne_none _)
    server := fun hp => hnew (h.server hp) (by simp)
    listening := fun k hk => h.listening k (hold hk)
    own := fun k q hk => h.own k q (hold hk)
    reused := fun hp f hf => h.reused hp f (hold hf)
    below := by
      rcases h.below with hnil | hbelow
      · exact Or.inl (by simp only [hnil, Descriptors.closed])
      · exact Or.inr fun k hk => hnew (hbelow k hk) (by simp)
    running := hrunning }

theorem Sound.inherited (h : p.Sound pid n) {c : ℕ} (hc : p.point.client = some c) :
    ∀ k < p.server, p.lookup k = some .inherited := by
  rcases h.below with hnil | hbelow
  · obtain ⟨m, -, hconnection⟩ := h.client c hc
    rw [lookup, hnil, Descriptors.lookup_nil] at hconnection
    cases hconnection
  · exact hbelow

/-- A number is closed by a process that has left the loop, or is about to leave it with the server
socket. -/
theorem Sound.close (h : p.Sound pid n) {x : ℕ} (hx : p.server ≤ x)
    (hclient : p.point.client ≠ some x) (hserver : x = p.server ∨ p.running = false)
    {running : Bool} (hleft : running = false) {point : Point}
    (hpoint : point.client = p.point.client)
    (hrunning : ¬ (point.Parent ∨ ∃ c, point = .born c)) :
    Sound pid n { p with files := p.files.closed x, running := running, point := point } := by
  subst hleft
  have hlookup (k : ℕ) : (p.files.closed x).lookup k = if k = x then none else p.lookup k :=
    Descriptors.lookup_closed _ _ _
  have hold {k : ℕ} {f : File} (hk : (p.files.closed x).lookup k = some f) :
      k ≠ x ∧ p.lookup k = some f := by
    rw [hlookup] at hk
    split at hk
    · cases hk
    · exact ⟨‹_›, hk⟩
  exact {
    client := fun c hc => by
      obtain ⟨m, hm, hconnection⟩ := h.client c (hpoint ▸ hc)
      have hne : c ≠ x := fun hcx => hclient (hpoint ▸ hcx ▸ hc)
      exact ⟨m, hm, (hlookup c).trans ((if_neg hne).trans hconnection)⟩
    connection := fun k i hk => hpoint.trans (h.connection k i (hold hk).2)
    server := fun hp => Bool.noConfusion hp
    listening := fun k hk => by
      obtain ⟨rfl, hp⟩ := h.listening k (hold hk).2
      rcases hserver with hserver | hserver
      · exact absurd hserver.symm (hold hk).1
      · exact absurd (hserver.symm.trans hp) Bool.false_ne_true
    own := fun k q hk => ⟨(h.own k q (hold hk).2).1, rfl⟩
    reused := fun _ f hf => by
      rcases hserver with hserver | hserver
      · exact absurd hserver.symm (hold hf).1
      · exact h.reused hserver f (hold hf).2
    below := by
      rcases h.below with hnil | hbelow
      · exact Or.inl (by simp only [hnil, Descriptors.closed])
      · refine Or.inr fun k hk => ?_
        have hne : k ≠ x := by
          have : k < p.server := hk
          omega
        exact (hlookup k).trans ((if_neg hne).trans (hbelow k hk))
    running := ⟨fun hp => Bool.noConfusion hp, fun hpoint => absurd hpoint hrunning⟩ }

/-- A file is opened, under the lowest number. -/
theorem Sound.open (h : p.Sound pid n) {c : ℕ} (hc : p.point.client = some c)
    (hp : p.running = false) : Sound pid n { p with files := p.files.opened (.own pid) } := by
  have hlookup (k : ℕ) : (p.files.opened (.own pid)).lookup k =
      if k = p.files.lowest then some (.own pid) else p.lookup k :=
    Descriptors.lookup_opened _ _ _
  have hfree : p.lookup p.files.lowest = none := Descriptors.lookup_lowest _
  have hold {k : ℕ} {f : File} (hk : (p.files.opened (.own pid)).lookup k = some f)
      (hf : f ≠ .own pid) : p.lookup k = some f := by
    rw [hlookup] at hk
    split at hk
    · exact absurd (Option.some.inj hk).symm hf
    · exact hk
  have hnew {k : ℕ} {f : File} (hk : p.lookup k = some f) :
      (p.files.opened (.own pid)).lookup k = some f := by
    rw [hlookup, if_neg, hk]
    rintro rfl
    exact absurd (hk.symm.trans hfree) (Option.some_ne_none f)
  exact {
    client := fun k hk => by
      obtain ⟨m, hm, hconnection⟩ := h.client k hk
      exact ⟨m, hm, hnew hconnection⟩
    connection := fun k i hk => h.connection k i (hold hk (by simp))
    server := fun hp' => absurd (hp.symm.trans hp') Bool.false_ne_true
    listening := fun k hk => h.listening k (hold hk (by simp))
    own := fun k q hk => by
      by_cases hq : q = pid
      · exact ⟨hq, hp⟩
      · exact h.own k q (hold hk (by simpa using hq))
    reused := fun _ f hf => by
      by_contra hne
      exact hne (h.reused hp f (hold hf hne))
    below := Or.inr fun k hk => hnew (h.inherited hc k hk)
    running := h.running }

/-- A connection is accepted, the `n`-th one. -/
theorem Sound.accept (h : p.Sound pid n) (hp : p.point = .accepting) :
    Sound pid (n + 1) { p with
      files := p.files.opened (.connection n), point := .accepted p.files.lowest } := by
  have hrunning : p.running = true := h.running.mpr (Or.inl (by rw [hp]; trivial))
  have hlookup (k : ℕ) : (p.files.opened (.connection n)).lookup k =
      if k = p.files.lowest then some (.connection n) else p.lookup k :=
    Descriptors.lookup_opened _ _ _
  have hfree : p.lookup p.files.lowest = none := Descriptors.lookup_lowest _
  have hold {k : ℕ} {f : File} (hk : (p.files.opened (.connection n)).lookup k = some f)
      (hf : f ≠ .connection n) : p.lookup k = some f := by
    rw [hlookup] at hk
    split at hk
    · exact absurd (Option.some.inj hk).symm hf
    · exact hk
  have hnew {k : ℕ} {f : File} (hk : p.lookup k = some f) :
      (p.files.opened (.connection n)).lookup k = some f := by
    rw [hlookup, if_neg, hk]
    rintro rfl
    exact absurd (hk.symm.trans hfree) (Option.some_ne_none f)
  exact {
    client := fun k hk => by
      obtain rfl : p.files.lowest = k := Option.some.inj hk
      exact ⟨n, Nat.lt_succ_self n, (hlookup _).trans (if_pos rfl)⟩
    connection := fun k i hk => by
      change (p.files.opened (.connection n)).lookup k = _ at hk
      rw [hlookup] at hk
      split at hk
      · rename_i hkl
        exact congrArg some hkl.symm
      · have hclient := h.connection k i hk
        rw [hp] at hclient
        cases hclient
    server := fun _ => hnew (h.server hrunning)
    listening := fun k hk => h.listening k (hold hk (by simp))
    own := fun k q hk => h.own k q (hold hk (by simp))
    reused := fun hp => absurd (hp.symm.trans hrunning) Bool.false_ne_true
    below := by
      rcases h.below with hnil | hbelow
      · have hserver := h.server hrunning
        rw [lookup, hnil, Descriptors.lookup_nil] at hserver
        cases hserver
      · exact Or.inr fun k hk => hnew (hbelow k hk)
    running := ⟨fun _ => Or.inl trivial, fun _ => hrunning⟩ }

theorem sound_gone {point : Point} (hp : p.running = false) (hpoint : point.client = none)
    (hrunning : ¬ (point.Parent ∨ ∃ c, point = .born c)) :
    (p.gone point).Sound pid n where
  client c hc := by
    change point.client = some c at hc
    rw [hpoint] at hc
    cases hc
  connection k m hk := by cases hk
  server hp' := absurd (hp.symm.trans hp') Bool.false_ne_true
  listening k hk := by cases hk
  own k q hk := by cases hk
  reused _ f hf := by cases hf
  below := Or.inl rfl
  running := ⟨fun hp' => absurd (hp.symm.trans hp') Bool.false_ne_true,
    fun hpoint => absurd hpoint hrunning⟩

/-- **What one process does keeps what it has open.** -/
theorem Step.sound (hstep : Step E B pid p p') (h : p.Sound pid n) : p'.Sound pid n := by
  have hleft (hp : ¬ (p.point.Parent ∨ ∃ c, p.point = .born c)) : p.running = false :=
    Bool.eq_false_iff.mpr fun hrunning => hp (h.running.mp hrunning)
  cases hstep with
  | acceptFails hp =>
    have hrunning : p.running = true := h.running.mpr (Or.inl (by rw [hp]; trivial))
    rw [loop, if_pos hrunning]
    exact h.atPoint (by rw [hp]) (by rw [hp])
  | forkFails hp => exact h.atPoint (by rw [hp]; rfl) (by rw [hp]; simp [Point.Parent])
  | drops hp =>
    have hrunning : p.running = true := h.running.mpr (Or.inl (by rw [hp]; trivial))
    rw [loop, if_pos hrunning]
    exact h.closeClient (by rw [hp]; rfl) rfl ⟨fun _ => Or.inl trivial, fun _ => hrunning⟩
  | starts hp =>
    have hrunning : p.running = true := h.running.mpr (Or.inr ⟨_, hp⟩)
    refine h.close le_rfl ?_ (Or.inl rfl) rfl (by rw [hp]; rfl) (by simp [Point.Parent])
    intro hclient
    obtain ⟨m, -, hconnection⟩ := h.client _ hclient
    cases hconnection.symm.trans (h.server hrunning)
  | opens hp => exact h.open (by rw [hp]; rfl) (hleft (by simp [hp, Point.Parent]))
  | shuts hp hn =>
    have hrunning : p.running = false := hleft (by simp [hp, Point.Parent])
    refine h.close ?_ ?_ (Or.inr hrunning) hrunning rfl (by simp [hp, Point.Parent])
    · -- a number below that of `server` refers to an inherited file
      by_contra hlt
      have hbelow := h.inherited (by rw [hp]; rfl) _ (Nat.lt_of_not_le hlt)
      cases hn.symm.trans hbelow
    · intro hclient
      obtain ⟨m, -, hconnection⟩ := h.client _ hclient
      cases hn.symm.trans hconnection
  | finishes hp hthread hx =>
    have hrunning : p.running = false := hleft (by simp [hp, Point.Parent])
    rw [loop, if_neg (by rw [hrunning]; exact Bool.false_ne_true)]
    exact h.closeClient (by rw [hp]; rfl) rfl (by simp [hrunning, Point.Parent])
  | aborts hp hthread he =>
    exact sound_gone (hleft (by simp [hp, Point.Parent])) rfl (by simp [Point.Parent])
  | killed hp => exact sound_gone (hleft (by simp [hp, Point.Parent])) rfl (by simp [Point.Parent])
  | leaves hp =>
    have hrunning : p.running = false := hleft (by simp [hp, Point.Parent])
    exact h.close le_rfl (by rw [hp]; exact (Option.some_ne_none _).symm) (Or.inr hrunning)
      hrunning (by rw [hp]; rfl) (by simp [Point.Parent])
  | returns hp => exact sound_gone (hleft (by simp [hp, Point.Parent])) rfl (by simp [Point.Parent])

/-- No step but that of accepting opens a connection. -/
theorem Step.connection (hstep : Step E B pid p p') {k : ℕ}
    (hk : p'.lookup k = some (.connection m)) : p.lookup k = some (.connection m) := by
  have hclosed {x : ℕ} (hk : (p.files.closed x).lookup k = some (.connection m)) :
      p.lookup k = some (.connection m) := by
    rw [Descriptors.lookup_closed] at hk
    split at hk
    · cases hk
    · exact hk
  cases hstep with
  | acceptFails => exact hk
  | forkFails => exact hk
  | drops => exact hclosed hk
  | starts => exact hclosed hk
  | opens =>
    change (p.files.opened _).lookup k = _ at hk
    rw [Descriptors.lookup_opened] at hk
    split at hk
    · cases hk
    · exact hk
  | shuts => exact hclosed hk
  | finishes => exact hclosed hk
  | aborts => cases hk
  | killed => cases hk
  | leaves => exact hclosed hk
  | returns => cases hk

/-- Nothing makes a process leave the loop, or return to it. -/
theorem Step.parent_iff (hstep : Step E B pid p p') (h : p.Sound pid n) :
    p'.point.Parent ↔ p.point.Parent := by
  have hloop (hp : p.point.Parent) : (if p.running = true then Point.accepting else .leaving) =
      .accepting := if_pos (h.running.mpr (Or.inl hp))
  cases hstep with
  | acceptFails hp => 
    have := hloop (by rw [hp]; trivial)
    simp [loop, this, hp, Point.Parent]
  | forkFails hp => simp [hp, Point.Parent]
  | drops hp => 
    have := hloop (by rw [hp]; trivial)
    simp [loop, this, hp, Point.Parent]
  | starts hp => simp [hp, Point.Parent]
  | opens hp => rfl
  | shuts hp hn => rfl
  | finishes hp hthread hx => 
    have hrunning : p.running = false := Bool.eq_false_iff.mpr fun hrunning => by
      simpa [hp, Point.Parent] using h.running.mp hrunning
    simp [loop, hrunning, hp, Point.Parent]
  | aborts hp hthread he => simp [gone, hp, Point.Parent]
  | killed hp => simp [gone, hp, Point.Parent]
  | leaves hp => simp [hp, Point.Parent]
  | returns hp => simp [gone, hp, Point.Parent]

theorem Step.client_of_forked (hstep : Step E B pid p p') {c : ℕ} (hp : p.point = .forked c) :
    p'.point.client = none := by
  cases hstep with
  | drops hp' => 
    rw [loop]
    split
    · rfl
    · rfl
  | acceptFails hp' | forkFails hp' | starts hp' | opens hp' | shuts hp' | finishes hp'
  | aborts hp' | killed hp' | leaves hp' | returns hp' => cases hp.symm.trans hp'

end Process

/-! ## All processes -/

namespace System

/-- What the processes have to do with one another. -/
structure Isolated (s : System) : Prop where
  sound : ∀ (pid : ℕ) (p : Process), s.processes[pid]? = some p → p.Sound pid s.connections
  /-- The first process is the one that accepts connections, and it does so for ever. -/
  parent : ∀ (pid : ℕ) (p : Process), s.processes[pid]? = some p → (p.point.Parent ↔ pid = 0)
  started : 0 < s.processes.length
  /-- No two processes have the same connection open, unless the first one is about to close it. -/
  connection : ∀ (i j : ℕ) (p q : Process) (k l m : ℕ), s.processes[i]? = some p →
    s.processes[j]? = some q → p.lookup k = some (.connection m) →
    q.lookup l = some (.connection m) → i = j ∨ p.point = .forked k ∨ q.point = .forked l

variable {δ : Type} {E : δ → (c : ServerCall) → Ans c → δ → Prop} {B : ServerBuild}
variable {s s' : System}

theorem isolated_initial {t : Descriptors File} (ht : ∀ k f, t.lookup k = some f → f = .inherited) :
    (initial t).Isolated := by
  have hone {pid : ℕ} {p : Process} (hp : (initial t).processes[pid]? = some p) :
      pid = 0 ∧ p = ⟨t.opened .listening, t.lowest, true, .accepting⟩ := by
    cases pid with
    | zero => exact ⟨rfl, (Option.some.inj hp).symm⟩
    | succ pid => cases hp
  have hlookup (k : ℕ) : (t.opened .listening).lookup k =
      if k = t.lowest then some .listening else t.lookup k := Descriptors.lookup_opened _ _ _
  have hfile {k : ℕ} {f : File} (hk : (t.opened .listening).lookup k = some f)
      (hf : f ≠ .inherited) : k = t.lowest ∧ f = .listening := by
    rw [hlookup] at hk
    split at hk
    · exact ⟨‹_›, (Option.some.inj hk).symm⟩
    · exact absurd (ht k f hk) hf
  refine ⟨fun pid p hp => ?_, fun pid p hp => ?_, Nat.one_pos, fun i j p q k l m hp hq _ _ => ?_⟩
  · obtain ⟨rfl, rfl⟩ := hone hp
    exact {
      client := fun c hc => by cases hc
      connection := fun k m hk => File.noConfusion (hfile hk (by simp)).2
      server := fun _ => (hlookup _).trans (if_pos rfl)
      listening := fun k hk => ⟨(hfile hk (by simp)).1, rfl⟩
      own := fun k q hk => File.noConfusion (hfile hk (by simp)).2
      reused := fun hp => Bool.noConfusion hp
      below := Or.inr fun k hk => by
        have hk : k < t.lowest := hk
        obtain ⟨f, hf⟩ := Option.ne_none_iff_exists'.mp (Descriptors.lookup_ne_none hk)
        exact (hlookup k).trans ((if_neg hk.ne).trans (hf.trans (congrArg some (ht k f hf))))
      running := ⟨fun _ => Or.inl trivial, fun _ => rfl⟩ }
  · obtain ⟨rfl, rfl⟩ := hone hp
    exact ⟨fun _ => rfl, fun _ => trivial⟩
  · exact Or.inl ((hone hp).1.trans (hone hq).1.symm)

/-- One process changes. -/
theorem Isolated.set (h : s.Isolated) {pid n : ℕ} {p p' : Process}
    (hp : s.processes[pid]? = some p) (hn : s.connections ≤ n) (hsound : p'.Sound pid n)
    (hparent : p'.point.Parent ↔ p.point.Parent)
    (hconnection : ∀ (j : ℕ) (q : Process) (k l m : ℕ), s.processes[j]? = some q → pid ≠ j →
      p'.lookup k = some (.connection m) → q.lookup l = some (.connection m) →
      p'.point = .forked k ∨ q.point = .forked l) :
    Isolated ⟨s.processes.set pid p', n⟩ := by
  have hget {i : ℕ} {q : Process} (hq : (s.processes.set pid p')[i]? = some q) :
      pid = i ∧ q = p' ∨ pid ≠ i ∧ s.processes[i]? = some q := by
    rw [List.getElem?_set] at hq
    split at hq
    · split at hq
      · exact Or.inl ⟨‹_›, (Option.some.inj hq).symm⟩
      · cases hq
    · exact Or.inr ⟨‹_›, hq⟩
  refine ⟨fun i q hq => ?_, fun i q hq => ?_, ?_, fun i j q r k l m hq hr hk hl => ?_⟩
  · rcases hget hq with ⟨rfl, rfl⟩ | ⟨-, hq⟩
    · exact hsound
    · exact (h.sound i q hq).mono hn
  · rcases hget hq with ⟨rfl, rfl⟩ | ⟨-, hq⟩
    · exact hparent.trans (h.parent pid p hp)
    · exact h.parent i q hq
  · rw [List.length_set]
    exact h.started
  · rcases hget hq with ⟨rfl, rfl⟩ | ⟨hne, hq'⟩
    · rcases hget hr with ⟨rfl, rfl⟩ | ⟨hne, hr'⟩
      · exact Or.inl rfl
      · exact Or.inr (hconnection j r k l m hr' hne hk hl)
    · rcases hget hr with ⟨rfl, rfl⟩ | ⟨-, hr'⟩
      · exact Or.inr (hconnection i q l k m hq' hne hl hk).symm
      · exact h.connection i j q r k l m hq' hr' hk hl

/-- A process is forked. -/
theorem Isolated.append (h : s.Isolated) {p : Process}
    (hsound : p.Sound s.processes.length s.connections) (hparent : ¬ p.point.Parent)
    (hconnection : ∀ (j : ℕ) (q : Process) (k l m : ℕ), s.processes[j]? = some q →
      p.lookup k = some (.connection m) → q.lookup l = some (.connection m) →
      q.point = .forked l) :
    Isolated { s with processes := s.processes ++ [p] } := by
  have hget {i : ℕ} {q : Process} (hq : (s.processes ++ [p])[i]? = some q) :
      s.processes[i]? = some q ∨ i = s.processes.length ∧ q = p := by
    rcases Nat.lt_or_ge i s.processes.length with hi | hi
    · rw [List.getElem?_append_left hi] at hq
      exact Or.inl hq
    · rw [List.getElem?_append_right hi, List.getElem?_singleton] at hq
      split at hq
      · exact Or.inr ⟨by omega, (Option.some.inj hq).symm⟩
      · cases hq
  refine ⟨fun i q hq => ?_, fun i q hq => ?_, ?_, fun i j q r k l m hq hr hk hl => ?_⟩
  · rcases hget hq with hq | ⟨rfl, rfl⟩
    · exact h.sound i q hq
    · exact hsound
  · rcases hget hq with hq | ⟨rfl, rfl⟩
    · exact h.parent i q hq
    · exact ⟨fun hq => absurd hq hparent, fun hq => absurd hq h.started.ne'⟩
  · rw [List.length_append]
    exact Nat.add_pos_left h.started _
  · rcases hget hq with hq' | ⟨rfl, rfl⟩
    · rcases hget hr with hr' | ⟨rfl, rfl⟩
      · exact h.connection i j q r k l m hq' hr' hk hl
      · exact Or.inr (Or.inl (hconnection i q l k m hq' hl hk))
    · rcases hget hr with hr' | ⟨rfl, rfl⟩
      · exact Or.inr (Or.inr (hconnection j r k l m hr' hk hl))
      · exact Or.inl rfl

/-- **Whatever a process does, the processes stay isolated.** -/
theorem Step.isolated (hstep : Step E B s s') (h : s.Isolated) : s'.Isolated := by
  cases hstep with
  | @moves pid p p' hp hmove =>
    have hsound := hmove.sound (h.sound pid p hp)
    refine h.set hp le_rfl hsound (hmove.parent_iff (h.sound pid p hp)) ?_
    intro j q k l m hq hne hk hl
    rcases h.connection pid j p q k l m hp hq (hmove.connection hk) hl with heq | hforked | hforked
    · exact absurd heq hne
    · -- the first process has just closed its connections
      have hclient := hsound.connection k m hk
      rw [hmove.client_of_forked hforked] at hclient
      cases hclient
    · exact Or.inr hforked
  | @accepts pid p hp hpoint =>
    refine h.set hp (Nat.le_succ _) ((h.sound pid p hp).accept hpoint)
      (by rw [hpoint]; exact Iff.rfl) ?_
    intro j q k l m hq hne hk hl
    change (p.files.opened _).lookup k = _ at hk
    rw [Descriptors.lookup_opened] at hk
    split at hk
    · -- nobody has the new connection yet
      obtain ⟨i, hi, hconnection⟩ := (h.sound j q hq).client l ((h.sound j q hq).connection l m hl)
      have him : i = m := File.connection.inj (Option.some.inj (hconnection.symm.trans hl))
      have hm : s.connections = m := File.connection.inj (Option.some.inj hk)
      omega
    · have hclient := (h.sound pid p hp).connection k m hk
      rw [hpoint] at hclient
      cases hclient
  | @forks pid p c hp hpoint =>
    have hsound := h.sound pid p hp
    have hrunning : p.running = true := hsound.running.mpr (Or.inl (by rw [hpoint]; trivial))
    have hown {k m : ℕ} (hk : p.lookup k = some (.connection m)) : c = k := by
      have hclient := hsound.connection k m hk
      rw [hpoint] at hclient
      exact Option.some.inj hclient
    have hset : Isolated ⟨s.processes.set pid { p with point := .forked c }, s.connections⟩ := by
      refine h.set hp le_rfl (hsound.atPoint (by rw [hpoint]; rfl) (by simp [hpoint, Point.Parent]))
        (by simp [hpoint, Point.Parent]) ?_
      intro j q k l m hq hne hk hl
      exact Or.inl (congrArg Point.forked (hown hk))
    refine hset.append ((hsound.child hrunning _).atPoint (by rw [hpoint]; rfl)
      (by simp [hpoint, Point.Parent])) (by simp [Point.Parent]) ?_
    intro j q k l m hq hk hl
    rw [List.getElem?_set] at hq
    split at hq
    · split at hq
      · obtain rfl := Option.some.inj hq
        exact congrArg Point.forked (hown hl)
      · cases hq
    · rename_i hne
      rcases h.connection pid j p q k l m hp hq hk hl with heq | hforked | hforked
      · exact absurd heq hne
      · cases hpoint.symm.trans hforked
      · exact hforked

end System

end RemoteCL

import Mathlib.Data.Set.Lattice
import RemoteCL.Theory.Unreliable

/-!
# Programs that pass on what they were given

The questions of a program name things, and so do the answers.  The things are capabilities if a
program cannot make them up: it may name what it finds in its private state, and what an answer has
named before.  Everything else that it has, what it reads above all, are mere bytes.  Whether a part
of a question names something may depend on the answer to the question before it.

`p.KeepsTo P l K` says that the program `p` keeps to this rule if `l` is the last answer and it has
the capabilities `K` at the beginning.  It is found by going through the program, and says nothing
about the environment.  What it is good for is said of the runs: in the log of an environment that
remembers all questions and answers, every question names only what one of the earlier answers has
named (`Prog.KeepsTo.checked`), wherever a run ends and whatever it meets.
-/

namespace Conversation

open ByteStream

/-- A question, and how it was answered. -/
abbrev Entry (C : Type) (A : C → Type) : Type := (c : C) × A c

/-- What the capabilities of a kind of programs are: those that everyone has, those in a private
state, in a question (if it comes after another one) and in an answer; and what may be relied on
about the answers. -/
structure Capabilities (σ C : Type) (A : C → Type) (κ : Type) where
  common : Set κ
  holds : σ → Set κ
  uses : Option (Entry C A) → C → Set κ
  gives : (c : C) → A c → Set κ
  promise : (c : C) → A c → Prop

namespace Capabilities

variable {σ C κ : Type} {A : C → Type} (P : Capabilities σ C A κ)

/-- What an environment has named so far. -/
def known (log : List (Entry C A)) : Set κ :=
  {x | x ∈ P.common ∨ ∃ entry ∈ log, x ∈ P.gives entry.1 entry.2}

/-- An environment that remembers what it was asked and what it has answered.  How it answers may
depend on all of that. -/
def Recorded (D : List (Entry C A) → (c : C) → A c → Prop) (log : List (Entry C A)) (c : C)
    (a : A c) (log' : List (Entry C A)) : Prop := D log c a ∧ log' = log ++ [⟨c, a⟩]

/-- Every question names only what the answers before it have named. -/
def AllChecked (log : List (Entry C A)) : Prop :=
  ∀ before entry after, log = before ++ entry :: after →
    P.uses before.getLast? entry.1 ⊆ P.known before

theorem allChecked_nil : P.AllChecked [] := fun before entry after h => by
  cases before <;> cases h

theorem AllChecked.append {log : List (Entry C A)} (h : P.AllChecked log) {c : C} (a : A c)
    (hc : P.uses log.getLast? c ⊆ P.known log) : P.AllChecked (log ++ [⟨c, a⟩]) := by
  intro before entry after hlog
  rcases after.eq_nil_or_concat with rfl | ⟨after, last, rfl⟩
  · obtain ⟨rfl, hentry⟩ := List.append_inj' hlog rfl
    cases hentry
    exact hc
  · rw [List.concat_eq_append, ← List.cons_append, ← List.append_assoc] at hlog
    exact h before entry after (List.append_inj' hlog rfl).1

theorem common_subset_known (log : List (Entry C A)) : P.common ⊆ P.known log :=
  fun _ hx => Or.inl hx

theorem known_append (log : List (Entry C A)) (c : C) (a : A c) :
    P.known (log ++ [⟨c, a⟩]) = P.gives c a ∪ P.known log := by
  ext x
  constructor
  · rintro (hx | ⟨entry, hentry, hx⟩)
    · exact Or.inr (Or.inl hx)
    · rcases List.mem_append.mp hentry with hentry | hentry
      · exact Or.inr (Or.inr ⟨entry, hentry, hx⟩)
      · rw [List.mem_singleton.mp hentry] at hx
        exact Or.inl hx
  · rintro (hx | hx | ⟨entry, hentry, hx⟩)
    · exact Or.inr ⟨⟨c, a⟩, List.mem_append_right _ List.mem_cons_self, hx⟩
    · exact Or.inl hx
    · exact Or.inr ⟨entry, List.mem_append_left _ hentry, hx⟩

end Capabilities

namespace Prog

variable {σ ε C κ : Type} {A : C → Type} {α β : Type}

/-- The programs that keep to what they are given, if this is the last answer, and they have the
capabilities `K`. -/
def KeepsTo (P : Capabilities σ C A κ) : Prog σ ε C A α → Option (Entry C A) → Set κ → Prop
  | ret _, _, _ => True
  | throw _, _, _ => True
  | get k, l, K => ∀ s, (k s).KeepsTo P l (P.holds s ∪ K)
  | put s k, l, K => P.holds s ⊆ K ∧ k.KeepsTo P l K
  | write _ k, l, K => ∀ r, (k r).KeepsTo P l K
  | flush k, l, K => ∀ r, (k r).KeepsTo P l K
  | read _ k, l, K => ∀ r, (k r).KeepsTo P l K
  | peek k, l, K => ∀ b, (k b).KeepsTo P l K
  | check _ k, l, K => k.KeepsTo P l K
  | call c k, l, K =>
    P.uses l c ⊆ K ∧ ∀ a, P.promise c a → (k a).KeepsTo P (some ⟨c, a⟩) (P.gives c a ∪ K)
  | spin, _, _ => True

section Rules

variable {P : Capabilities σ C A κ} {l : Option (Entry C A)} {K K' : Set κ}

/-- More capabilities do no harm. -/
theorem KeepsTo.mono {p : Prog σ ε C A α} (hp : p.KeepsTo P l K) (hK : K ⊆ K') :
    p.KeepsTo P l K' := by
  induction p generalizing l K K' with
  | ret | throw | spin => trivial
  | get k ih => exact fun s => ih s (hp s) (Set.union_subset_union_right _ hK)
  | put s k ih => exact ⟨hp.1.trans hK, ih hp.2 hK⟩
  | write b k ih | flush k ih | read n k ih => exact fun r => ih r (hp r) hK
  | peek k ih => exact fun b => ih b (hp b) hK
  | check b k ih => exact ih hp hK
  | call c k ih =>
    exact ⟨hp.1.trans hK, fun a ha => ih a (hp.2 a ha) (Set.union_subset_union_right _ hK)⟩

/-- A program in a context: what the context does with the result needs no more, whatever the last
answer was. -/
theorem KeepsTo.context {F : Prog σ ε C A α → Prog σ ε C A β} (hF : Context F)
    {p : Prog σ ε C A α} (hp : p.KeepsTo P l K) (hret : ∀ a l, (F (ret a)).KeepsTo P l K)
    (hthrow : ∀ e l, (F (throw e)).KeepsTo P l K) : (F p).KeepsTo P l K := by
  induction p generalizing l K with
  | ret a => exact hret a l
  | throw e => exact hthrow e l
  | get k ih =>
    rw [hF.get]
    exact fun s => ih s (hp s) (fun a l => (hret a l).mono Set.subset_union_right) fun e l =>
      (hthrow e l).mono Set.subset_union_right
  | put s k ih =>
    rw [hF.put]
    exact ⟨hp.1, ih hp.2 hret hthrow⟩
  | write b k ih =>
    rw [hF.write]
    exact fun r => ih r (hp r) hret hthrow
  | flush k ih =>
    rw [hF.flush]
    exact fun r => ih r (hp r) hret hthrow
  | read n k ih =>
    rw [hF.read]
    exact fun r => ih r (hp r) hret hthrow
  | peek k ih =>
    rw [hF.peek]
    exact fun b => ih b (hp b) hret hthrow
  | check b k ih =>
    rw [hF.check]
    exact ih hp hret hthrow
  | call c k ih =>
    rw [hF.call]
    exact ⟨hp.1, fun a ha => ih a (hp.2 a ha)
      (fun a l => (hret a l).mono Set.subset_union_right)
      fun e l => (hthrow e l).mono Set.subset_union_right⟩
  | spin =>
    rw [hF.spin]
    trivial

theorem KeepsTo.bind {p : Prog σ ε C A α} {f : α → Prog σ ε C A β} (hp : p.KeepsTo P l K)
    (hf : ∀ a l, (f a).KeepsTo P l K) : (p >>= f).KeepsTo P l K :=
  hp.context (Context.bind f) hf fun _ _ => trivial

theorem KeepsTo.tryCatch {p : Prog σ ε C A α} {g : ε → Prog σ ε C A α} (hp : p.KeepsTo P l K)
    (hg : ∀ e l, (g e).KeepsTo P l K) : (p.tryCatch g).KeepsTo P l K :=
  hp.context (Context.tryCatch g) (fun _ _ => trivial) hg

/-! ### Programs that ask nothing

The last answer is the same afterwards. -/

theorem keepsTo_liftExcept_bind (r : Except ε α) {f : α → Prog σ ε C A β}
    (hf : ∀ a, (f a).KeepsTo P l K) : (liftExcept r >>= f).KeepsTo P l K := by
  cases r with
  | error e => trivial
  | ok a => exact hf a

theorem keepsTo_ofReader_bind (r : Reader α) {f : α → Prog σ ε C A β}
    (hf : ∀ a, (f a).KeepsTo P l K) : (ofReader r >>= f).KeepsTo P l K := by
  induction r with
  | done a => exact hf a
  | take n k ih =>
    rw [ofReader]
    rintro (e | b)
    · trivial
    · exact ih b

theorem keepsTo_liftExcept (r : Except ε α) : (liftExcept r : Prog σ ε C A α).KeepsTo P l K := by
  rw [← bind_pure (liftExcept r)]
  exact keepsTo_liftExcept_bind r fun _ => trivial

theorem keepsTo_ofReader (r : Reader α) : (ofReader r : Prog σ ε C A α).KeepsTo P l K := by
  rw [← bind_pure (ofReader r)]
  exact keepsTo_ofReader_bind r fun _ => trivial

end Rules

/-! ## Runs -/

section Runs

variable [DecidableEq ε] {M : Medium ε} {P : Capabilities σ C A κ}

/-- All questions have been checked, and what is left in the private state has been named. -/
def LeavesChecked (P : Capabilities σ C A κ) : Stop σ ε α (List (Entry C A)) → Prop
  | .done _ s _ _ log => P.AllChecked log ∧ P.holds s ⊆ P.known log
  | .never _ log => P.AllChecked log

/-- **A run** of a program that keeps to what it is given: all questions have been checked. -/
theorem KeepsTo.checked {D : List (Entry C A) → (c : C) → A c → Prop}
    (hD : ∀ log c a, D log c a → P.promise c a) {x : Option ε} {p : Prog σ ε C A α} {s : σ}
    {u : Bytes} {w : ℕ} {log : List (Entry C A)} {o : Stop σ ε α (List (Entry C A))}
    {fs : List (Fault ε)} (h : Faulty M (Capabilities.Recorded D) x p s u w log o fs) {K : Set κ}
    (hp : p.KeepsTo P log.getLast? K) (hK : K ⊆ P.known log) (hs : P.holds s ⊆ P.known log)
    (hlog : P.AllChecked log) : LeavesChecked P o := by
  induction h generalizing K with
  | ret | throw => exact ⟨hlog, hs⟩
  | writeKills | flushKills | readForever | callForever | spin => exact hlog
  | get _ ih => exact ih (hp _) (Set.union_subset hs hK) hs hlog
  | put _ ih => exact ih hp.2 hK (hp.1.trans hK) hlog
  | write _ _ ih | flush _ ih | read _ _ ih | peek _ ih => exact ih (hp _) hK hs hlog
  | writeSpills _ _ _ ih => exact ih (hp _) hK hs hlog
  | writeFails _ _ ih | flushFails _ _ ih | readFails _ _ ih | readNoMemory _ _ ih =>
    exact ih (hp _) hK hs hlog
  | check _ ih => exact ih hp hK hs hlog
  | call ha _ ih =>
    obtain ⟨hanswer, rfl⟩ := ha
    have hknown := P.known_append
    refine ih (K := _ ∪ K) ?_ (by rw [hknown]; exact Set.union_subset_union_right _ hK)
      (by rw [hknown]; exact hs.trans Set.subset_union_right)
      (hlog.append P _ (hp.1.trans hK))
    rw [List.getLast?_concat]
    exact hp.2 _ (hD _ _ _ hanswer)

end Runs

end Prog

end Conversation

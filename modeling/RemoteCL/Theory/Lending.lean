import Mathlib.Data.Set.Basic
import Mathlib.Logic.Function.Basic
import Mathlib.Logic.Relation

/-!
# Vectors that are lent

A party serves one request after the other.  For each of them it makes a vector, lends it to a
command, sends a reply from the vector and destroys it.  A command is completed by somebody else, at
any later step, and only then it touches its vector.  Some commands are waited for before the reply
is sent (`System.waits`).

All is well (`Safe`) if no command is pending on a vector that has been destroyed, and every reply
has been sent from a vector that its command was done with.  Over all runs this is so exactly if
every request is one whose command is waited for (`safe_iff`).
-/

namespace Lending

variable (ρ α β : Type)

/-- What there is to know about requests: what their vectors contain at first and when the command
has been completed with some data, and whether the command is waited for. -/
structure System where
  initial : ρ → α
  result : ρ → β → α
  waits : ρ → Bool

/-- A command, the vector it has been lent, and the data that it will be completed with. -/
structure Loan where
  request : ρ
  vector : ℕ
  data : β

/-- How far the party is with a request. -/
inductive Phase where
  | idle
  | holding (r : ρ) (v : ℕ)
  | lending (c : Loan ρ β)
  | leaving (v : ℕ)

/-- A reply, and what the vector contained when it was sent. -/
structure Reply where
  loan : Loan ρ β
  content : Option α

/-- The vectors are numbered; there is no content where there is no vector, or no longer one. -/
structure State where
  phase : Phase ρ β
  vectors : ℕ → Option α
  next : ℕ
  pending : List (Loan ρ β)
  replies : List (Reply ρ α β)

variable {ρ α β}

/-- The party has not begun. -/
def start : State ρ α β := ⟨.idle, fun _ => none, 0, [], []⟩

variable (S : System ρ α β) (R : Set ρ)

/-- A command touches its vector.  Nothing can be said about an access to a vector that has been
destroyed. -/
def System.access (c : Loan ρ β) (vectors : ℕ → Option α) : ℕ → Option α :=
  Function.update vectors c.vector
    ((vectors c.vector).map fun _ => S.result c.request c.data)

/-- The steps, for requests from `R`. -/
inductive Step : State ρ α β → State ρ α β → Prop
  | make {x : State ρ α β} {r : ρ} (hr : r ∈ R) (hx : x.phase = .idle) :
      Step x { x with
        phase := .holding r x.next
        vectors := Function.update x.vectors x.next (some (S.initial r))
        next := x.next + 1 }
  | refuse {x : State ρ α β} {r : ρ} {v : ℕ} (hx : x.phase = .holding r v) :
      Step x { x with phase := .leaving v }
  | lend {x : State ρ α β} {r : ρ} {v : ℕ} (data : β) (hx : x.phase = .holding r v) :
      Step x { x with phase := .lending ⟨r, v, data⟩, pending := x.pending ++ [⟨r, v, data⟩] }
  | complete {x : State ρ α β} {c : Loan ρ β} {l l' : List (Loan ρ β)}
      (hx : x.pending = l ++ c :: l') :
      Step x { x with vectors := S.access c x.vectors, pending := l ++ l' }
  | reply {x : State ρ α β} {c : Loan ρ β} (hx : x.phase = .lending c)
      (hwait : S.waits c.request = true → c ∉ x.pending) :
      Step x { x with
        phase := .leaving c.vector
        replies := x.replies ++ [⟨c, x.vectors c.vector⟩] }
  | destroy {x : State ρ α β} {v : ℕ} (hx : x.phase = .leaving v) :
      Step x { x with phase := .idle, vectors := Function.update x.vectors v none }

/-- The states of all runs. -/
def Reachable (x : State ρ α β) : Prop := Relation.ReflTransGen (Step S R) start x

/-- No command is pending on a vector that has been destroyed, and every reply has been sent from a
vector that its command was done with. -/
structure Safe (x : State ρ α β) : Prop where
  pending : ∀ c ∈ x.pending, (x.vectors c.vector).isSome
  replies : ∀ y ∈ x.replies, y.content = some (S.result y.loan.request y.loan.data)

variable {S R} {x y : State ρ α β}

theorem Reachable.induction {I : State ρ α β → Prop} (hstart : I start)
    (hstep : ∀ x y, I x → Step S R x y → I y) (hx : Reachable S R x) : I x := by
  induction hx with
  | refl => exact hstart
  | tail _ hxy ih => exact hstep _ _ ih hxy

theorem access_self (c : Loan ρ β) (vectors : ℕ → Option α) :
    S.access c vectors c.vector = (vectors c.vector).map fun _ => S.result c.request c.data :=
  Function.update_self _ _ _

theorem access_of_ne {c : Loan ρ β} {v : ℕ} (h : v ≠ c.vector) (vectors : ℕ → Option α) :
    S.access c vectors v = vectors v := Function.update_of_ne h _ _

/-! ## What is in a vector -/

/-- What holds in any case: a command is pending on the vector it has been lent, and a vector has
been touched by its command or by nobody. -/
structure Consistent (S : System ρ α β) (x : State ρ α β) : Prop where
  below : ∀ c ∈ x.pending, c.vector < x.next
  holding : ∀ r v, x.phase = .holding r v →
    v < x.next ∧ x.vectors v = some (S.initial r) ∧ ∀ c ∈ x.pending, c.vector ≠ v
  lending : ∀ c, x.phase = .lending c →
    (x.vectors c.vector = some (S.initial c.request) ∨
        x.vectors c.vector = some (S.result c.request c.data)) ∧
      ∀ c' ∈ x.pending, c'.vector = c.vector → c' = c
  replies : ∀ y ∈ x.replies, y.content = some (S.initial y.loan.request) ∨
    y.content = some (S.result y.loan.request y.loan.data)

theorem Consistent.step (hx : Consistent S x) (hxy : Step S R x y) : Consistent S y := by
  cases hxy with
  | @make r hr hphase =>
    refine ⟨fun c hc => (hx.below c hc).trans (Nat.lt_succ_self _), ?_, ?_, hx.replies⟩
    · rintro _ _ ⟨⟩
      exact ⟨Nat.lt_succ_self _, Function.update_self _ _ _, fun c hc => (hx.below c hc).ne⟩
    · rintro c ⟨⟩
  | refuse hphase => exact ⟨hx.below, (fun _ _ h => nomatch h), (fun _ h => nomatch h), hx.replies⟩
  | @lend r v data hphase =>
    obtain ⟨hv, hvector, hother⟩ := hx.holding r v hphase
    refine ⟨?_, (fun _ _ h => nomatch h), ?_, hx.replies⟩
    · intro c hc
      rcases List.mem_append.mp hc with hc | hc
      · exact hx.below c hc
      · rw [List.mem_singleton.mp hc]
        exact hv
    · rintro _ ⟨⟩
      refine ⟨Or.inl hvector, fun c hc hcv => ?_⟩
      rcases List.mem_append.mp hc with hc | hc
      · exact absurd hcv (hother c hc)
      · exact List.mem_singleton.mp hc
  | @complete c l l' hpending =>
    have hsub : ∀ c' ∈ l ++ l', c' ∈ x.pending := by
      intro c' hc'
      rw [hpending, List.mem_append, List.mem_cons]
      rcases List.mem_append.mp hc' with h | h
      · exact Or.inl h
      · exact Or.inr (Or.inr h)
    have hmem : c ∈ x.pending := hpending ▸ List.mem_append_cons_self
    refine ⟨fun c' hc' => hx.below c' (hsub c' hc'), ?_, ?_, hx.replies⟩
    · intro r v hphase
      obtain ⟨hv, hvector, hother⟩ := hx.holding r v hphase
      refine ⟨hv, ?_, fun c' hc' => hother c' (hsub c' hc')⟩
      exact (access_of_ne (hother c hmem).symm _).trans hvector
    · intro c' hphase
      obtain ⟨hvector, hother⟩ := hx.lending c' hphase
      refine ⟨?_, fun c'' hc'' => hother c'' (hsub c'' hc'')⟩
      by_cases hcv : c.vector = c'.vector
      · obtain rfl := hother c hmem hcv
        right
        refine (access_self c _).trans ?_
        rcases hvector with h | h <;> rw [h] <;> rfl
      · have hkeep := access_of_ne (S := S) (Ne.symm hcv) x.vectors
        exact hvector.imp hkeep.trans hkeep.trans
  | @reply c hphase hwait =>
    refine ⟨hx.below, (fun _ _ h => nomatch h), (fun _ h => nomatch h), fun y hy => ?_⟩
    rcases List.mem_append.mp hy with hy | hy
    · exact hx.replies y hy
    · rw [List.mem_singleton.mp hy]
      exact (hx.lending c hphase).1
  | destroy hphase =>
    exact ⟨hx.below, (fun _ _ h => nomatch h), (fun _ h => nomatch h), hx.replies⟩

theorem consistent_start : Consistent S start :=
  ⟨(fun _ h => nomatch h), (fun _ _ h => nomatch h), (fun _ h => nomatch h), fun _ h => nomatch h⟩

/-! ## Commands that are waited for -/

/-- What is pending in each phase where every command is waited for. -/
def Awaited (S : System ρ α β) (x : State ρ α β) : Prop :=
  match x.phase with
  | .holding r _ => x.pending = [] ∧ S.waits r = true
  | .lending c => S.waits c.request = true ∧ (x.pending = [c] ∨
      x.pending = [] ∧ x.vectors c.vector = some (S.result c.request c.data))
  | _ => x.pending = []

/-- Only while a vector is lent there is a command that is pending. -/
theorem Awaited.lending (hx : Awaited S x) {c : Loan ρ β} (hmem : c ∈ x.pending) :
    x.phase = .lending c ∧ S.waits c.request = true ∧ x.pending = [c] := by
  have hne : x.pending ≠ [] := List.ne_nil_of_mem hmem
  rw [Awaited] at hx
  cases hphase : x.phase with
  | lending c' =>
    rw [hphase] at hx
    obtain ⟨hwait, hone | ⟨hnone, -⟩⟩ := hx
    · obtain rfl := List.mem_singleton.mp (hone ▸ hmem)
      exact ⟨rfl, hwait, hone⟩
    · exact absurd hnone hne
  | holding r v =>
    rw [hphase] at hx
    exact absurd hx.1 hne
  | idle =>
    rw [hphase] at hx
    exact absurd hx hne
  | leaving v =>
    rw [hphase] at hx
    exact absurd hx hne

theorem Awaited.step (hR : ∀ r ∈ R, S.waits r = true) (hc : Consistent S x) (hx : Awaited S x)
    (hxy : Step S R x y) : Awaited S y := by
  cases hxy with
  | @make r hr hphase =>
    rw [Awaited, hphase] at hx
    exact ⟨hx, hR r hr⟩
  | refuse hphase =>
    rw [Awaited, hphase] at hx
    exact hx.1
  | @lend r v data hphase =>
    rw [Awaited, hphase] at hx
    exact ⟨hx.2, Or.inl (by rw [hx.1, List.nil_append])⟩
  | @complete c l l' hpending =>
    obtain ⟨hphase, hwait, hone⟩ := hx.lending (hpending ▸ List.mem_append_cons_self)
    have hnone : l ++ l' = [] := by
      have hlen := congrArg List.length (hpending.symm.trans hone)
      rw [← List.length_eq_zero_iff]
      simp only [List.length_append, List.length_cons, List.length_nil] at hlen ⊢
      omega
    rw [Awaited, hphase]
    refine ⟨hwait, Or.inr ⟨hnone, (access_self c _).trans ?_⟩⟩
    rcases (hc.lending c hphase).1 with h | h <;> rw [h] <;> rfl
  | @reply c hphase hwait =>
    rw [Awaited, hphase] at hx
    obtain ⟨hwaits, hone | ⟨hnone, -⟩⟩ := hx
    · exact absurd (hone ▸ List.mem_singleton_self c) (hwait hwaits)
    · exact hnone
  | destroy hphase =>
    rw [Awaited, hphase] at hx
    exact hx

/-- What is replied then. -/
theorem Awaited.replies (hx : Awaited S x) (hxy : Step S R x y)
    (hreplies : ∀ z ∈ x.replies, z.content = some (S.result z.loan.request z.loan.data)) :
    ∀ z ∈ y.replies, z.content = some (S.result z.loan.request z.loan.data) := by
  cases hxy with
  | make _ _ => exact hreplies
  | refuse _ => exact hreplies
  | lend _ _ => exact hreplies
  | complete _ => exact hreplies
  | destroy _ => exact hreplies
  | @reply c hphase hwait =>
    rw [Awaited, hphase] at hx
    obtain ⟨hwaits, hone | ⟨-, hvector⟩⟩ := hx
    · exact absurd (hone ▸ List.mem_singleton_self c) (hwait hwaits)
    · intro z hz
      rcases List.mem_append.mp hz with hz | hz
      · exact hreplies z hz
      · rw [List.mem_singleton.mp hz]
        exact hvector

/-- A pending command has its vector. -/
theorem Awaited.pending (hc : Consistent S x) (hx : Awaited S x) {c : Loan ρ β}
    (hmem : c ∈ x.pending) : (x.vectors c.vector).isSome := by
  obtain ⟨hphase, -, -⟩ := hx.lending hmem
  rcases (hc.lending c hphase).1 with h | h <;> rw [h] <;> rfl

theorem Reachable.safe (hR : ∀ r ∈ R, S.waits r = true) (hx : Reachable S R x) : Safe S x := by
  have hall : Consistent S x ∧ Awaited S x ∧
      ∀ z ∈ x.replies, z.content = some (S.result z.loan.request z.loan.data) := by
    induction hx with
    | refl => exact ⟨consistent_start, rfl, fun _ h => nomatch h⟩
    | tail _ hxy ih =>
      obtain ⟨hc, hx, hreplies⟩ := ih
      exact ⟨hc.step hxy, hx.step hR hc hxy, hx.replies hxy hreplies⟩
  exact ⟨fun c => hall.2.1.pending hall.1, hall.2.2⟩

/-! ## Commands that are not waited for -/

/-- The reply can be sent, and the vector destroyed, before anything has been done with it. -/
theorem exists_not_safe [Inhabited β] {r : ρ} (hr : r ∈ R) (hwait : S.waits r = false) :
    ∃ x, Reachable S R x ∧ ¬ Safe S x := by
  have hmake : Reachable S R _ := .single (.make hr rfl)
  have hlend := hmake.tail (.lend (default : β) rfl)
  have hreply := hlend.tail (.reply rfl fun h => absurd h (hwait ▸ Bool.false_ne_true))
  have hdestroy := hreply.tail (.destroy rfl)
  refine ⟨_, hdestroy, fun hsafe => ?_⟩
  have hgone : Function.update (Function.update (fun _ => none) 0 (some (S.initial r))) 0 none 0 =
      none := Function.update_self _ _ _
  have hsome := hsafe.pending ⟨r, 0, default⟩ (List.mem_singleton_self _)
  exact Option.isSome_iff_ne_none.mp hsome hgone

/-- **When vectors outlive their commands**: when every command is waited for. -/
theorem safe_iff [Inhabited β] :
    (∀ x, Reachable S R x → Safe S x) ↔ ∀ r ∈ R, S.waits r = true := by
  constructor
  · intro h r hr
    by_contra hwait
    obtain ⟨x, hx, hsafe⟩ := exists_not_safe hr (Bool.not_eq_true _ ▸ hwait)
    exact hsafe (h x hx)
  · exact fun hR x hx => hx.safe hR

end Lending

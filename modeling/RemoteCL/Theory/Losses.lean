import RemoteCL.Theory.Alone

/-!
# Where a strict program loses its connection

A run of a strict program in a context is the run of the program up to a point, and the run of the
context from there on.  If an interaction of the program fails because the connection is lost, that
point is where it has failed, and the context goes on with the loss (`Faulty.of_strict`).

A program is *still* if it has no interactions, and cannot fail.  It meets no fault, and what it
does it does by itself (`Still.faulty`).  So if a strict program is in a `try` block, and all
handlers are still, a run that met a fault has lost the connection, and what it comes to is what the
handler does about the loss (`lost_of_tryCatch`).
-/

namespace Conversation

open ByteStream

namespace Prog

section Strict

variable {σ ε C : Type} {A : C → Type} {α β δ : Type} [DecidableEq ε] {M : Medium ε}
variable {E : δ → (c : C) → A c → δ → Prop}

/-- The run of a strict program in a context. -/
inductive Divided (M : Medium ε) (E : δ → (c : C) → A c → δ → Prop)
    (K : Prog σ ε C A α → Prog σ ε C A β) (x : Option ε) (p : Prog σ ε C A α) (s : σ) (u : Bytes)
    (w : ℕ) (d : δ) : Stop σ ε β δ → List (Fault ε) → Prop
  /-- The connection has been lost, and the context goes on with the exception. -/
  | lost {s' : σ} {u' : Bytes} {w' : ℕ} {d' : δ} {f : Fault ε} {o : Stop σ ε β δ}
      {fs : List (Fault ε)}
      (hp : Faulty M E x p s u w d (.done (.error M.lost) s' u' w' d') [f])
      (hK : Faulty M E (some M.lost) (K (.throw M.lost)) s' u' w' d' o fs) :
      Divided M E K x p s u w d o (f :: fs)
  /-- The context goes on with a result, or with an exception of another kind. -/
  | goesOn {r : Except ε α} {y : Option ε} {s' : σ} {u' : Bytes} {w' : ℕ} {d' : δ}
      {o : Stop σ ε β δ} {fs gs : List (Fault ε)}
      (hp : Faulty M E x p s u w d (.done r s' u' w' d') gs)
      (hK : Faulty M E y (K (liftExcept r)) s' u' w' d' o fs) : Divided M E K x p s u w d o fs
  /-- The program does not come back. -/
  | never {how : Never} {d' : δ} {fs : List (Fault ε)}
      (hp : Faulty M E x p s u w d (.never how d') fs) (hfs : fs ≠ [] → how = .killed) :
      Divided M E K x p s u w d (.never how d') fs

/-- A step before the rest. -/
theorem Divided.of_step {K : Prog σ ε C A α → Prog σ ε C A β} {x y : Option ε}
    {p q : Prog σ ε C A α} {s t : σ} {u v : Bytes} {w z : ℕ} {d e : δ} {o : Stop σ ε β δ}
    {fs : List (Fault ε)}
    (hstep : ∀ o gs, Faulty M E y q t v z e o gs → Faulty M E x p s u w d o gs)
    (h : Divided M E K y q t v z e o fs) : Divided M E K x p s u w d o fs := by
  cases h with
  | lost hrun hrest => exact .lost (hstep _ _ hrun) hrest
  | goesOn hrun hrest => exact .goesOn (hstep _ _ hrun) hrest
  | never hrun hfs => exact .never (hstep _ _ hrun) hfs

/-- The loss is passed on. -/
theorem faulty_throw_lost {s : σ} {u : Bytes} {w : ℕ} {d : δ} :
    Faulty M E (some M.lost) (throw M.lost : Prog σ ε C A α) s u w d
      (.done (.error M.lost) s u w d) [] := by
  have h := Faulty.throw (M := M) (E := E) (A := A) (α := α) (x := some M.lost) (e := M.lost)
    (s := s) (u := u) (w := w) (d := d)
  rwa [if_pos (Or.inl rfl)] at h

/-- **The point** at which a strict program hands over to its context. -/
theorem Faulty.of_strict {K : Prog σ ε C A α → Prog σ ε C A β} (hK : Context K) {x : Option ε}
    {p : Prog σ ε C A α} {s : σ} {u : Bytes} {w : ℕ} {d : δ} {o : Stop σ ε β δ}
    {fs : List (Fault ε)} (hp : p.Strict M) (h : Faulty M E x (K p) s u w d o fs) :
    Divided M E K x p s u w d o fs := by
  induction p generalizing x s u w d fs with
  | ret a => exact .goesOn .ret h
  | throw e => exact .goesOn .throw h
  | get k ih =>
    rw [hK.get] at h
    cases h with
    | get h => exact (ih s (hp s) h).of_step fun _ _ => .get
  | put t k ih =>
    rw [hK.put] at h
    cases h with
    | put h => exact (ih hp h).of_step fun _ _ => .put
  | write b k ih =>
    rw [hK.write] at h
    cases h with
    | write hw h => exact (ih _ hp.2 h).of_step fun _ _ => .write hw
    | writeSpills hw hw' h => exact (ih _ hp.2 h).of_step fun _ _ => .writeSpills hw hw'
    | writeFails hw h =>
      dsimp only at h
      rw [hp.1] at h
      exact .lost (.writeFails hw (hp.1 ▸ faulty_throw_lost)) h
    | writeKills hw => exact .never (.writeKills hw) fun _ => rfl
  | flush k ih =>
    rw [hK.flush] at h
    cases h with
    | flush h => exact (ih _ hp.2 h).of_step fun _ _ => .flush
    | flushFails hw h =>
      dsimp only at h
      rw [hp.1] at h
      exact .lost (.flushFails hw (hp.1 ▸ faulty_throw_lost)) h
    | flushKills hw => exact .never (.flushKills hw) fun _ => rfl
  | read n k ih =>
    rw [hK.read] at h
    cases h with
    | read hb h => exact (ih _ (hp.2.2 _) h).of_step fun _ _ => .read hb
    | readFails hn h =>
      dsimp only at h
      rw [hp.1] at h
      exact .lost (.readFails hn (hp.1 ▸ faulty_throw_lost)) h
    | readForever hn => exact .never (.readForever hn) fun h => absurd rfl h
    | readNoMemory hu h => exact (ih _ hp.2.1 h).of_step fun _ _ => .readNoMemory hu
  | peek k ih =>
    rw [hK.peek] at h
    cases h with
    | peek h => exact (ih _ (hp _) h).of_step fun _ _ => .peek
  | check b k ih =>
    rw [hK.check] at h
    cases h with
    | check h => exact (ih hp h).of_step fun _ _ => .check
  | call c k ih =>
    rw [hK.call] at h
    cases h with
    | call ha h => exact (ih _ (hp _) h).of_step fun _ _ => .call ha
    | callForever => exact .never .callForever fun h => absurd rfl h
  | spin =>
    rw [hK.spin] at h
    cases h with
    | spin => exact .never .spin fun h => absurd rfl h

end Strict

/-! ## Still programs -/

section Still

variable {σ ε : Type} {α β : Type}

/-- The programs without interactions that come to a result. -/
def Still : Prog σ ε Empty NoAnswer α → Prop
  | ret _ => True
  | get k => ∀ s, (k s).Still
  | put _ k => k.Still
  | check _ k => k.Still
  | throw _ | write _ _ | flush _ | read _ _ | peek _ | call _ _ | spin => False

/-- It meets no fault, and does what it does by itself. -/
theorem Still.faulty [DecidableEq ε] {M : Medium ε} {x : Option ε}
    {p : Prog σ ε Empty NoAnswer α} {s : σ} {u : Bytes} {w : ℕ} {d : Unit} {o : Stop σ ε α Unit}
    {fs : List (Fault ε)} (hp : p.Still) (h : Faulty M noEnv x p s u w d o fs) :
    fs = [] ∧ ∃ a s', o = .done (.ok a) s' u w d ∧ p.alone s u = some (.ok a, s', u) := by
  induction h with
  | ret => exact ⟨rfl, _, _, rfl, rfl⟩
  | get _ ih => exact ih (hp _)
  | put _ ih => exact ih hp
  | check _ ih => exact ih hp
  | _ => exact hp.elim

/-- **A fault under a `try` block**: a signal has killed the program, or it has lost the connection
and the handler has dealt with it. -/
theorem lost_of_tryCatch [DecidableEq ε] {M : Medium ε} {x : Option ε}
    {p : Prog σ ε Empty NoAnswer α} {g : ε → Prog σ ε Empty NoAnswer α} (hp : p.Strict M)
    (hg : ∀ e, (g e).Still) {s : σ} {u : Bytes} {w : ℕ} {o : Stop σ ε α Unit} {fs : List (Fault ε)}
    (h : Faulty M noEnv x (p.tryCatch g) s u w () o fs) (hfs : fs ≠ []) :
    o = .never .killed () ∨
      ∃ s₁ u₁ w₁ f a s', Faulty M noEnv x p s u w () (.done (.error M.lost) s₁ u₁ w₁ ()) [f] ∧
        (g M.lost).alone s₁ u₁ = some (.ok a, s', u₁) ∧ o = .done (.ok a) s' u₁ w₁ () := by
  cases Faulty.of_strict (Context.tryCatch g) hp h with
  | lost hrun hrest =>
    obtain ⟨-, a, s', rfl, halone⟩ := (hg M.lost).faulty hrest
    exact Or.inr ⟨_, _, _, _, a, s', hrun, halone, rfl⟩
  | goesOn hrun hrest =>
    rename_i r _ _ _ _ _ _
    cases r with
    | ok a =>
      cases hrest
      exact absurd rfl hfs
    | error e => exact absurd ((hg e).faulty hrest).1 hfs
  | never _ hkilled => exact Or.inl (by rw [hkilled hfs])

end Still

end Prog

end Conversation

import RemoteCL.Theory.Unreliable

/-!
# Runs with a record of their steps

A run on a medium that may fail has a log of what went wrong.  The log does not say what the run
depended on: that a packet was there, or that a table had room.  Here a program is put together of
parts, and for each part it is known which steps a run of it takes, and how a step is recorded.  The
record of the whole run is put together of those of its parts (`Traced`).  Where a `try` block
handles an exception, the steps behind it are marked as caught.

Two things make this useful.  If a part returns exactly if its steps are as they should be, so does
everything that is made of such parts (`Traced.returns_iff`).  And the runs with a record are the
runs of the program, no more (`Traced.runs`) and no fewer (`Made`).
-/

namespace Conversation

open ByteStream

namespace Prog

variable {σ ε C : Type} {A : C → Type} {α β δ ι : Type}

/-! ## Runs without their log -/

section Runs

variable [DecidableEq ε] (M : Medium ε) (E : δ → (c : C) → A c → δ → Prop)

/-- The program can stop like this. -/
def Runs (p : Prog σ ε C A α) (s : σ) (u : Bytes) (w : ℕ) (d : δ) (o : Stop σ ε α δ) : Prop :=
  ∃ fs, Faulty M E none p s u w d o fs

/-- How a program in a context stops, once the program itself has stopped. -/
inductive Resumes (K : Prog σ ε C A α → Prog σ ε C A β) : Stop σ ε α δ → Stop σ ε β δ → Prop
  | done {r s u w d o} (h : Runs M E (K (liftExcept r)) s u w d o) : Resumes K (.done r s u w d) o
  | never {how d} : Resumes K (.never how d) (.never how d)

variable {M E} {p : Prog σ ε C A α} {s : σ} {u : Bytes} {w : ℕ} {d : δ} {o : Stop σ ε α δ}
variable {fs : List (Fault ε)}

/-- Every program stops somehow, if only because nothing is answered. -/
theorem Runs.exists (hM : 0 < M.cache) (p : Prog σ ε C A α) (s : σ) (u : Bytes) (w : ℕ) (d : δ) :
    ∃ o, Runs M E p s u w d o := by
  suffices h : ∀ x, ∃ o fs, Faulty M E x p s u w d o fs from h none
  induction p generalizing s u w with
  | ret a => exact fun x => ⟨_, _, .ret⟩
  | throw e => exact fun x => ⟨_, _, .throw⟩
  | get k ih => exact fun x => (ih s s u w none).imp fun o h => h.imp fun _ => .get
  | put t k ih => exact fun x => (ih t u w none).imp fun o h => h.imp fun _ => .put
  | write b k ih =>
    intro x
    rcases lt_or_ge (w + b.length) M.cache with hroom | hfull
    · exact (ih _ s u _ none).imp fun o h => h.imp fun _ => .write hroom
    · exact (ih _ s u _ none).imp fun o h => h.imp fun _ => .writeSpills hfull hM
  | flush k ih => exact fun x => (ih _ s u _ none).imp fun o h => h.imp fun _ => .flush
  | read n k ih =>
    intro x
    rcases le_or_gt n u.length with hn | hn
    · obtain ⟨o, fs, h⟩ := ih (.ok (u.take n)) s (u.drop n) w none
      refine ⟨o, fs, ?_⟩
      rw [← List.take_append_drop n u]
      exact .read (List.length_take_of_le hn) h
    · obtain ⟨o, fs, h⟩ := ih (.error M.lost) s [] w (some M.lost)
      exact ⟨o, _, .readFails hn h⟩
  | peek k ih => exact fun x => (ih _ s u w none).imp fun o h => h.imp fun _ => .peek
  | check b k ih => exact fun x => (ih s u w none).imp fun o h => h.imp fun _ => .check
  | call c k => exact fun x => ⟨_, _, .callForever⟩
  | spin => exact fun x => ⟨_, _, .spin⟩

/-- What is being passed on when the run begins matters for the log only. -/
theorem Faulty.passing {x : Option ε} (h : Faulty M E x p s u w d o fs) (y : Option ε) :
    ∃ gs, Faulty M E y p s u w d o gs := by
  cases h with
  | ret => exact ⟨_, .ret⟩
  | throw => exact ⟨_, .throw⟩
  | get h => exact ⟨_, .get h⟩
  | put h => exact ⟨_, .put h⟩
  | write hw h => exact ⟨_, .write hw h⟩
  | writeSpills hw hw' h => exact ⟨_, .writeSpills hw hw' h⟩
  | writeFails hw h => exact ⟨_, .writeFails hw h⟩
  | writeKills hw => exact ⟨_, .writeKills hw⟩
  | flush h => exact ⟨_, .flush h⟩
  | flushFails hw h => exact ⟨_, .flushFails hw h⟩
  | flushKills hw => exact ⟨_, .flushKills hw⟩
  | read hb h => exact ⟨_, .read hb h⟩
  | readFails hn h => exact ⟨_, .readFails hn h⟩
  | readForever hn => exact ⟨_, .readForever hn⟩
  | readNoMemory hu h => exact ⟨_, .readNoMemory hu h⟩
  | peek h => exact ⟨_, .peek h⟩
  | check h => exact ⟨_, .check h⟩
  | call ha h => exact ⟨_, .call ha h⟩
  | callForever => exact ⟨_, .callForever⟩
  | spin => exact ⟨_, .spin⟩

theorem Faulty.runs {x : Option ε} (h : Faulty M E x p s u w d o fs) : Runs M E p s u w d o :=
  h.passing none

variable {K : Prog σ ε C A α → Prog σ ε C A β} {o' : Stop σ ε β δ}

/-- The program runs, and the context goes on from where it stops. -/
theorem Runs.context (hK : Context K) (h : Runs M E p s u w d o) (ho : Resumes M E K o o') :
    Runs M E (K p) s u w d o' := by
  obtain ⟨fs, h⟩ := h
  suffices hrun : ∃ gs, Faulty M E none (K p) s u w d o' gs from hrun
  generalize none = x at h ⊢
  induction h with
  | ret | throw =>
    cases ho with
    | done h => exact h.elim fun _ h => h.passing _
  | get _ ih =>
    obtain ⟨gs, h⟩ := ih ho
    exact hK.get _ ▸ ⟨gs, .get h⟩
  | put _ ih =>
    obtain ⟨gs, h⟩ := ih ho
    exact hK.put _ _ ▸ ⟨gs, .put h⟩
  | write hw _ ih =>
    obtain ⟨gs, h⟩ := ih ho
    exact hK.write _ _ ▸ ⟨gs, .write hw h⟩
  | writeSpills hw hw' _ ih =>
    obtain ⟨gs, h⟩ := ih ho
    exact hK.write _ _ ▸ ⟨gs, .writeSpills hw hw' h⟩
  | writeFails hw _ ih =>
    obtain ⟨gs, h⟩ := ih ho
    exact hK.write _ _ ▸ ⟨_, .writeFails hw h⟩
  | writeKills hw =>
    cases ho
    exact hK.write _ _ ▸ ⟨_, .writeKills hw⟩
  | flush _ ih =>
    obtain ⟨gs, h⟩ := ih ho
    exact hK.flush _ ▸ ⟨gs, .flush h⟩
  | flushFails hw _ ih =>
    obtain ⟨gs, h⟩ := ih ho
    exact hK.flush _ ▸ ⟨_, .flushFails hw h⟩
  | flushKills hw =>
    cases ho
    exact hK.flush _ ▸ ⟨_, .flushKills hw⟩
  | read hb _ ih =>
    obtain ⟨gs, h⟩ := ih ho
    exact hK.read _ _ ▸ ⟨gs, .read hb h⟩
  | readFails hn _ ih =>
    obtain ⟨gs, h⟩ := ih ho
    exact hK.read _ _ ▸ ⟨_, .readFails hn h⟩
  | readForever hn =>
    cases ho
    exact hK.read _ _ ▸ ⟨_, .readForever hn⟩
  | readNoMemory hu _ ih =>
    obtain ⟨gs, h⟩ := ih ho
    exact hK.read _ _ ▸ ⟨gs, .readNoMemory hu h⟩
  | peek _ ih =>
    obtain ⟨gs, h⟩ := ih ho
    exact hK.peek _ ▸ ⟨gs, .peek h⟩
  | check _ ih =>
    obtain ⟨gs, h⟩ := ih ho
    exact hK.check _ _ ▸ ⟨gs, .check h⟩
  | call ha _ ih =>
    obtain ⟨gs, h⟩ := ih ho
    exact hK.call _ _ ▸ ⟨gs, .call ha h⟩
  | callForever =>
    cases ho
    exact hK.call _ _ ▸ ⟨_, .callForever⟩
  | spin =>
    cases ho
    exact hK.spin ▸ ⟨_, .spin⟩

/-- Every run of a program in a context comes about like this. -/
theorem Faulty.of_context (hK : Context K) {x : Option ε}
    (h : Faulty M E x (K p) s u w d o' fs) : ∃ o, Runs M E p s u w d o ∧ Resumes M E K o o' := by
  induction p generalizing x s u w d fs with
  | ret a => exact ⟨_, ⟨_, .ret⟩, .done h.runs⟩
  | throw e => exact ⟨_, ⟨_, .throw⟩, .done h.runs⟩
  | get k ih =>
    rw [hK.get] at h
    cases h with
    | get h =>
      obtain ⟨o, ⟨gs, hrun⟩, ho⟩ := ih _ h
      exact ⟨o, ⟨gs, .get hrun⟩, ho⟩
  | put t k ih =>
    rw [hK.put] at h
    cases h with
    | put h =>
      obtain ⟨o, ⟨gs, hrun⟩, ho⟩ := ih h
      exact ⟨o, ⟨gs, .put hrun⟩, ho⟩
  | write b k ih =>
    rw [hK.write] at h
    cases h with
    | write hw h =>
      obtain ⟨o, ⟨gs, hrun⟩, ho⟩ := ih _ h
      exact ⟨o, ⟨gs, .write hw hrun⟩, ho⟩
    | writeSpills hw hw' h =>
      obtain ⟨o, ⟨gs, hrun⟩, ho⟩ := ih _ h
      exact ⟨o, ⟨gs, .writeSpills hw hw' hrun⟩, ho⟩
    | writeFails hw h =>
      obtain ⟨o, ⟨gs, hrun⟩, ho⟩ := ih _ h
      obtain ⟨gs, hrun⟩ := hrun.passing (some M.lost)
      exact ⟨o, ⟨_, .writeFails hw hrun⟩, ho⟩
    | writeKills hw => exact ⟨_, ⟨_, .writeKills hw⟩, .never⟩
  | flush k ih =>
    rw [hK.flush] at h
    cases h with
    | flush h =>
      obtain ⟨o, ⟨gs, hrun⟩, ho⟩ := ih _ h
      exact ⟨o, ⟨gs, .flush hrun⟩, ho⟩
    | flushFails hw h =>
      obtain ⟨o, ⟨gs, hrun⟩, ho⟩ := ih _ h
      obtain ⟨gs, hrun⟩ := hrun.passing (some M.lost)
      exact ⟨o, ⟨_, .flushFails hw hrun⟩, ho⟩
    | flushKills hw => exact ⟨_, ⟨_, .flushKills hw⟩, .never⟩
  | read n k ih =>
    rw [hK.read] at h
    cases h with
    | read hb h =>
      obtain ⟨o, ⟨gs, hrun⟩, ho⟩ := ih _ h
      exact ⟨o, ⟨gs, .read hb hrun⟩, ho⟩
    | readFails hn h =>
      obtain ⟨o, ⟨gs, hrun⟩, ho⟩ := ih _ h
      obtain ⟨gs, hrun⟩ := hrun.passing (some M.lost)
      exact ⟨o, ⟨_, .readFails hn hrun⟩, ho⟩
    | readForever hn => exact ⟨_, ⟨_, .readForever hn⟩, .never⟩
    | readNoMemory hu h =>
      obtain ⟨o, ⟨gs, hrun⟩, ho⟩ := ih _ h
      obtain ⟨gs, hrun⟩ := hrun.passing (some M.noMemory)
      exact ⟨o, ⟨gs, .readNoMemory hu hrun⟩, ho⟩
  | peek k ih =>
    rw [hK.peek] at h
    cases h with
    | peek h =>
      obtain ⟨o, ⟨gs, hrun⟩, ho⟩ := ih _ h
      exact ⟨o, ⟨gs, .peek hrun⟩, ho⟩
  | check b k ih =>
    rw [hK.check] at h
    cases h with
    | check h =>
      obtain ⟨o, ⟨gs, hrun⟩, ho⟩ := ih h
      exact ⟨o, ⟨gs, .check hrun⟩, ho⟩
  | call c k ih =>
    rw [hK.call] at h
    cases h with
    | call ha h =>
      obtain ⟨o, ⟨gs, hrun⟩, ho⟩ := ih _ h
      exact ⟨o, ⟨gs, .call ha hrun⟩, ho⟩
    | callForever => exact ⟨_, ⟨_, .callForever⟩, .never⟩
  | spin =>
    rw [hK.spin] at h
    cases h with
    | spin => exact ⟨_, ⟨_, .spin⟩, .never⟩

theorem Runs.of_context (hK : Context K) (h : Runs M E (K p) s u w d o') :
    ∃ o, Runs M E p s u w d o ∧ Resumes M E K o o' := h.elim fun _ => Faulty.of_context hK

/-- A context that passes exceptions on, whichever they are then, returns only if the program
does. -/
theorem Resumes.returns (hK : ∀ e, ∃ e', K (throw e) = throw e') (h : Resumes M E K o o')
    (ho' : o'.Returns) : o.Returns := by
  cases h with
  | never => exact ho'.elim
  | done h =>
    rename_i r _ _ _ _
    cases r with
    | ok a => trivial
    | error e =>
      obtain ⟨e', he⟩ := hK e
      obtain ⟨fs, h⟩ := h
      rw [liftExcept, he] at h
      cases h
      exact ho'.elim

/-- A program does not return that throws whatever happens before. -/
theorem Runs.not_returns_of_throw {f : α → ε}
    (h : Runs M E (p >>= fun a => (throw (f a) : Prog σ ε C A β)) s u w d o') : ¬ o'.Returns := by
  obtain ⟨o, -, ho⟩ := Runs.of_context (Context.bind _) h
  cases ho with
  | never => exact id
  | done h =>
    rename_i r _ _ _ _
    obtain ⟨fs, h⟩ := h
    cases r with
    | ok a =>
      cases h
      exact id
    | error e =>
      cases h
      exact id

/-! ### Receives -/

/-- With memory in abundance there are fewer runs. -/
theorem Faulty.of_ample {x : Option ε} (h : Faulty M.ample E x p s u w d o fs) :
    Faulty M E x p s u w d o fs := by
  induction h with
  | ret => exact .ret
  | throw => exact .throw
  | get _ ih => exact .get ih
  | put _ ih => exact .put ih
  | write hw _ ih => exact .write hw ih
  | writeSpills hw hw' _ ih => exact .writeSpills hw hw' ih
  | writeFails hw _ ih => exact .writeFails hw ih
  | writeKills hw => exact .writeKills hw
  | flush _ ih => exact .flush ih
  | flushFails hw _ ih => exact .flushFails hw ih
  | flushKills hw => exact .flushKills hw
  | read hb _ ih => exact .read hb ih
  | readFails hn _ ih => exact .readFails hn ih
  | readForever hn => exact .readForever hn
  | readNoMemory hu => exact hu.elim
  | peek _ ih => exact .peek ih
  | check _ ih => exact .check ih
  | call ha _ ih => exact .call ha ih
  | callForever => exact .callForever
  | spin => exact .spin

theorem Runs.of_ample (h : Runs M.ample E p s u w d o) : Runs M E p s u w d o :=
  h.imp fun _ => Faulty.of_ample

/-- A reader finds all its bytes, and then returns; or bytes are missing, or memory is. -/
theorem Runs.ofReader (hM : 0 < M.cache) {r : Reader α} (h : Runs M E (ofReader r) s u w d o) :
    (∃ a v, r.run u = some (a, v) ∧ o = .done (.ok a) s v w d) ∨
      ¬ o.Returns ∧ (r.run u = none ∨ ∃ n, M.allocates n) := by
  induction r generalizing u with
  | done a =>
    obtain ⟨fs, h⟩ := h
    cases h
    exact Or.inl ⟨a, u, rfl, rfl⟩
  | take n k ih =>
    have hnone (hn : u.length < n) : (Reader.take n k).run u = none := by
      rw [Reader.run_take, if_neg (Nat.not_le.mpr hn)]
    obtain ⟨fs, h⟩ := h
    rw [Prog.ofReader] at h
    cases h with
    | read hb h =>
      rw [Reader.run_take_append hb]
      exact ih _ h.runs
    | readFails hn h =>
      cases h
      exact Or.inr ⟨id, Or.inl (hnone hn)⟩
    | readForever hn => exact Or.inr ⟨id, Or.inl (hnone (by omega))⟩
    | readNoMemory hu h =>
      cases h
      exact Or.inr ⟨id, Or.inr ⟨_, hu⟩⟩

/-- A reader that finds its bytes can return. -/
theorem runs_ofReader {r : Reader α} {a : α} {v : Bytes} (hr : r.run u = some (a, v)) :
    Runs M E (Prog.ofReader r) s u w d (.done (.ok a) s v w d) := by
  rw [← bind_pure (Prog.ofReader r)]
  exact ⟨_, Faulty.reads Context.hole hr .ret⟩

end Runs

/-! ## Runs with a record -/

/-- A relation between programs, how they stop, and the steps that they take. -/
abbrev Recorded (σ ε C : Type) (A : C → Type) (δ ι : Type) : Type 1 :=
  (α : Type) → Prog σ ε C A α → σ → Bytes → ℕ → δ → Stop σ ε α δ → List ι → Prop

/-- The runs of the programs that are made of parts, with a record of their steps. -/
inductive Traced (P : Recorded σ ε C A δ ι) (caught : ι → ι) : Recorded σ ε C A δ ι
  | part {α : Type} {p s u w d o is} (h : P α p s u w d o is) : Traced P caught α p s u w d o is
  | ret {α : Type} {a : α} {s u w d} :
      Traced P caught α (.ret a) s u w d (.done (.ok a) s u w d) []
  | bind {α β : Type} {p : Prog σ ε C A α} {f : α → Prog σ ε C A β}
      {s u w d a s' u' w' d' o is js}
      (hp : Traced P caught α p s u w d (.done (.ok a) s' u' w' d') is)
      (hf : Traced P caught β (f a) s' u' w' d' o js) :
      Traced P caught β (p >>= f) s u w d o (is ++ js)
  | bindThrows {α β : Type} {p : Prog σ ε C A α} {f : α → Prog σ ε C A β}
      {s u w d e s' u' w' d' is}
      (hp : Traced P caught α p s u w d (.done (.error e) s' u' w' d') is) :
      Traced P caught β (p >>= f) s u w d (.done (.error e) s' u' w' d') is
  | bindNever {α β : Type} {p : Prog σ ε C A α} {f : α → Prog σ ε C A β}
      {s u w d how d' is}
      (hp : Traced P caught α p s u w d (.never how d') is) :
      Traced P caught β (p >>= f) s u w d (.never how d') is
  | tryReturns {α : Type} {p g s u w d a s' u' w' d' is}
      (hp : Traced P caught α p s u w d (.done (.ok a) s' u' w' d') is) :
      Traced P caught α (p.tryCatch g) s u w d (.done (.ok a) s' u' w' d') is
  | tryNever {α : Type} {p g s u w d how d' is}
      (hp : Traced P caught α p s u w d (.never how d') is) :
      Traced P caught α (p.tryCatch g) s u w d (.never how d') is
  /-- The handler deals with the exception. -/
  | catches {α : Type} {p g s u w d e s' u' w' d' o is js}
      (hp : Traced P caught α p s u w d (.done (.error e) s' u' w' d') is)
      (hg : Traced P caught α (g e) s' u' w' d' o js) :
      Traced P caught α (p.tryCatch g) s u w d o (is.map caught ++ js)
  /-- There is no handler for the exception. -/
  | passes {α : Type} {p g s u w d e s' u' w' d' is}
      (hp : Traced P caught α p s u w d (.done (.error e) s' u' w' d') is)
      (hg : g e = throw e) :
      Traced P caught α (p.tryCatch g) s u w d (.done (.error e) s' u' w' d') is

section Traced

variable {P : Recorded σ ε C A δ ι} {caught : ι → ι} {p : Prog σ ε C A α} {s : σ} {u : Bytes}
variable {w : ℕ} {d : δ} {o : Stop σ ε α δ} {is : List ι}

/-- **What a run depends on**: if the parts return exactly if their steps are as they should be, so
do the programs that are made of them. -/
theorem Traced.returns_iff {Q : ι → Prop} (h : Traced P caught α p s u w d o is)
    (hP : ∀ {α p s u w d o is}, P α p s u w d o is → (o.Returns ↔ ∀ i ∈ is, Q i))
    (hcaught : ∀ i, Q (caught i)) : o.Returns ↔ ∀ i ∈ is, Q i := by
  induction h with
  | part h => exact hP h
  | ret => exact iff_of_true trivial fun _ h => absurd h List.not_mem_nil
  | bind _ _ ihp ihf =>
    rw [List.forall_mem_append, ihf]
    exact (and_iff_right (ihp.mp trivial)).symm
  | bindThrows _ ih | bindNever _ ih | tryReturns _ ih | tryNever _ ih | passes _ _ ih => exact ih
  | catches _ _ _ ihg =>
    rw [List.forall_mem_append, ihg]
    refine (and_iff_right fun i hi => ?_).symm
    obtain ⟨j, -, rfl⟩ := List.mem_map.mp hi
    exact hcaught j

variable [DecidableEq ε] {M : Medium ε} {E : δ → (c : C) → A c → δ → Prop}

/-- A run with a record is a run. -/
theorem Traced.runs (h : Traced P caught α p s u w d o is)
    (hP : ∀ {α p s u w d o is}, P α p s u w d o is → Runs M E p s u w d o) :
    Runs M E p s u w d o := by
  induction h with
  | part h => exact hP h
  | ret => exact ⟨_, .ret⟩
  | bind _ _ ihp ihf => exact ihp.context (Context.bind _) (.done ihf)
  | bindThrows _ ih => exact ih.context (Context.bind _) (.done ⟨_, .throw⟩)
  | bindNever _ ih => exact ih.context (Context.bind _) .never
  | tryReturns _ ih => exact ih.context (Context.tryCatch _) (.done ⟨_, .ret⟩)
  | tryNever _ ih => exact ih.context (Context.tryCatch _) .never
  | catches _ _ ihp ihg => exact ihp.context (Context.tryCatch _) (.done ihg)
  | passes _ hg ih =>
    refine ih.context (Context.tryCatch _) (.done ?_)
    rw [liftExcept, tryCatch, hg]
    exact ⟨_, .throw⟩

/-! ## Programs that are made of parts -/

/-- All runs of the program have a record. -/
def Made (P : Recorded σ ε C A δ ι) (caught : ι → ι) (M : Medium ε)
    (E : δ → (c : C) → A c → δ → Prop) (p : Prog σ ε C A α) : Prop :=
  ∀ s u w d o, Runs M E p s u w d o → ∃ is, Traced P caught α p s u w d o is

theorem made_ret (a : α) : Made P caught M E (ret a : Prog σ ε C A α) := by
  rintro s u w d o ⟨fs, h⟩
  cases h
  exact ⟨[], .ret⟩

theorem Made.bind (hp : Made P caught M E p) {f : α → Prog σ ε C A β}
    (hf : ∀ a, Made P caught M E (f a)) : Made P caught M E (p >>= f) := by
  intro s u w d o h
  obtain ⟨o', hrun, ho⟩ := Runs.of_context (Context.bind f) h
  obtain ⟨is, htraced⟩ := hp _ _ _ _ _ hrun
  cases ho with
  | never => exact ⟨is, .bindNever htraced⟩
  | done hrest =>
    rename_i r _ _ _ _
    cases r with
    | ok a =>
      obtain ⟨js, hrest⟩ := hf a _ _ _ _ _ hrest
      exact ⟨is ++ js, .bind htraced hrest⟩
    | error e =>
      obtain ⟨gs, hrest⟩ := hrest
      cases hrest
      exact ⟨is, .bindThrows htraced⟩

/-- A `try` block whose handler deals with an exception, or is not there for it. -/
theorem Made.tryCatch (hp : Made P caught M E p) {g : ε → Prog σ ε C A α}
    (hg : ∀ e, Made P caught M E (g e) ∨ g e = throw e) :
    Made P caught M E (p.tryCatch g) := by
  intro s u w d o h
  obtain ⟨o', hrun, ho⟩ := Runs.of_context (Context.tryCatch g) h
  obtain ⟨is, htraced⟩ := hp _ _ _ _ _ hrun
  cases ho with
  | never => exact ⟨is, .tryNever htraced⟩
  | done hrest =>
    rename_i r _ _ _ _
    cases r with
    | ok a =>
      obtain ⟨gs, hrest⟩ := hrest
      cases hrest
      exact ⟨is, .tryReturns htraced⟩
    | error e =>
      rcases hg e with hmade | hthrow
      · obtain ⟨js, hrest⟩ := hmade _ _ _ _ _ hrest
        exact ⟨is.map caught ++ js, .catches htraced hrest⟩
      · obtain ⟨gs, hrest⟩ := hrest
        rw [liftExcept, Prog.tryCatch, hthrow] at hrest
        cases hrest
        exact ⟨is, .passes htraced hthrow⟩

end Traced

end Prog

end Conversation

import RemoteCL.Common.Exchange
import RemoteCL.Common.SocketStream
import RemoteCL.Theory.Liberal
import RemoteCL.Theory.Traces

/-!
# Packets on a connection that may fail

What reading and writing packets comes to when the connection is unreliable: both are strict, a
packet that has arrived is met, one that has not arrived completely is a fault, and nothing is read
but what has arrived.  While there is memory, a read returns exactly if its packet is there as a
whole (`runs_read_cases`).
-/

namespace RemoteCL

open ByteStream Conversation

/-- The connections of the library.  Nothing in it asks to be spared the signal of a send to a peer
that is gone. -/
def medium : Medium Exn := ⟨.socketError, .badAlloc, BufferSize, fun _ => True, by decide⟩

/-! ## Strict programs -/

section Packets

variable {σ C : Type} {A : C → Type} {α : Type}

theorem strict_read (ty : PacketType) (r : Reader α) :
    (PacketStream.read ty r : Prog σ Exn C A α).Strict medium := by
  refine Prog.Strict.bind (Prog.strict_ofReader _) fun b => ?_
  split
  · exact Prog.Strict.bind (Prog.strict_ofReader _) fun e => trivial
  split
  · trivial
  · exact Prog.Strict.bind (p := Prog.expect _) trivial fun _ => Prog.strict_ofReader _

theorem strict_write (ty : PacketType) (body : Bytes) :
    (PacketStream.write ty body : Prog σ Exn C A Unit).Strict medium := Prog.strict_send _

theorem strict_flush : (PacketStream.flush : Prog σ Exn C A Unit).Strict medium :=
  Prog.strict_flushOut

end Packets

section Faulty

variable {σ C δ α β γ : Type} {A : C → Type} {M : Medium Exn}
variable {E : δ → (c : C) → A c → δ → Prop}
variable {K : Prog σ Exn C A β → Prog σ Exn C A γ} (hK : Prog.Context K)
variable {k : α → Prog σ Exn C A β} {r : Reader α} {a : α} {ty : PacketType} {s : σ}
variable {u v : Bytes} {w : ℕ} {d : δ} {o : Stop σ Exn γ δ} {fs : List (Fault Exn)}
include hK

/-- A packet has arrived, and its body is read, whatever its type. -/
theorem faulty_arrives {b : UInt8} (hr : r.run u = some (a, v)) (herr : b ≠ PacketType.error.toByte)
    (hterm : b ≠ PacketType.terminate.toByte) (h : Prog.Faulty M E none (K (k a)) s v w d o fs) :
    Prog.Faulty M E none (K (PacketStream.read ty r >>= k)) s (b :: u) w d o fs := by
  rw [PacketStream.read_bind]
  refine Prog.Faulty.reads hK (PacketStream.run_readType_cons _ _) ?_
  rw [if_neg herr, if_neg hterm]
  show Prog.Faulty M E none (K (Prog.check _ (Prog.ofReader r >>= k))) s u w d o fs
  rw [hK.check]
  exact .check (Prog.Faulty.reads hK hr h)

/-- The packet that is asked for has arrived. -/
theorem faulty_meets (hr : r.run u = some (a, v)) (hty : Ordinary ty)
    (h : Prog.Faulty M E none (K (k a)) s v w d o fs) :
    Prog.Faulty M E none (K (PacketStream.read ty r >>= k)) s (ty.toByte :: u) w d o fs :=
  faulty_arrives hK hr hty.toByte_ne_error hty.toByte_ne_terminate h

/-- Of the packet that is asked for only the type and a part have arrived. -/
theorem faulty_cut (hr : r.run u = none) (hty : Ordinary ty)
    (h : Prog.Faulty M E (some M.lost) (K (Prog.throw M.lost)) s [] w d o fs) :
    Prog.Faulty M E none (K (PacketStream.read ty r >>= k)) s (ty.toByte :: u) w d o
      (.receive :: fs) := by
  rw [PacketStream.read_bind]
  refine Prog.Faulty.reads hK (PacketStream.run_readType_cons _ _) ?_
  rw [if_neg hty.toByte_ne_error, if_neg hty.toByte_ne_terminate]
  show Prog.Faulty M E none (K (Prog.check _ (Prog.ofReader r >>= k))) s u w d o _
  rw [hK.check]
  exact .check (Prog.Faulty.ends hK hr h)

end Faulty

section Liberal

variable {σ C α : Type} {A : C → Type} {ty : PacketType} {r : Reader α} {s : σ} {u : Bytes}
variable {S : Prop} {Q : Except Exn α → σ → Bytes → Prop}

/-- What is known of a packet that has been read.  It is neither an `Error` nor a `Terminate`, and
its type is not checked otherwise. -/
theorem wlp_read (hok : ∀ b body a rest, u = b :: body → b ≠ PacketType.error.toByte →
      b ≠ PacketType.terminate.toByte → r.run body = some (a, rest) → Q (.ok a) s rest)
    (herror : ∀ x v, Q (.error x) s v) :
    (PacketStream.read ty r : Prog σ Exn C A α).wlp S s u Q := by
  refine Prog.wlp_bind (Prog.wlp_ofReader (fun b v hb => ?_) fun x v => herror x v)
  have hu : u = b :: v := PacketStream.eq_cons_of_readType hb
  dsimp only
  split_ifs with herr hterm
  · exact Prog.wlp_bind (Prog.wlp_ofReader (fun e v _ => herror _ v) fun x v => herror x v)
  · exact herror _ v
  · exact Prog.wlp_ofReader (fun a rest hrun => hok b v a rest hu herr hterm hrun)
      fun x v => herror x v

end Liberal

/-! ## Packets that are there as a whole -/

section Whole

variable {σ C δ α : Type} {A : C → Type} {M : Medium Exn}
variable {E : δ → (c : C) → A c → δ → Prop} {ty : PacketType} {r : Reader α} {a : α} {s : σ}
variable {u v : Bytes} {w : ℕ} {d : δ} {o : Stop σ Exn α δ}

/-- A packet with this body is there as a whole, and is neither an `Error` nor a `Terminate`. -/
def Whole {α : Type} (u : Bytes) (body : Reader α) : Prop :=
  ∃ b v, u = b :: v ∧ b ≠ PacketType.error.toByte ∧ b ≠ PacketType.terminate.toByte ∧
    (body.run v).isSome

/-- The body of the packet is this value, and this is left behind it. -/
def Carries (u : Bytes) (body : Reader α) (a : α) (rest : Bytes) : Prop :=
  ∃ b v, u = b :: v ∧ b ≠ PacketType.error.toByte ∧ b ≠ PacketType.terminate.toByte ∧
    body.run v = some (a, rest)

theorem Carries.whole (h : Carries u r a v) : Whole u r := by
  obtain ⟨b, v', hu, herr, hterm, hrun⟩ := h
  exact ⟨b, v', hu, herr, hterm, by rw [hrun, Option.isSome_some]⟩

/-- What reading a packet begins with, and its body. -/
def readTyped (ty : PacketType) (body : Prog σ Exn C A α) : Prog σ Exn C A α := do
  let b ← Prog.ofReader PacketStream.readType
  if b = PacketType.error.toByte then
    let e : Int32 ← Prog.ofReader Wire.dec
    Prog.throw (.errorPacket e)
  else if b = PacketType.terminate.toByte then Prog.throw .socketError
  else
    Prog.expect (b == ty.toByte)
    body

theorem runs_readTyped {body : Prog σ Exn C A α} {b : UInt8} (herr : b ≠ PacketType.error.toByte)
    (hterm : b ≠ PacketType.terminate.toByte) (h : Prog.Runs M E body s v w d o) :
    Prog.Runs M E (readTyped ty body) s (b :: v) w d o := by
  obtain ⟨fs, h⟩ := h
  refine ⟨fs, Prog.Faulty.reads Prog.Context.hole (PacketStream.run_readType_cons b v) ?_⟩
  rw [if_neg herr, if_neg hterm]
  exact .check h

/-- If the body is read or not, as its bytes and memory are there or not, so is the packet. -/
theorem runs_readTyped_cases (hM : 0 < M.cache) (body : Prog σ Exn C A α)
    (hbody : ∀ v, Prog.Runs M E body s v w d o →
      (∃ a v', r.run v = some (a, v') ∧ o = .done (.ok a) s v' w d) ∨
        ¬ o.Returns ∧ (r.run v = none ∨ ∃ n, M.allocates n))
    (h : Prog.Runs M E (readTyped ty body) s u w d o) :
    (∃ a v, Carries u r a v ∧ o = .done (.ok a) s v w d) ∨
      ¬ o.Returns ∧ (¬ Whole u r ∨ ∃ n, M.allocates n) := by
  obtain ⟨o', hrun, ho⟩ := Prog.Runs.of_context (Prog.Context.bind _) h
  rcases hrun.ofReader hM with ⟨b, v, hb, rfl⟩ | ⟨hnot, hwhy⟩
  · have hu : u = b :: v := PacketStream.eq_cons_of_readType hb
    have hwhole (hw : Whole u r) : b ≠ PacketType.error.toByte ∧
        b ≠ PacketType.terminate.toByte ∧ (r.run v).isSome := by
      obtain ⟨b', v', hu', hw⟩ := hw
      obtain ⟨rfl, rfl⟩ := List.cons.inj (hu.symm.trans hu')
      exact hw
    cases ho with
    | done h =>
      change Prog.Runs M E (ite _ _ _) s v w d o at h
      split_ifs at h with herr hterm
      · exact Or.inr ⟨h.not_returns_of_throw, Or.inl fun hw => (hwhole hw).1 herr⟩
      · obtain ⟨fs, h⟩ := h
        cases h
        exact Or.inr ⟨id, Or.inl fun hw => (hwhole hw).2.1 hterm⟩
      · obtain ⟨fs, h⟩ := h
        cases h with
        | check h =>
          rcases hbody v h.runs with ⟨a, v', hr, ho⟩ | ⟨hnot, hwhy⟩
          · exact Or.inl ⟨a, v', ⟨b, v, hu, herr, hterm, hr⟩, ho⟩
          · refine Or.inr ⟨hnot, hwhy.imp_left fun hnone hw => ?_⟩
            exact absurd (hwhole hw).2.2 (Option.not_isSome_iff_eq_none.mpr hnone)
  · refine Or.inr ⟨fun hreturns => hnot (ho.returns (fun e => ⟨e, rfl⟩) hreturns), ?_⟩
    refine hwhy.imp_left fun hnone ⟨b, v, hu, _⟩ => ?_
    rw [hu, PacketStream.run_readType_cons] at hnone
    cases hnone

section Reads

variable {p : Prog σ Exn C A α}
    (hp : p = PacketStream.read ty r ∨ p = PacketStream.readNoexcept ty r)
include hp

/-- A packet that is there is read. -/
theorem runs_of_carries (h : Carries u r a v) :
    Prog.Runs M E p s u w d (.done (.ok a) s v w d) := by
  obtain ⟨b, v', rfl, herr, hterm, hrun⟩ := h
  have hbody : Prog.Runs M E (Prog.ofReader r) s v' w d (.done (.ok a) s v w d) :=
    Prog.runs_ofReader hrun
  rcases hp with rfl | rfl
  · exact runs_readTyped herr hterm hbody
  · refine runs_readTyped herr hterm ?_
    exact hbody.context (Prog.Context.tryCatch _) (.done ⟨_, .ret⟩)

/-- **What reading a packet comes to**: its body is returned, or the packet is not there, or memory
is missing. -/
theorem runs_read_cases (hM : 0 < M.cache) (h : Prog.Runs M E p s u w d o) :
    (∃ a v, Carries u r a v ∧ o = .done (.ok a) s v w d) ∨
      ¬ o.Returns ∧ (¬ Whole u r ∨ ∃ n, M.allocates n) := by
  rcases hp with rfl | rfl
  · exact runs_readTyped_cases hM (Prog.ofReader r) (fun v h => h.ofReader hM) h
  · refine runs_readTyped_cases hM (PacketStream.noexcept (Prog.ofReader r))
      (fun v h => ?_) h
    obtain ⟨o', hrun, ho⟩ := Prog.Runs.of_context (Prog.Context.tryCatch _) h
    rcases hrun.ofReader hM with ⟨a, v', hr, rfl⟩ | ⟨hnot, hwhy⟩
    · cases ho with
      | done h =>
        obtain ⟨fs, h⟩ := h
        cases h
        exact Or.inl ⟨a, v', hr, rfl⟩
    · exact Or.inr ⟨fun ho' => hnot (ho.returns (fun e => ⟨.terminate, rfl⟩) ho'), hwhy⟩

end Reads

end Whole

end RemoteCL

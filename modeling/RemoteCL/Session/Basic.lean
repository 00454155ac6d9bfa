import RemoteCL.Server.Run
import RemoteCL.Session.Tables
import RemoteCL.Theory.Outcomes

/-!
# One call at a time

A conversation between an API function of the client and the server's loop.  It starts with
the server waiting at the top of its loop and nothing on the wire, and it is over when the
function has returned, the server waits again and nothing is left on the wire.

There is one other way for it to end.  The server's search for the ID of an object goes on for
ever when the table is full and the object is not in it.  `Hang` is that situation, with the
evidence that the driver has by then named more objects than there are IDs: all of them belong
to a set `A` that its answers are drawn from.
-/

namespace RemoteCL

open ByteStream Conversation Client

/-! ## How a call ends -/

section Final

variable {δ : Type} (B : ServerBuild) (A : Set Ptr)
variable (P : Ret → ClientState → ServerState → δ → Prop)

/-- Configurations of a call. -/
abbrev CallConfig (δ : Type) := Config ClientState ServerState Exn ServerCall Ans Ret δ

/-- A function of the client, called when the server waits and nothing is on the wire. -/
def start (p : ClientM Ret) (s : ClientState) (t : ServerState) (e : δ) : CallConfig δ :=
  ⟨⟨p, s, []⟩, ⟨ServerInstance.serve B, t, []⟩, [], [], e⟩

/-- The call is over, and left everything as `P` says. -/
def AtRest (x : CallConfig δ) : Prop :=
  ∃ r s t e, P r s t e ∧ x = start B (.ret r) s t e

/-- The client waits for a server that searches its table for ever. -/
def Hang (x : CallConfig δ) : Prop :=
  ∃ q s t e p, Good A t.mObjects ∧ p ∈ A ∧ assignID t.mObjects p = none ∧
    x = ⟨⟨.read 1 q, s, []⟩, ⟨.spin, t, []⟩, [], [], e⟩

/-- The two ways for a call to end. -/
def Final (x : CallConfig δ) : Prop := AtRest B P x ∨ Hang A x

variable {B A P} {E : δ → (c : ServerCall) → Ans c → δ → Prop}

/-- The server's loop starts by looking at the next byte. -/
theorem serve_eq_peek : ∃ k, ServerInstance.serve B = Prog.peek k := ⟨_, rfl⟩

/-- The server waits at the top of its loop. -/
theorem idle_serve : Idle (ServerInstance.serve B) [] := by
  obtain ⟨k, hserve⟩ := serve_eq_peek (B := B)
  rw [hserve]
  rfl

theorem serve_ne_ret {b : Bool} : ServerInstance.serve B ≠ .ret b := by
  obtain ⟨k, hserve⟩ := serve_eq_peek (B := B)
  rw [hserve]
  exact fun h => nomatch h

/-- Where the client has returned, and the server waits, nothing moves. -/
theorem not_step_rest {ρ : Type} {r : ρ} {s : ClientState} {t : ServerState} {d : Bytes} {e : δ}
    {y : Config ClientState ServerState Exn ServerCall Ans ρ δ} :
    ¬ Step E (ServerInstance.serve B)
      ⟨⟨.ret r, s, []⟩, ⟨ServerInstance.serve B, t, []⟩, [], d, e⟩ y :=
  halted_of_idle (p := .ret r) trivial idle_serve serve_ne_ret y

/-- Where the client waits, and the server searches for ever, nothing moves. -/
theorem not_step_spin {q : Except Exn Bytes → ClientM Ret} {s : ClientState} {t : ServerState}
    {e : δ} {y : CallConfig δ} :
    ¬ Step E (ServerInstance.serve B) ⟨⟨.read 1 q, s, []⟩, ⟨.spin, t, []⟩, [], [], e⟩ y := by
  have hclient : Idle (Prog.read 1 q) [] := Nat.one_pos
  exact halted_of_idle (q := .spin) hclient trivial (fun h => nomatch h) y

/-- Where the client overruns its memory before it sends anything, nothing moves. -/
theorem not_step_overrun {s : ClientState} {t : ServerState} {e : δ} {y : CallConfig δ} :
    ¬ Step E (ServerInstance.serve B) (start B overrun s t e) y :=
  halted_of_idle (p := .spin) trivial idle_serve serve_ne_ret y

/-- Where a call has ended nothing moves. -/
theorem terminal_final : Terminal E (ServerInstance.serve B) (Final B A P) where
  stuck := by
    rintro x y (⟨r, s, t, e, -, rfl⟩ | ⟨q, s, t, e, p, -, -, -, rfl⟩)
    · exact not_step_rest
    · exact not_step_spin
  client_check := by
    rintro x k (⟨r, s, t, e, -, rfl⟩ | ⟨q, s, t, e, p, -, -, -, rfl⟩) h
    · cases h
    · cases h
  server_check := by
    obtain ⟨k', hserve⟩ := serve_eq_peek (B := B)
    rintro x k (⟨r, s, t, e, -, rfl⟩ | ⟨q, s, t, e, p, -, -, -, rfl⟩) h
    · rw [start, hserve] at h
      cases h
    · cases h

theorem stable_final : Stable E (ServerInstance.serve B) (Final B A P) := terminal_final.stable

/-- Without objects to search for, no search can fail. -/
theorem final_empty (x : CallConfig δ) : Final B ∅ P x ↔ AtRest B P x :=
  or_iff_left fun ⟨_, _, _, _, _, _, hp, _⟩ => hp

end Final

/-- A build without zlib. -/
def plainBuild : Build := ⟨0, 1, 2, none, false⟩

end RemoteCL

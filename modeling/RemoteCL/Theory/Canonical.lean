import RemoteCL.Theory.Asking

/-!
# What a reader accepts

`Reads` starts from a word that has been written.  `Reader.Takes r n Q` starts from any stream: `r`
is done when `n` bytes have arrived, whatever they are, and what it takes off the front is a word of
no more than `n` bytes, of which `Q` says how it belongs to the value.  With `Q` saying that the
word is the encoding of the value this is the converse of a round trip.

Like `Reads` it composes along `>>=` (`Takes.bind`), so that a decoder that is written field by
field is gone through field by field.
-/

namespace ByteStream

variable {α β : Type}

/-- `n` bytes are enough for the reader, and the word that it takes belongs to its value. -/
structure Reader.Takes (r : Reader α) (n : ℕ) (Q : Bytes → α → Prop) : Prop where
  sound : ∀ {u a rest}, r.run u = some (a, rest) → ∃ w, u = w ++ rest ∧ w.length ≤ n ∧ Q w a
  total : ∀ {u : Bytes}, n ≤ u.length → ∃ p, r.run u = some p

namespace Reader

variable {n m : ℕ} {Q : Bytes → α → Prop} {R : Bytes → β → Prop}

theorem takes_done {a : α} (h : Q [] a) : (done a).Takes 0 Q where
  sound hrun := by
    rw [run_done, Option.some.injEq, Prod.mk.injEq] at hrun
    obtain ⟨rfl, rfl⟩ := hrun
    exact ⟨[], rfl, Nat.le_refl 0, h⟩
  total _ := ⟨_, run_done _ _⟩

/-- A block of bytes. -/
theorem takes_take {f : Bytes → α} (h : ∀ b : Bytes, b.length = n → Q b (f b)) :
    (take n fun b => done (f b)).Takes n Q where
  sound {u a rest} hrun := by
    rw [run_take] at hrun
    split at hrun
    · rename_i hn
      rw [run_done, Option.some.injEq, Prod.mk.injEq] at hrun
      obtain ⟨rfl, rfl⟩ := hrun
      have hlen : (u.take n).length = n := List.length_take_of_le hn
      exact ⟨u.take n, (List.take_append_drop n u).symm, hlen.le, h _ hlen⟩
    · cases hrun
  total hn := ⟨_, by rw [run_take, if_pos hn, run_done]⟩

/-- Sequencing: the word of the first reader stands before that of the second. -/
theorem Takes.bind {r : Reader α} {f : α → Reader β} (hr : r.Takes n Q)
    (hf : ∀ w a, Q w a → (f a).Takes m fun v b => R (w ++ v) b) : (r >>= f).Takes (n + m) R where
  sound {u b rest} hrun := by
    rw [run_bind, Option.bind_eq_some_iff] at hrun
    obtain ⟨⟨a, s⟩, hfirst, hsecond⟩ := hrun
    obtain ⟨w, rfl, hw, hQ⟩ := hr.sound hfirst
    obtain ⟨v, rfl, hv, hR⟩ := (hf w a hQ).sound hsecond
    refine ⟨w ++ v, (List.append_assoc _ _ _).symm, ?_, hR⟩
    rw [List.length_append]
    omega
  total {u} hu := by
    obtain ⟨⟨a, s⟩, hfirst⟩ := hr.total (show n ≤ u.length by omega)
    obtain ⟨w, rfl, hw, hQ⟩ := hr.sound hfirst
    rw [List.length_append] at hu
    obtain ⟨p, hsecond⟩ := (hf w a hQ).total (show m ≤ s.length by omega)
    exact ⟨p, by rw [run_bind, hfirst, Option.bind_some, hsecond]⟩

theorem Takes.mono {r : Reader α} {Q' : Bytes → α → Prop} (hr : r.Takes n Q) (hn : n ≤ m)
    (hQ : ∀ w a, Q w a → Q' w a) : r.Takes m Q' where
  sound hrun := by
    obtain ⟨w, hu, hw, h⟩ := hr.sound hrun
    exact ⟨w, hu, hw.trans hn, hQ w _ h⟩
  total hu := hr.total (hn.trans hu)

/-- Items that are read one after the other. -/
theorem takes_readN {r : Reader α} {P : α → Prop} {enc : α → Bytes}
    (hr : r.Takes n fun w a => P a ∧ w = enc a) (k : ℕ) :
    (readN r k).Takes (k * n) fun w as =>
      as.length = k ∧ (∀ a ∈ as, P a) ∧ w = as.flatMap enc := by
  induction k with
  | zero =>
    rw [Nat.zero_mul]
    exact takes_done ⟨rfl, fun a ha => absurd ha List.not_mem_nil, rfl⟩
  | succ k ih =>
    rw [Nat.succ_mul, Nat.add_comm (k * n) n]
    refine hr.bind fun w a ha => ?_
    rw [← Nat.add_zero (k * n)]
    refine ih.bind fun v as has => takes_done ?_
    obtain ⟨hlen, hP, rfl⟩ := has
    refine ⟨congrArg (· + 1) hlen, fun b hb => ?_, ?_⟩
    · rcases List.mem_cons.mp hb with rfl | hb
      · exact ha.1
      · exact hP b hb
    · rw [List.append_nil, List.flatMap_cons, ha.2]

end Reader

/-- Bytes spell a number that is written back as the same bytes. -/
theorem leBytes_of_length {b : Bytes} {n v : ℕ} (hb : b.length = n) (hv : v = leValue b) :
    leBytes n v = b := by
  rw [hv, ← hb, leBytes_leValue]

end ByteStream

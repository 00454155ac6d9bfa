import RemoteCL.Common.SocketStream

/-!
# Reading past the end of the input

The loop of `SocketStream::read`, on a connection over which fewer bytes are going to arrive than
are asked for.  From the end of the input on `receive` returns 0.

An iteration before the end takes at least one byte, wherever the network cuts, and so the end is
reached with the same number of bytes missing on every way there.  What happens then depends on that
number only.  The branch that fills the buffer notices that nothing has arrived, and throws.  The
branch that reads directly into the output does not look at the number of bytes it got, and is taken
when a whole buffer is missing.
-/

namespace RemoteCL

open ByteStream

namespace ReadCache

/-- What `read` comes to within `fuel` iterations of its loop; `none` if it goes on. -/
def readWithin : ℕ → ReadCache → Network → ℕ →
    Option (Except ReadError (Bytes × ReadCache × Network))
  | _, s, net, 0 => some (.ok ([], s, net))
  | 0, _, _, _ + 1 => none
  | fuel + 1, s, net, count + 1 =>
    match s.iterate net (count + 1) with
    | .error x => some (.error x)
    | .ok r => (readWithin fuel r.2.1 r.2.2 (count + 1 - r.1.length)).map fun
      | .ok q => .ok (r.1 ++ q.1, q.2)
      | .error x => .error x

/-- What has been read is what `readLoop` yields. -/
theorem readLoop_eq (fuel : ℕ) (s : ReadCache) (net : Network) (count : ℕ) :
    readLoop fuel s net count = (readWithin fuel s net count).bind Except.toOption := by
  induction fuel generalizing s net count with
  | zero => cases count <;> rfl
  | succ fuel ih =>
    cases count with
    | zero => rfl
    | succ count =>
      rw [readLoop_succ, readWithin]
      cases s.iterate net (count + 1) with
      | error x => rfl
      | ok r =>
        simp only [Except.toOption, Option.bind_some, ih]
        rcases readWithin fuel r.2.1 r.2.2 (count + 1 - r.1.length) with _ | _ | _ <;> rfl

variable {s : ReadCache} {net : Network}

theorem readWithin_of_ok {fuel count : ℕ} {data : Bytes} {s' : ReadCache} {net' : Network}
    (h : s.iterate net (count + 1) = .ok (data, s', net')) :
    readWithin (fuel + 1) s net (count + 1) = some (.error .socketError) ↔
      readWithin fuel s' net' (count + 1 - data.length) = some (.error .socketError) := by
  simp only [readWithin, h]
  rcases readWithin fuel s' net' (count + 1 - data.length) with _ | _ | _ <;> simp

/-- At the end of the input, with less than a buffer missing: the socket is found closed. -/
theorem iterate_of_lt (h : s.Holds net []) {count : ℕ} (hcount : count < BufferSize) :
    s.iterate net count = .error .socketError := by
  obtain ⟨s', net', hrefill, h', -⟩ := h.refill
  have havailable : s'.mAvailable = 0 := by
    rw [← length_cached h'.le, (List.append_eq_nil_iff.mp h'.eq).1, List.length_nil]
  rw [iterate, if_neg fun hdirect => absurd hdirect.2 (Nat.not_le.mpr hcount), hrefill]
  simp only [if_pos havailable]

/-- At the end of the input, with a buffer or more missing: nothing arrives, and the loop starts
again. -/
theorem iterate_of_le (h : s.Holds net []) {count : ℕ} (hcount : BufferSize ≤ count) :
    ∃ net', s.iterate net count = .ok ([], s, net') ∧ s.Holds net' [] := by
  obtain ⟨hcached, hincoming⟩ := List.append_eq_nil_iff.mp h.eq
  have havailable : s.mAvailable = 0 := by
    rw [← length_cached h.le, hcached, List.length_nil]
  refine ⟨⟨[], fun i => net.cuts (i + 1)⟩, ?_, h.le, ?_⟩
  · rw [iterate, if_pos ⟨havailable, hcount⟩, Network.receive, hincoming, List.take_nil,
      List.drop_nil]
  · rw [hcached, List.nil_append]

/-- The loop never ends. -/
theorem readWithin_forever (h : s.Holds net []) {count : ℕ} (hcount : BufferSize ≤ count)
    (fuel : ℕ) : readWithin fuel s net count = none := by
  obtain ⟨count, rfl⟩ : ∃ n, count = n + 1 :=
    Nat.exists_eq_succ_of_ne_zero (Nat.ne_of_gt (BufferSize_pos.trans_le hcount))
  induction fuel generalizing net with
  | zero => rfl
  | succ fuel ih =>
    obtain ⟨net', hiterate, h'⟩ := iterate_of_le h hcount
    rw [readWithin, hiterate]
    simp only [List.length_nil, Nat.sub_zero, ih h', Option.map_none]

/-- What happens at the end of the input is decided by the number of bytes that are missing then,
since every iteration before it takes as many bytes as it delivers. -/
theorem Holds.throws_iff {rest : Bytes} (h : s.Holds net rest) {count : ℕ}
    (hcount : rest.length < count) :
    (∃ fuel, s.readWithin fuel net count = some (.error .socketError)) ↔
      count - rest.length < BufferSize := by
  induction hlen : rest.length using Nat.strong_induction_on generalizing s net rest count with
  | h n ih =>
    obtain ⟨count, rfl⟩ : ∃ n, count = n + 1 := Nat.exists_eq_succ_of_ne_zero (by omega)
    by_cases hne : rest = []
    · subst hne
      obtain rfl : 0 = n := hlen
      rw [Nat.sub_zero]
      constructor
      · rintro ⟨fuel, hfuel⟩
        by_contra hle
        rw [readWithin_forever h (Nat.not_lt.mp hle)] at hfuel
        cases hfuel
      · intro hlt
        exact ⟨1, by rw [readWithin, iterate_of_lt h hlt]⟩
    · obtain ⟨data, s', net', rest', hiterate, rfl, hpos, hle, h'⟩ :=
        h.iterate (Nat.succ_pos count) hne
      rw [List.length_append] at hcount hlen
      have hrest := ih rest'.length (by omega) h'
        (show rest'.length < count + 1 - data.length by omega) rfl
      rw [show count + 1 - data.length - rest'.length = count + 1 - n by omega] at hrest
      rw [← hrest]
      constructor
      · rintro ⟨fuel, hfuel⟩
        cases fuel with
        | zero => cases hfuel
        | succ fuel => exact ⟨fuel, (readWithin_of_ok hiterate).mp hfuel⟩
      · rintro ⟨fuel, hfuel⟩
        exact ⟨fuel + 1, (readWithin_of_ok hiterate).mpr hfuel⟩

/-- **Reading past the end of the connection**: the loop ends with a `Socket::Error` exactly if less
than a buffer is missing, however the network cuts what there is. -/
theorem read_past_end_iff {s : ReadCache} (hs : s.mReadOffset + s.mAvailable ≤ BufferSize)
    {net : Network} {count : ℕ} (hcount : s.mAvailable + net.incoming.length < count) :
    (∃ fuel, s.readWithin fuel net count = some (.error .socketError)) ↔
      count - (s.mAvailable + net.incoming.length) < BufferSize := by
  have hlen : (s.cached ++ net.incoming).length = s.mAvailable + net.incoming.length := by
    rw [List.length_append, length_cached hs]
  rw [← hlen] at hcount ⊢
  exact Holds.throws_iff ⟨hs, rfl⟩ hcount

/-- Three bytes are read where two are left. -/
theorem read_past_end_iff_small :
    ∃ fuel, (fresh Buffer.zeros).readWithin fuel ⟨[1, 2], fun _ => 1⟩ 3 =
      some (.error .socketError) :=
  (read_past_end_iff (by decide) (by decide)).mpr (by decide)

/-- A block of the size of the buffer is read from a connection that has been closed: the loop never
ends. -/
theorem read_past_end_spins :
    ¬ ∀ (s : ReadCache) (net : Network) (count : ℕ),
      s.mReadOffset + s.mAvailable ≤ BufferSize →
      s.mAvailable + net.incoming.length < count →
      ∃ fuel, s.readWithin fuel net count = some (.error .socketError) := by
  intro h
  obtain ⟨fuel, hfuel⟩ := h (fresh Buffer.zeros) ⟨[], fun _ => 1⟩ BufferSize (by decide) (by decide)
  have hholds : (fresh Buffer.zeros).Holds ⟨[], fun _ => 1⟩ [] := ⟨by decide, rfl⟩
  rw [readWithin_forever hholds (Nat.le_refl _)] at hfuel
  cases hfuel

end ReadCache

end RemoteCL

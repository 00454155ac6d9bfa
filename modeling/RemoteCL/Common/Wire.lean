import RemoteCL.Theory.Reader
import Mathlib.Tactic.NormNum

/-!
# What crosses the wire: numbers, strings, lists

The stream operators of `SocketStream` and of `streamserialise.h`.  An `operator<<` becomes
`Wire.enc`, the bytes it writes; an `operator>>` becomes `Wire.dec`, a reader that blocks for as
many bytes as the operator asks of `SocketStream::read`.

Both ends are little-endian (the source refuses to compile otherwise), so an integer crosses as
its bytes, least significant first.

A list or a string crosses as its length in a field of a fixed width, followed by its elements.
The encoder narrows the length to the field and then writes *all* the elements; the decoder
reads as many as the field says.  The two agree when the length fits, and that is the only
condition any round trip below has.
-/

namespace RemoteCL

open ByteStream

/-- `IDType`, the type of object IDs on the wire. -/
abbrev IDType := UInt16

/-- A pointer of the server's OpenCL driver. -/
abbrev Ptr := UInt64

/-- `operator<<` and `operator>>` of one type. -/
class Wire (α : Type) where
  enc : α → Bytes
  dec : Reader α

/-- Decoding undoes encoding, for every value. -/
class LawfulWire (α : Type) [Wire α] : Prop where
  reads_dec : ∀ a : α, Reads Wire.dec (Wire.enc a) a

open Wire LawfulWire

@[simp] theorem run_dec_bind {α β : Type} [Wire α] [LawfulWire α] (a : α) (f : α → Reader β)
    (rest : Bytes) : (dec >>= f).run (enc a ++ rest) = (f a).run rest :=
  (reads_dec a).run_bind f rest

/-! ## Integers -/

instance : Wire UInt8 where
  enc x := leBytes 1 x.toNat
  dec := Reader.take 1 fun b => Reader.done (UInt8.ofNat (leValue b))

instance : Wire UInt16 where
  enc x := leBytes 2 x.toNat
  dec := Reader.take 2 fun b => Reader.done (UInt16.ofNat (leValue b))

instance : Wire UInt32 where
  enc x := leBytes 4 x.toNat
  dec := Reader.take 4 fun b => Reader.done (UInt32.ofNat (leValue b))

instance : Wire UInt64 where
  enc x := leBytes 8 x.toNat
  dec := Reader.take 8 fun b => Reader.done (UInt64.ofNat (leValue b))

/-- Signed integers cross as their two's complement. -/
instance : Wire Int32 where
  enc x := enc x.toUInt32
  dec := do
    let x : UInt32 ← dec
    pure x.toInt32

/-- `sizeof(bool)` is one byte. -/
instance : Wire Bool where
  enc b := enc (if b then 1 else 0 : UInt8)
  dec := do
    let x : UInt8 ← dec
    pure (x != 0)

/-- A block of little-endian bytes is read back as the number it came from. -/
theorem reads_take_leBytes {α : Type} {n v : ℕ} (f : ℕ → α) (h : v < 256 ^ n) :
    Reads (Reader.take n fun b => Reader.done (f (leValue b))) (leBytes n v) (f v) :=
  fun rest => by
    rw [Reader.run_take_append (length_leBytes n v), Reader.run_done, leValue_leBytes_of_lt h]

instance : LawfulWire UInt8 where
  reads_dec x := by
    have h := reads_take_leBytes UInt8.ofNat (n := 1) (v := x.toNat) x.toNat_lt
    rwa [UInt8.ofNat_toNat] at h

instance : LawfulWire UInt16 where
  reads_dec x := by
    have h := reads_take_leBytes UInt16.ofNat (n := 2) (v := x.toNat) x.toNat_lt
    rwa [UInt16.ofNat_toNat] at h

instance : LawfulWire UInt32 where
  reads_dec x := by
    have h := reads_take_leBytes UInt32.ofNat (n := 4) (v := x.toNat) x.toNat_lt
    rwa [UInt32.ofNat_toNat] at h

instance : LawfulWire UInt64 where
  reads_dec x := by
    have h := reads_take_leBytes UInt64.ofNat (n := 8) (v := x.toNat) x.toNat_lt
    rwa [UInt64.ofNat_toNat] at h

instance : LawfulWire Int32 where
  reads_dec x := by
    have h := (reads_dec x.toUInt32).map UInt32.toInt32
    rwa [Int32.toInt32_toUInt32] at h

instance : LawfulWire Bool where
  reads_dec b := by
    have h := (reads_dec (if b then 1 else 0 : UInt8)).map (fun x => x != 0)
    have hb : ((if b then 1 else 0 : UInt8) != 0) = b := by cases b <;> rfl
    rwa [hb] at h

/-- A `size_t` that fits survives a field of 32 bits. -/
theorem toNat_toUInt32 {n : UInt64} (h : n.toNat < 2 ^ 32) : n.toUInt32.toNat = n.toNat := by
  rw [UInt64.toNat_toUInt32]
  exact Nat.mod_eq_of_lt h

theorem toUInt64_toUInt32 {n : UInt64} (h : n.toNat < 2 ^ 32) : n.toUInt32.toUInt64 = n := by
  apply UInt64.toNat_inj.mp
  rw [UInt32.toNat_toUInt64, toNat_toUInt32 h]

/-! ## Lists and strings -/

/-- The type that encodes the size of a container. -/
inductive SizeT where
  | uint8
  | uint16
  | uint32
  deriving DecidableEq

/-- `sizeof(SizeT)`. -/
def SizeT.bytes : SizeT → ℕ
  | .uint8 => 1
  | .uint16 => 2
  | .uint32 => 4

/-- `std::numeric_limits<SizeT>::max() + 1`. -/
def SizeT.range (sz : SizeT) : ℕ := 256 ^ sz.bytes

/-- A size, narrowed to its field. -/
def encSize (sz : SizeT) (n : ℕ) : Bytes := leBytes sz.bytes n

def decSize (sz : SizeT) : Reader ℕ :=
  Reader.take sz.bytes fun b => Reader.done (leValue b)

theorem reads_decSize {sz : SizeT} {n : ℕ} (h : n < sz.range) :
    Reads (decSize sz) (encSize sz n) n :=
  reads_take_leBytes id h

/-- What a size field of any value is read back as. -/
theorem reads_decSize_mod (sz : SizeT) (n : ℕ) :
    Reads (decSize sz) (encSize sz n) (n % sz.range) := fun rest => by
  rw [decSize, encSize, Reader.run_take_append (length_leBytes _ _), Reader.run_done,
    leValue_leBytes, SizeT.range]

/-- `operator<<` of `Serialiseable<Container, SizeT>`. -/
def encList {α : Type} [Wire α] (sz : SizeT) (C : List α) : Bytes :=
  encSize sz C.length ++ C.flatMap enc

/-- `operator>>` of `Serialiseable<Container, SizeT>`. -/
def decList (α : Type) [Wire α] (sz : SizeT) : Reader (List α) := do
  let size ← decSize sz
  readN dec size

theorem reads_decList {α : Type} [Wire α] {sz : SizeT} {C : List α}
    (hC : ∀ a ∈ C, Reads dec (enc a) a) (h : C.length < sz.range) :
    Reads (decList α sz) (encList sz C) C :=
  (reads_decSize h).bind (reads_readN hC)

/-- As many elements are read as the size field says, however many have been written. -/
theorem exists_reads_decList {α : Type} [Wire α] [LawfulWire α] (sz : SizeT) (C : List α) :
    ∃ w rest, encList sz C = w ++ rest ∧
      Reads (decList α sz) w (C.take (C.length % sz.range)) := by
  let n := C.length % sz.range
  have hn : (C.take n).length = n := by
    rw [List.length_take, min_eq_left (Nat.mod_le _ _)]
  refine ⟨encSize sz C.length ++ (C.take n).flatMap enc, (C.drop n).flatMap enc, ?_, ?_⟩
  · rw [encList, List.append_assoc, ← List.flatMap_append, List.take_append_drop]
  · have hread : Reads (readN dec (C.take n).length) ((C.take n).flatMap enc) (C.take n) :=
      reads_readN fun a _ => reads_dec a
    rw [hn] at hread
    exact (reads_decSize_mod sz C.length).bind hread

@[simp] theorem run_decList_bind {α β : Type} [Wire α] [LawfulWire α] {sz : SizeT} {C : List α}
    (h : C.length < sz.range) (f : List α → Reader β) (rest : Bytes) :
    (decList α sz >>= f).run (encList sz C ++ rest) = (f C).run rest :=
  (reads_decList (fun a _ => reads_dec a) h).run_bind f rest

/-- `operator<<` of `std::string`. -/
def encString (s : Bytes) : Bytes := encSize .uint16 s.length ++ s

/-- `operator>>` of `std::string`: the characters arrive one by one. -/
def decString : Reader Bytes := do
  let length ← decSize .uint16
  readN dec length

/-- The longest string there is room for. -/
def StringFits (s : Bytes) : Prop := s.length ≤ 65535

theorem flatMap_enc_uint8 (s : Bytes) : s.flatMap enc = s := by
  have henc : ∀ b : UInt8, enc b = [b] := fun b => by
    show [UInt8.ofNat b.toNat] = [b]
    rw [UInt8.ofNat_toNat]
  induction s with
  | nil => rfl
  | cons b s ih => rw [List.flatMap_cons, ih, henc, List.singleton_append]

theorem reads_decString {s : Bytes} (h : StringFits s) : Reads decString (encString s) s := by
  have hchars : Reads (readN dec s.length) (s.flatMap enc) s :=
    reads_readN fun b _ => reads_dec b
  rw [flatMap_enc_uint8] at hchars
  have hlen : s.length < SizeT.range .uint16 := by
    have hs : s.length ≤ 65535 := h
    norm_num [SizeT.range, SizeT.bytes]
    omega
  exact (reads_decSize hlen).bind hchars

/-- As many characters are read as the length field says, however many have been written. -/
theorem exists_reads_decString (s : Bytes) :
    ∃ w rest, encString s = w ++ rest ∧
      Reads decString w (s.take (s.length % SizeT.range .uint16)) := by
  obtain ⟨w, rest, hw, hreads⟩ := exists_reads_decList (α := UInt8) .uint16 s
  rw [encList, flatMap_enc_uint8] at hw
  exact ⟨w, rest, hw, hreads⟩

@[simp] theorem run_decString_bind {β : Type} {s : Bytes} (h : StringFits s)
    (f : Bytes → Reader β) (rest : Bytes) :
    (decString >>= f).run (encString s ++ rest) = (f s).run rest :=
  (reads_decString h).run_bind f rest

/-- A list of strings, as an element type of a `Serialiseable`. -/
structure WireString where
  chars : Bytes
  deriving DecidableEq

instance : Wire WireString where
  enc s := encString s.chars
  dec := do
    let chars ← decString
    pure ⟨chars⟩

theorem reads_wireString {s : WireString} (h : StringFits s.chars) : Reads dec (enc s) s :=
  (reads_decString h).map WireString.mk

/-! ## Fixed arrays -/

/-- `operator>>` of `std::array<T, N>`, element by element. -/
def decArray (α : Type) [Wire α] : (n : ℕ) → Reader (Vector α n)
  | 0 => pure #v[]
  | n + 1 => do
    let v ← decArray α n
    let a ← dec
    pure (v.push a)

/-- `std::array<T, N>`: the elements, with no size field. -/
instance {α : Type} [Wire α] {n : ℕ} : Wire (Vector α n) where
  enc a := a.toList.flatMap enc
  dec := decArray α n

theorem reads_decArray {α : Type} [Wire α] [LawfulWire α] :
    ∀ {n : ℕ} (a : Vector α n), Reads (decArray α n) (a.toList.flatMap enc) a
  | 0, a => by
    obtain rfl : a = #v[] := Vector.eq_empty
    exact Reads.pure _
  | n + 1, a => by
    have hsplit : a.toList.flatMap enc = a.pop.toList.flatMap enc ++ enc a.back := by
      conv_lhs => rw [← Vector.push_pop_back a]
      rw [Vector.toList_push, List.flatMap_append, List.flatMap_cons, List.flatMap_nil,
        List.append_nil]
    have h := (reads_decArray a.pop).bind (f := fun v => dec >>= fun x => pure (v.push x))
      ((reads_dec a.back).map fun x => a.pop.push x)
    rwa [← hsplit, Vector.push_pop_back] at h

instance {α : Type} [Wire α] [LawfulWire α] {n : ℕ} : LawfulWire (Vector α n) where
  reads_dec := reads_decArray

end RemoteCL

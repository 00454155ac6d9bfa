import RemoteCL.Common.Packet

/-!
# Payloads

A payload is a burst of bytes whose meaning the wire does not know.  There are two ways to write
one (`Payload`, which owns its bytes, and `PayloadPtr`, which points at them) and two ways to
read one (`Payload` again, and `PayloadInto`, which puts the bytes where the caller wants them).

In a build with zlib a payload starts with one more size: the size it has when decompressed, or
zero if the bytes behind it are not compressed.  A payload is compressed only from a threshold
on, and only if that makes it smaller.  All four operators are written separately in the source,
and they agree: `reads_payload` says that either reader undoes either writer.
-/

namespace RemoteCL

open ByteStream

/-! ## zlib -/

/-- The two functions of zlib that are used.  `compress` fails or produces the compressed bytes;
`uncompress data n` fills an output buffer of `n` bytes. -/
structure Zlib where
  compress : Bytes → Option Bytes
  uncompress : Bytes → ℕ → Bytes

/-- `zr` undoes what `zw` has compressed. -/
def Zlib.Inverts (zr zw : Zlib) : Prop :=
  ∀ data c, zw.compress data = some c → zr.uncompress c data.length = data

/-- `Compress`: no bytes when zlib fails. -/
def Compress (z : Zlib) (data : Bytes) : Bytes := (z.compress data).getD []

/-- `Decompress`. -/
def Decompress (z : Zlib) (data : Bytes) (outLen : ℕ) : Bytes := z.uncompress data outLen

/-! ## Writers -/

/-- `CompressionSizeThreshold`. -/
def compressionSizeThreshold : ℕ := 2 ^ 20

/-- The packet type of every payload. -/
abbrev payloadType : PacketType := .payload

/-- `operator<<` of `PayloadPtr<SizeT>`, for a pointer to `data`.  The constructor narrows the
size, so a longer block is cut off. -/
def encPayloadPtr (zlib : Option Zlib) (sz : SizeT) (data : Bytes) : Bytes :=
  let mSize := data.length % sz.range
  let burst := data.take mSize
  match zlib with
  | none => encSize sz mSize ++ burst
  | some z =>
    let compressed := Compress z burst
    if compressionSizeThreshold ≤ mSize ∧ compressed.length ≠ 0 ∧ compressed.length < mSize then
      encSize sz mSize ++ encSize sz compressed.length ++ compressed
    else
      encSize sz 0 ++ encSize sz mSize ++ burst

/-- `operator<<` of `Payload<SizeT>`.  It compares the size of the whole vector, and narrows
it only when writing. -/
def encPayload (zlib : Option Zlib) (sz : SizeT) (mData : Bytes) : Bytes :=
  let dataSize := mData.length % sz.range
  match zlib with
  | none => encSize sz dataSize ++ mData.take dataSize
  | some z =>
    let compressed := Compress z mData
    if compressionSizeThreshold ≤ mData.length ∧ compressed.length ≠ 0 ∧
        compressed.length < mData.length then
      encSize sz mData.length ++ encSize sz compressed.length ++ compressed
    else
      encSize sz 0 ++ encSize sz dataSize ++ mData.take dataSize

/-! ## Readers -/

/-- The bytes of a block of known size. -/
def readBlock (n : ℕ) : Reader Bytes := Reader.take n Reader.done

/-- `operator>>` of `PayloadInto<SizeT>`: the bytes that are put behind the pointer.  Nothing is
read for a block of size zero. -/
def decPayloadInto (zlib : Option Zlib) (sz : SizeT) : Reader Bytes :=
  match zlib with
  | none => do
    let dataSize ← decSize sz
    if dataSize = 0 then pure [] else readBlock dataSize
  | some z => do
    let decompressedSize ← decSize sz
    let dataSize ← decSize sz
    if decompressedSize ≠ 0 then
      let compressed ← readBlock dataSize
      pure (Decompress z compressed decompressedSize)
    else if dataSize = 0 then pure [] else readBlock dataSize

/-- `operator>>` of `Payload<SizeT>`. -/
def decPayload (zlib : Option Zlib) (sz : SizeT) : Reader Bytes :=
  match zlib with
  | none => do
    let dataSize ← decSize sz
    readBlock dataSize
  | some z => do
    let decompressedSize ← decSize sz
    let dataSize ← decSize sz
    let mData ← readBlock dataSize
    pure (if decompressedSize ≠ 0 then Decompress z mData decompressedSize else mData)

theorem reads_readBlock {w : Bytes} {n : ℕ} (h : w.length = n) : Reads (readBlock n) w w :=
  Reads.take h

/-- A block of size zero need not be read. -/
theorem reads_readBlock_or_nothing (w : Bytes) :
    Reads (if w.length = 0 then pure [] else readBlock w.length) w w := by
  split
  · rename_i h
    rw [List.length_eq_zero_iff.mp h]
    exact Reads.pure _
  · exact reads_readBlock rfl

/-! ## Agreement -/

/-- What a payload is on the wire: compressed, with both sizes, or as it is, behind a zero if
the build has zlib. -/
inductive PayloadForm (zlib : Option Zlib) (sz : SizeT) (data : Bytes) : Bytes → Prop
  | plain (h : zlib = none) : PayloadForm zlib sz data (encSize sz data.length ++ data)
  | stored (z : Zlib) (h : zlib = some z) :
      PayloadForm zlib sz data (encSize sz 0 ++ encSize sz data.length ++ data)
  | compressed (z : Zlib) (c : Bytes) (h : zlib = some z) (hc : z.compress data = some c)
      (hpos : data.length ≠ 0) (hlt : c.length < data.length) :
      PayloadForm zlib sz data (encSize sz data.length ++ encSize sz c.length ++ c)

/-- A compression with a result is a successful one. -/
theorem compress_of_length_ne_zero {z : Zlib} {data : Bytes}
    (h : (Compress z data).length ≠ 0) : z.compress data = some (Compress z data) := by
  rw [Compress] at h ⊢
  cases hz : z.compress data with
  | none =>
    rw [hz] at h
    exact absurd rfl h
  | some c => rfl

theorem payloadForm_encPayload (zlib : Option Zlib) {sz : SizeT} {data : Bytes}
    (h : data.length < sz.range) : PayloadForm zlib sz data (encPayload zlib sz data) := by
  cases zlib with
  | none =>
    rw [encPayload, Nat.mod_eq_of_lt h, List.take_length]
    exact .plain rfl
  | some z =>
    rw [encPayload, Nat.mod_eq_of_lt h, List.take_length]
    by_cases hc : compressionSizeThreshold ≤ data.length ∧ (Compress z data).length ≠ 0 ∧
        (Compress z data).length < data.length
    · simp only [if_pos hc]
      exact .compressed z _ rfl (compress_of_length_ne_zero hc.2.1) (by omega) hc.2.2
    · simp only [if_neg hc]
      exact .stored z rfl

/-- Within the range of its size field the two writers write the same bytes. -/
theorem encPayloadPtr_eq (zlib : Option Zlib) {sz : SizeT} {data : Bytes}
    (h : data.length < sz.range) : encPayloadPtr zlib sz data = encPayload zlib sz data := by
  cases zlib <;> rw [encPayloadPtr, encPayload, Nat.mod_eq_of_lt h, List.take_length]

theorem range_pos (sz : SizeT) : 0 < sz.range := Nat.pow_pos (by omega)

/-- Whether a build has zlib, and that the reader's undoes the writer's. -/
inductive SameFormat : Option Zlib → Option Zlib → Prop
  | plain : SameFormat none none
  | zlib {zw zr : Zlib} (h : zr.Inverts zw) : SameFormat (some zw) (some zr)

theorem reads_decPayload {zw zr : Option Zlib} {sz : SizeT} {data w : Bytes}
    (hz : SameFormat zw zr) (hlen : data.length < sz.range) (hw : PayloadForm zw sz data w) :
    Reads (decPayload zr sz) w data := by
  cases hw with
  | plain h =>
    subst h
    cases hz
    exact (reads_decSize hlen).bind (reads_readBlock rfl)
  | stored z h =>
    subst h
    cases hz
    rw [List.append_assoc]
    exact (reads_decSize (range_pos sz)).bind
      ((reads_decSize hlen).bind ((reads_readBlock rfl).map fun w => w))
  | compressed z c h hc hpos hlt =>
    subst h
    obtain _ | hinv := hz
    rename_i zr
    have hres : (if data.length ≠ 0 then Decompress zr c data.length else c) = data := by
      rw [if_pos hpos, Decompress, hinv data c hc]
    have hrest := (reads_readBlock (w := c) rfl).map fun mData =>
      if data.length ≠ 0 then Decompress zr mData data.length else mData
    rw [hres] at hrest
    rw [List.append_assoc]
    exact (reads_decSize hlen).bind ((reads_decSize (hlt.trans hlen)).bind hrest)

theorem reads_decPayloadInto {zw zr : Option Zlib} {sz : SizeT} {data w : Bytes}
    (hz : SameFormat zw zr) (hlen : data.length < sz.range) (hw : PayloadForm zw sz data w) :
    Reads (decPayloadInto zr sz) w data := by
  cases hw with
  | plain h =>
    subst h
    cases hz
    exact (reads_decSize hlen).bind (reads_readBlock_or_nothing data)
  | stored z h =>
    subst h
    cases hz
    rw [List.append_assoc]
    refine (reads_decSize (range_pos sz)).bind ((reads_decSize hlen).bind ?_)
    rw [if_neg (by simp)]
    exact reads_readBlock_or_nothing data
  | compressed z c h hc hpos hlt =>
    subst h
    obtain _ | hinv := hz
    rename_i zr
    have hrest := (reads_readBlock (w := c) rfl).map fun compressed =>
      Decompress zr compressed data.length
    rw [Decompress, hinv data c hc] at hrest
    rw [List.append_assoc]
    refine (reads_decSize hlen).bind ((reads_decSize (hlt.trans hlen)).bind ?_)
    rw [if_pos hpos]
    exact hrest

/-! ## Payload packets on a packet stream -/

/-- The two forms in which a payload is written. -/
inductive PayloadWriter where
  | payload
  | payloadPtr
  deriving DecidableEq

/-- The two forms in which a payload is read. -/
inductive PayloadReader where
  | payload
  | payloadInto
  deriving DecidableEq

def PayloadWriter.encode (zlib : Option Zlib) (sz : SizeT) (data : Bytes) :
    PayloadWriter → Bytes
  | payload => encPayload zlib sz data
  | payloadPtr => encPayloadPtr zlib sz data

def PayloadReader.decode (zlib : Option Zlib) (sz : SizeT) : PayloadReader → Reader Bytes
  | payload => decPayload zlib sz
  | payloadInto => decPayloadInto zlib sz

/-- **Either reader undoes either writer**, as long as both builds have zlib or neither has. -/
theorem reads_payload {zw zr : Option Zlib} {sz : SizeT} {data : Bytes}
    (hz : SameFormat zw zr) (hlen : data.length < sz.range) (w : PayloadWriter)
    (r : PayloadReader) : Reads (r.decode zr sz) (w.encode zw sz data) data := by
  have hw : PayloadForm zw sz data (w.encode zw sz data) := by
    cases w with
    | payload => exact payloadForm_encPayload zw hlen
    | payloadPtr =>
      rw [PayloadWriter.encode, encPayloadPtr_eq zw hlen]
      exact payloadForm_encPayload zw hlen
  cases r with
  | payload => exact reads_decPayload hz hlen hw
  | payloadInto => exact reads_decPayloadInto hz hlen hw

/-- What a pointer to a payload leaves of a block that is too long. -/
theorem encPayloadPtr_take (zlib : Option Zlib) (sz : SizeT) (data : Bytes) :
    encPayloadPtr zlib sz data = encPayload zlib sz (data.take (data.length % sz.range)) := by
  have hle : data.length % sz.range ≤ data.length := Nat.mod_le _ _
  have hlt : data.length % sz.range < sz.range := Nat.mod_lt _ (range_pos sz)
  have hlen : (data.take (data.length % sz.range)).length = data.length % sz.range := by
    rw [List.length_take, min_eq_left hle]
  cases zlib with
  | none =>
    rw [encPayloadPtr, encPayload, hlen, Nat.mod_eq_of_lt hlt, List.take_take, min_self]
  | some z =>
    rw [encPayloadPtr, encPayload, hlen, Nat.mod_eq_of_lt hlt, List.take_take, min_self]

/-- A block of any length: as much of it arrives as its size field says. -/
theorem reads_payloadPtr_take {zw zr : Option Zlib} (hz : SameFormat zw zr) (sz : SizeT)
    (data : Bytes) (r : PayloadReader) :
    Reads (r.decode zr sz) (encPayloadPtr zw sz data) (data.take (data.length % sz.range)) := by
  have hlt : (data.take (data.length % sz.range)).length < sz.range := by
    rw [List.length_take]
    exact (min_le_left _ _).trans_lt (Nat.mod_lt _ (range_pos sz))
  rw [encPayloadPtr_take]
  exact reads_payload hz hlt .payload r

/-! ## Payloads that are too long -/

/-- Compressed bytes, if there are any, have room in their length field. -/
def CompressedFits (zlib : Option Zlib) (sz : SizeT) (data : Bytes) : Prop :=
  ∀ z, zlib = some z → (Compress z data).length < data.length → (Compress z data).length < sz.range

/-- The block of a payload: nothing is read for a size of zero. -/
theorem reads_block (w : Bytes) {n : ℕ} (h : w.length = n) :
    Reads (if n = 0 then pure [] else readBlock n) w w := by
  subst h
  exact reads_readBlock_or_nothing w

/-- The reader finds as many bytes as it looks for, and leaves some behind exactly if compressed
bytes were too many for their length field. -/
theorem exists_reads_encPayload {zw zr : Option Zlib} (hz : SameFormat zw zr) {sz : SizeT}
    (hsz : compressionSizeThreshold ≤ sz.range) (data : Bytes) :
    ∃ w x rest, encPayload zw sz data = w ++ rest ∧ Reads (decPayloadInto zr sz) w x ∧
      (rest = [] ↔ CompressedFits zw sz data) := by
  have hrange := range_pos sz
  have hmod : data.length % sz.range < sz.range := Nat.mod_lt _ hrange
  have hlen : (data.take (data.length % sz.range)).length = data.length % sz.range := by
    rw [List.length_take, min_eq_left (Nat.mod_le _ _)]
  cases hz with
  | plain =>
    refine ⟨_, data.take (data.length % sz.range), [], (List.append_nil _).symm, ?_, ?_⟩
    · exact (reads_decSize hmod).bind (reads_block _ hlen)
    · exact iff_of_true rfl fun z hz => nomatch hz
  | @zlib z zr hinv =>
    by_cases hc : compressionSizeThreshold ≤ data.length ∧ (Compress z data).length ≠ 0 ∧
        (Compress z data).length < data.length
    · have hn : ((Compress z data).take ((Compress z data).length % sz.range)).length =
          (Compress z data).length % sz.range := by
        rw [List.length_take, min_eq_left (Nat.mod_le _ _)]
      have hblock : ∃ x, Reads (if data.length % sz.range ≠ 0 then
            readBlock ((Compress z data).length % sz.range) >>= fun compressed =>
              pure (Decompress zr compressed (data.length % sz.range))
          else if (Compress z data).length % sz.range = 0 then pure []
          else readBlock ((Compress z data).length % sz.range))
          ((Compress z data).take ((Compress z data).length % sz.range)) x := by
        split
        · exact ⟨_, (reads_readBlock hn).map _⟩
        · exact ⟨_, reads_block _ hn⟩
      obtain ⟨x, hx⟩ := hblock
      refine ⟨_, x, (Compress z data).drop ((Compress z data).length % sz.range), ?_,
        (reads_decSize_mod _ _).bind ((reads_decSize_mod _ _).bind hx), ?_⟩
      · simp only [encPayload, if_pos hc, List.append_assoc, List.take_append_drop]
      · rw [List.drop_eq_nil_iff]
        constructor
        · intro hle z' hz' _
          rw [← Option.some.inj hz']
          exact hle.trans_lt (Nat.mod_lt _ hrange)
        · exact fun hfits => (Nat.mod_eq_of_lt (hfits z rfl hc.2.2)).ge
    · refine ⟨encSize sz 0 ++ encSize sz (data.length % sz.range) ++
        data.take (data.length % sz.range), data.take (data.length % sz.range), [], ?_, ?_, ?_⟩
      · simp only [encPayload, if_neg hc, List.append_nil]
      · rw [List.append_assoc]
        refine (reads_decSize hrange).bind ((reads_decSize hmod).bind ?_)
        rw [if_neg (by simp)]
        exact reads_block _ hlen
      · refine iff_of_true rfl fun z' hz' hlt => ?_
        rw [← Option.some.inj hz'] at hlt ⊢
        by_contra hge
        exact hc ⟨by omega, by omega, hlt⟩

/-- `uncompress` fills the output buffer. -/
def Zlib.Fills (zlib : Option Zlib) : Prop :=
  ∀ z, zlib = some z → ∀ data n, (z.uncompress data n).length = n

/-- A vector has as many elements as its size field says, however long the one was that has been
written.  Nothing is left behind unless compressed bytes were too many for their length field. -/
theorem exists_reads_decPayload_of_fits {zw zr : Option Zlib} (hz : SameFormat zw zr)
    (hfills : Zlib.Fills zr) (sz : SizeT) (data : Bytes) :
    ∃ w x rest, encPayload zw sz data = w ++ rest ∧ Reads (decPayload zr sz) w x ∧
      x.length < sz.range ∧ (CompressedFits zw sz data → rest = []) := by
  have hrange := range_pos sz
  have hmod (n : ℕ) : n % sz.range < sz.range := Nat.mod_lt _ hrange
  have hlen (b : Bytes) : (b.take (b.length % sz.range)).length = b.length % sz.range := by
    rw [List.length_take, min_eq_left (Nat.mod_le _ _)]
  cases hz with
  | plain =>
    refine ⟨_, data.take (data.length % sz.range), [], (List.append_nil _).symm, ?_, ?_,
      fun _ => rfl⟩
    · exact (reads_decSize (hmod _)).bind (reads_readBlock (hlen data))
    · rw [hlen]
      exact hmod _
  | @zlib z zr hinv =>
    by_cases hc : compressionSizeThreshold ≤ data.length ∧ (Compress z data).length ≠ 0 ∧
        (Compress z data).length < data.length
    · refine ⟨_, _, (Compress z data).drop ((Compress z data).length % sz.range), ?_,
        (reads_decSize_mod sz data.length).bind ((reads_decSize_mod _ _).bind
          ((reads_readBlock (hlen (Compress z data))).map _)), ?_, fun hfits => ?_⟩
      · simp only [encPayload, if_pos hc, List.append_assoc, List.take_append_drop]
      · split
        · rw [Decompress, hfills zr rfl]
          exact hmod _
        · rw [hlen]
          exact hmod _
      · rw [Nat.mod_eq_of_lt (hfits z rfl hc.2.2), List.drop_length]
    · refine ⟨encSize sz 0 ++ encSize sz (data.length % sz.range) ++
        data.take (data.length % sz.range), data.take (data.length % sz.range), [], ?_, ?_, ?_,
        fun _ => rfl⟩
      · simp only [encPayload, if_neg hc, List.append_nil]
      · rw [List.append_assoc]
        exact (reads_decSize hrange).bind ((reads_decSize (hmod _)).bind
          ((reads_readBlock (hlen data)).map _))
      · rw [hlen]
        exact hmod _

theorem exists_reads_decPayload {zw zr : Option Zlib} (hz : SameFormat zw zr)
    (hfills : Zlib.Fills zr)
    (sz : SizeT) (data : Bytes) :
    ∃ w x rest, encPayload zw sz data = w ++ rest ∧ Reads (decPayload zr sz) w x ∧
      x.length < sz.range := by
  obtain ⟨w, x, rest, hw, hx, hlen, -⟩ := exists_reads_decPayload_of_fits hz hfills sz data
  exact ⟨w, x, rest, hw, hx, hlen⟩

/-- All of a payload is read unless compressed bytes were too many. -/
theorem CompressedFits.exists_reads {zw zr : Option Zlib} {sz : SizeT} {data : Bytes}
    (h : CompressedFits zw sz data) (hz : SameFormat zw zr) (hfills : Zlib.Fills zr) :
    ∃ x, Reads (decPayload zr sz) (encPayload zw sz data) x ∧ x.length < sz.range := by
  obtain ⟨w, x, rest, hw, hx, hlen, hrest⟩ := exists_reads_decPayload_of_fits hz hfills sz data
  rw [hrest h, List.append_nil] at hw
  exact ⟨x, hw ▸ hx, hlen⟩

end RemoteCL

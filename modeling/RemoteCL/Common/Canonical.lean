import RemoteCL.Common.RoundTrip
import RemoteCL.Theory.Canonical

/-!
# What is accepted is well formed

`PacketKind.decode_encode` starts from a packet.  Here any bytes arrive.  No decoder refuses them:
it is done when `maxBytes` have arrived.  And what it has taken is the encoding of a packet whose
lists and strings have room in their length fields, byte for byte, up to one thing: a boolean is one
byte of which only zero is tested, so every other byte is read as `true`, which is written as 1.

So there is one way to write a packet without booleans, and a decoder can be made to read no more
than `maxBytes`, by whatever is sent.
-/

namespace RemoteCL

open ByteStream Wire

/-- A byte that has arrived, and the one that would have been written, where there is a boolean or
not. -/
def SameByte (boolean : Bool) (b b' : UInt8) : Prop := b' = b ∨ boolean = true ∧ b ≠ 0 ∧ b' = 1

/-- Bytes that have arrived, and those that would have been written.  The mask has an entry for each
byte, and says where the booleans are. -/
inductive SameBytes : List Bool → Bytes → Bytes → Prop
  | nil : SameBytes [] [] []
  | cons {boolean : Bool} {mask : List Bool} {b b' : UInt8} {w v : Bytes}
      (hb : SameByte boolean b b') (h : SameBytes mask w v) :
      SameBytes (boolean :: mask) (b :: w) (b' :: v)

/-- The mask of `n` bytes that are no booleans. -/
abbrev noBooleans (n : ℕ) : List Bool := List.replicate n false

namespace SameBytes

variable {mask mask' : List Bool} {w v w' v' : Bytes}

theorem refl (w : Bytes) : SameBytes (noBooleans w.length) w w := by
  induction w with
  | nil => exact .nil
  | cons b w ih => exact .cons (Or.inl rfl) ih

theorem append (h : SameBytes mask w w') (h' : SameBytes mask' v v') :
    SameBytes (mask ++ mask') (w ++ v) (w' ++ v') := by
  induction h with
  | nil => exact h'
  | cons hb _ ih => exact .cons hb ih

/-- Without booleans the bytes are the same. -/
theorem eq (h : SameBytes mask w v) (hmask : true ∉ mask) : w = v := by
  induction h with
  | nil => rfl
  | cons hb _ ih =>
    rcases hb with rfl | ⟨rfl, -⟩
    · rw [ih fun hmem => hmask (List.mem_cons_of_mem _ hmem)]
    · exact absurd List.mem_cons_self hmask

theorem eq_of_noBooleans {n : ℕ} (h : SameBytes (noBooleans n) w v) : w = v :=
  h.eq fun hmem => Bool.noConfusion (List.eq_of_mem_replicate hmem)

end SameBytes

/-! ## Fields -/

/-- A type of which every word that is long enough is the encoding of a value. -/
class CanonicalWire (α : Type) [Wire α] where
  size : ℕ
  /-- Where the booleans are. -/
  mask : List Bool
  takes_dec : (dec : Reader α).Takes size fun w a => SameBytes mask w (enc a)

open CanonicalWire

section Fields

variable {α β : Type} {m n : ℕ}

/-- The next field of a packet, for which there have to be bytes left. -/
theorem takes_field [Wire α] [CanonicalWire α] {f : α → Reader β} {R : Bytes → β → Prop}
    (hn : size α ≤ n)
    (h : ∀ w a, SameBytes (mask α) w (enc a) →
      (f a).Takes (n - size α) fun v b => R (w ++ v) b) : (dec >>= f).Takes n R :=
  (takes_dec.bind h).mono (Nat.add_sub_cancel' hn).le fun _ _ h => h

/-- There are no more fields. -/
theorem takes_end {a : α} {R : Bytes → α → Prop} (h : R [] a) : (Reader.done a).Takes n R :=
  (Reader.takes_done h).mono (Nat.zero_le n) fun _ _ h => h

/-- Two fields, one after the other. -/
instance [Wire α] [Wire β] : Wire (α × β) where
  enc fields := enc fields.1 ++ enc fields.2
  dec := do
    let a : α ← dec
    let b : β ← dec
    pure (a, b)

instance [Wire α] [CanonicalWire α] [Wire β] [CanonicalWire β] : CanonicalWire (α × β) where
  size := size α + size β
  mask := mask α ++ mask β
  takes_dec := takes_field (Nat.le_add_right _ _) fun w a ha =>
    takes_field (Nat.add_sub_cancel_left ..).ge fun v b hb => takes_end (by
      rw [List.append_nil]
      exact ha.append hb)

/-- A packet, from the tuple of its fields in the order in which they cross. -/
abbrev CanonicalWire.ofFields [Wire α] [CanonicalWire α] [Wire β] (f : α → β)
    (hdec : (dec : Reader β) = dec >>= fun fields => pure (f fields))
    (henc : ∀ fields, enc (f fields) = enc fields) : CanonicalWire β where
  size := size α
  mask := mask α
  takes_dec := by
    rw [hdec]
    refine takes_field (Nat.le_refl _) fun w fields hw => takes_end ?_
    rwa [List.append_nil, henc]

/-- A block of little-endian bytes. -/
theorem takes_leBytes {f : ℕ → α} {g : α → ℕ} (hfg : ∀ v < 256 ^ n, g (f v) = v) :
    (Reader.take n fun b => Reader.done (f (leValue b))).Takes n
      fun w a => SameBytes (noBooleans n) w (leBytes n (g a)) :=
  Reader.takes_take fun b hb => by
    have hlt : leValue b < 256 ^ n := hb ▸ leValue_lt b
    rw [hfg _ hlt, leBytes_of_length hb rfl, ← hb]
    exact .refl b

instance : CanonicalWire UInt8 :=
  ⟨1, noBooleans 1, takes_leBytes fun _ hv => UInt8.toNat_ofNat_of_lt' hv⟩

instance : CanonicalWire UInt16 :=
  ⟨2, noBooleans 2, takes_leBytes fun _ hv => UInt16.toNat_ofNat_of_lt' hv⟩

instance : CanonicalWire UInt32 :=
  ⟨4, noBooleans 4, takes_leBytes fun _ hv => UInt32.toNat_ofNat_of_lt' hv⟩

instance : CanonicalWire UInt64 :=
  ⟨8, noBooleans 8, takes_leBytes fun _ hv => UInt64.toNat_ofNat_of_lt' hv⟩

instance : CanonicalWire Int32 :=
  .ofFields UInt32.toInt32 rfl fun x => by
    show enc x.toInt32.toUInt32 = enc x
    rw [UInt32.toUInt32_toInt32]

theorem enc_uint8 (x : UInt8) : enc x = [x] := by
  show [UInt8.ofNat x.toNat] = [x]
  rw [UInt8.ofNat_toNat]

/-- Every byte but zero is `true`. -/
instance : CanonicalWire Bool where
  size := 1
  mask := [true]
  takes_dec := takes_field (Nat.le_refl _) fun w x hw => takes_end (by
    show SameBytes [true] (w ++ []) (enc (if x != 0 then 1 else 0 : UInt8))
    rw [SameBytes.eq_of_noBooleans hw, List.append_nil, enc_uint8, enc_uint8]
    refine .cons ?_ .nil
    by_cases hx : x = 0
    · subst hx
      exact Or.inl rfl
    · rw [if_pos (by simpa using hx)]
      exact Or.inr ⟨rfl, hx, rfl⟩)

theorem takes_decArray [Wire α] [CanonicalWire α] (n : ℕ) :
    (decArray α n).Takes (n * size α)
      fun w a => SameBytes (List.replicate n (mask α)).flatten w (a.toList.flatMap enc) := by
  induction n with
  | zero =>
    rw [Nat.zero_mul]
    exact Reader.takes_done .nil
  | succ n ih =>
    rw [Nat.succ_mul]
    refine ih.bind fun w v hv => ?_
    refine takes_field (Nat.le_refl _) fun w' a ha => takes_end ?_
    rw [List.append_nil, Vector.toList_push, List.flatMap_append, List.flatMap_singleton,
      List.replicate_succ', List.flatten_append, List.flatten_singleton]
    exact hv.append ha

instance [Wire α] [CanonicalWire α] : CanonicalWire (Vector α n) :=
  ⟨n * size α, (List.replicate n (mask α)).flatten, takes_decArray n⟩

theorem mask_bytes : mask (Vector UInt8 n) = noBooleans n := by
  show (List.replicate n [false]).flatten = List.replicate n false
  rw [List.flatten_replicate_singleton]

instance (T : Scalar) : CanonicalWire T.Value :=
  match T with
  | .uint8 => inferInstanceAs (CanonicalWire UInt8)
  | .uint16 => inferInstanceAs (CanonicalWire UInt16)
  | .uint32 => inferInstanceAs (CanonicalWire UInt32)
  | .uint64 => inferInstanceAs (CanonicalWire UInt64)
  | .int32 => inferInstanceAs (CanonicalWire Int32)

end Fields

/-! ## Lists and strings -/

section Lists

variable {α : Type} {n : ℕ}

theorem takes_decSize (sz : SizeT) :
    (decSize sz).Takes sz.bytes fun w k => k < sz.range ∧ w = encSize sz k :=
  Reader.takes_take fun b hb =>
    ⟨by rw [SizeT.range, ← hb]; exact leValue_lt b, (leBytes_of_length hb rfl).symm⟩

/-- A list of items of no more than `n` bytes. -/
theorem takes_decList_of [Wire α] {P : α → Prop} (sz : SizeT)
    (h : (dec : Reader α).Takes n fun w a => P a ∧ w = enc a) :
    (decList α sz).Takes (sz.bytes + (sz.range - 1) * n) fun w C =>
      (C.length < sz.range ∧ ∀ a ∈ C, P a) ∧ w = encList sz C := by
  refine (takes_decSize sz).bind fun w k hk => ?_
  obtain ⟨hlt, rfl⟩ := hk
  refine (Reader.takes_readN h k).mono (Nat.mul_le_mul_right _ (by omega)) fun v C hC => ?_
  obtain ⟨hlen, hP, rfl⟩ := hC
  refine ⟨⟨hlen ▸ hlt, hP⟩, ?_⟩
  rw [encList, hlen]

/-- A list of items without booleans. -/
theorem takes_decList [Wire α] [CanonicalWire α] (sz : SizeT)
    (hmask : mask α = noBooleans (size α)) :
    (decList α sz).Takes (sz.bytes + (sz.range - 1) * size α) fun w C =>
      C.length < sz.range ∧ w = encList sz C :=
  (takes_decList_of (P := fun _ => True) sz
    (takes_dec.mono (Nat.le_refl _) fun _ _ h =>
      ⟨trivial, SameBytes.eq_of_noBooleans (hmask ▸ h)⟩)).mono (Nat.le_refl _)
      fun _ _ h => ⟨h.1.1, h.2⟩

theorem takes_decString :
    decString.Takes 65537 fun w s => StringFits s ∧ w = encString s := by
  refine (takes_decList (α := UInt8) .uint16 rfl).mono (by decide) fun w s h => ?_
  rw [encList, flatMap_enc_uint8] at h
  exact ⟨Nat.le_of_lt_succ h.1, h.2⟩

theorem takes_wireString :
    (dec : Reader WireString).Takes 65537 fun w s => StringFits s.chars ∧ w = enc s := by
  rw [← Nat.add_zero 65537]
  refine takes_decString.bind fun w s h => Reader.takes_done ?_
  rw [List.append_nil]
  exact h

end Lists

/-! ## Packets -/

section Packets

variable {ty : PacketType} {T : Type}

instance [Wire T] [CanonicalWire T] : CanonicalWire (SimplePacket ty T) :=
  .ofFields SimplePacket.mk rfl fun _ => rfl

instance : CanonicalWire (SignalPacket ty) := ⟨0, [], takes_end .nil⟩

/-- The packet crosses as one block. -/
instance : CanonicalWire VersionPacket where
  size := 64
  mask := noBooleans 64
  takes_dec := Reader.takes_take fun b hb => by
    have hlist : (Vector.ofFn fun i : Fin 64 => b.getD i 0).toList = b := by
      refine List.ext_getElem (by rw [Vector.length_toList, hb]) fun i hi hib => ?_
      simp [List.getElem?_eq_getElem hib]
    show SameBytes (noBooleans 64) b (Vector.ofFn fun i : Fin 64 => b.getD i 0).toList
    rw [hlist, ← hb]
    exact .refl b

instance [Wire T] [CanonicalWire T] : CanonicalWire (IDTypePair ty T) :=
  .ofFields (fun (f : T × IDType) => ⟨f.2, f.1⟩) (by
    show IDTypePair.decode = _
    simp only [IDTypePair.decode, dec, bind_assoc, pure_bind]) fun _ => rfl

instance : CanonicalWire (RefCount ty) :=
  .ofFields (fun (f : UInt8 × IDType) => ⟨f.2, f.1⟩) rfl fun _ => rfl

instance : CanonicalWire GetDeviceIDs :=
  .ofFields (fun (f : UInt64 × IDType) => ⟨f.2, f.1⟩) rfl fun _ => rfl

instance : CanonicalWire RegisterEventCallback :=
  .ofFields (fun (f : IDType × IDType × UInt32) =>
    { mEventID := f.1, mCallbackID := f.2.1, mCBType := f.2.2 })
    (by simp only [dec, RegisterEventCallback.decode, bind_assoc, pure_bind])
    fun _ => by simp only [enc, RegisterEventCallback.encode, List.append_assoc]

instance : CanonicalWire GetImageFormats :=
  .ofFields (fun (f : IDType × UInt32 × UInt32) =>
    { mContextID := f.1, mFlags := f.2.1, mImageType := f.2.2 })
    (by simp only [dec, GetImageFormats.decode, bind_assoc, pure_bind])
    fun _ => by simp only [enc, GetImageFormats.encode, List.append_assoc]

instance : CanonicalWire CreateQueue :=
  .ofFields (fun (f : IDType × IDType × UInt32) =>
    { mContext := f.1, mDevice := f.2.1, mProp := f.2.2 })
    (by simp only [dec, CreateQueue.decode, bind_assoc, pure_bind])
    fun _ => by simp only [enc, CreateQueue.encode, List.append_assoc]

instance : CanonicalWire KernelArg :=
  .ofFields (fun (f : IDType × UInt32) =>
    { mKernelID := f.1, mArgIndex := f.2 })
    (by simp only [dec, KernelArg.decode, bind_assoc, pure_bind])
    fun _ => rfl

instance : CanonicalWire KernelArgInfo :=
  .ofFields (fun (f : IDType × UInt32 × UInt32) =>
    { mKernelID := f.1, mArgIndex := f.2.1, mParam := f.2.2 })
    (by simp only [dec, KernelArgInfo.decode, bind_assoc, pure_bind])
    fun _ => by simp only [enc, KernelArgInfo.encode, List.append_assoc]

instance : CanonicalWire KernelWGInfo :=
  .ofFields (fun (f : IDType × IDType × UInt32) =>
    { mKernelID := f.1, mDeviceID := f.2.1, mParam := f.2.2 })
    (by simp only [dec, KernelWGInfo.decode, bind_assoc, pure_bind])
    fun _ => by simp only [enc, KernelWGInfo.encode, List.append_assoc]

instance : CanonicalWire CreateKernels :=
  .ofFields (fun (f : IDType × UInt32) =>
    { mProgramID := f.1, mKernelCount := f.2 })
    (by simp only [dec, CreateKernels.decode, bind_assoc, pure_bind])
    fun _ => rfl

instance : CanonicalWire ProgramBuildInfo :=
  .ofFields (fun (f : UInt32 × IDType × IDType) =>
    { mParam := f.1, mProgramID := f.2.1, mDeviceID := f.2.2 })
    (by simp only [dec, ProgramBuildInfo.decode, bind_assoc, pure_bind])
    fun _ => by simp only [enc, ProgramBuildInfo.encode, List.append_assoc]

instance : CanonicalWire CreateBuffer :=
  .ofFields (fun (f : UInt32 × UInt32 × IDType × Bool) =>
    { mFlags := f.1, mSize := f.2.1, mContextID := f.2.2.1, mExpectPayload := f.2.2.2 })
    (by simp only [dec, CreateBuffer.decode, bind_assoc, pure_bind])
    fun _ => by simp only [enc, CreateBuffer.encode, List.append_assoc]

instance : CanonicalWire CreateSubBuffer :=
  .ofFields (fun (f : UInt32 × UInt32 × UInt32 × UInt32 × IDType) =>
    { mFlags := f.1, mSize := f.2.1, mOffset := f.2.2.1, mCreateType := f.2.2.2.1,
      mBufferID := f.2.2.2.2 })
    (by simp only [dec, CreateSubBuffer.decode, bind_assoc, pure_bind])
    fun _ => by simp only [enc, CreateSubBuffer.encode, List.append_assoc]

instance : CanonicalWire CreateImage :=
  .ofFields (fun (f : UInt32 × UInt32 × UInt32 × UInt32 × UInt32 × UInt32 × UInt32 × UInt32 ×
      UInt32 × UInt32 × UInt32 × UInt32 × IDType) =>
    { mFlags := f.1, mChannelOrder := f.2.1, mChannelType := f.2.2.1, mImageType := f.2.2.2.1,
      mWidth := f.2.2.2.2.1, mHeight := f.2.2.2.2.2.1, mDepth := f.2.2.2.2.2.2.1,
      mArraySize := f.2.2.2.2.2.2.2.1, mRowPitch := f.2.2.2.2.2.2.2.2.1,
      mSlicePitch := f.2.2.2.2.2.2.2.2.2.1, mMipLevels := f.2.2.2.2.2.2.2.2.2.2.1,
      mSamples := f.2.2.2.2.2.2.2.2.2.2.2.1, mContextID := f.2.2.2.2.2.2.2.2.2.2.2.2 })
    (by simp only [dec, CreateImage.decode, bind_assoc, pure_bind])
    fun _ => by simp only [enc, CreateImage.encode, List.append_assoc]

instance : CanonicalWire EnqueueKernel :=
  .ofFields (fun (f : IDType × IDType × UInt8 × Coords × Coords × Coords × Bool × Bool) =>
    { mKernelID := f.1, mQueueID := f.2.1, mWorkDim := f.2.2.1, mGlobalSize := f.2.2.2.1,
      mGlobalOffset := f.2.2.2.2.1, mLocalSize := f.2.2.2.2.2.1, mWantEvent := f.2.2.2.2.2.2.1,
      mExpectEventList := f.2.2.2.2.2.2.2 })
    (by simp only [dec, EnqueueKernel.decode, bind_assoc, pure_bind])
    fun _ => by simp only [enc, EnqueueKernel.encode, List.append_assoc]

instance : CanonicalWire (ImageRW ty) :=
  .ofFields (fun (f : IDType × IDType × Coords × Coords × UInt32 × UInt32 × Bool × Bool × Bool) =>
    { mImageID := f.1, mQueueID := f.2.1, mOrigin := f.2.2.1, mRegion := f.2.2.2.1,
      mRowPitch := f.2.2.2.2.1, mSlicePitch := f.2.2.2.2.2.1, mWantEvent := f.2.2.2.2.2.2.1,
      mExpectEventList := f.2.2.2.2.2.2.2.1, mBlock := f.2.2.2.2.2.2.2.2 })
    (by simp only [dec, ImageRW.decode, bind_assoc, pure_bind])
    fun _ => by simp only [enc, ImageRW.encode, List.append_assoc]

instance : CanonicalWire (BufferRW ty) :=
  .ofFields (fun (f : IDType × IDType × UInt32 × UInt32 × Bool × Bool × Bool) =>
    { mBufferID := f.1, mQueueID := f.2.1, mSize := f.2.2.1, mOffset := f.2.2.2.1,
      mWantEvent := f.2.2.2.2.1, mExpectEventList := f.2.2.2.2.2.1, mBlock := f.2.2.2.2.2.2 })
    (by simp only [dec, BufferRW.decode, bind_assoc, pure_bind])
    fun _ => by simp only [enc, BufferRW.encode, List.append_assoc]

instance : CanonicalWire (BufferRectRW ty) :=
  .ofFields (fun (f : IDType × IDType × Coords × Coords × Coords × UInt32 × UInt32 × UInt32 ×
      UInt32 × Bool × Bool × Bool) =>
    { mBufferID := f.1, mQueueID := f.2.1, mBufferOrigin := f.2.2.1, mHostOrigin := f.2.2.2.1,
      mRegion := f.2.2.2.2.1, mBufferRowPitch := f.2.2.2.2.2.1,
      mBufferSlicePitch := f.2.2.2.2.2.2.1, mHostRowPitch := f.2.2.2.2.2.2.2.1,
      mHostSlicePitch := f.2.2.2.2.2.2.2.2.1, mWantEvent := f.2.2.2.2.2.2.2.2.2.1,
      mExpectEventList := f.2.2.2.2.2.2.2.2.2.2.1, mBlock := f.2.2.2.2.2.2.2.2.2.2.2 })
    (by simp only [dec, BufferRectRW.decode, bind_assoc, pure_bind])
    fun _ => by simp only [enc, BufferRectRW.encode, List.append_assoc]

instance : CanonicalWire FillBuffer :=
  .ofFields (fun (f : IDType × IDType × UInt32 × UInt32 × UInt8 × Bool × Bool × Vector UInt8
      128) =>
    { mBufferID := f.1, mQueueID := f.2.1, mSize := f.2.2.1, mOffset := f.2.2.2.1,
      mPatternSize := f.2.2.2.2.1, mWantEvent := f.2.2.2.2.2.1,
      mExpectEventList := f.2.2.2.2.2.2.1, mPattern := f.2.2.2.2.2.2.2 })
    (by simp only [dec, FillBuffer.decode, bind_assoc, pure_bind])
    fun _ => by simp only [enc, FillBuffer.encode, List.append_assoc]

/-! ### Packets with lists and strings -/

theorem takes_idListPacket :
    (dec : Reader IDListPacket).Takes 511 fun w p => p.mIDs.length ≤ 255 ∧ w = enc p :=
  (takes_decList (α := IDType) .uint8 rfl).bind fun w mIDs h => takes_end (n := 0) (by
    rw [List.append_nil]
    exact ⟨Nat.le_of_lt_succ h.1, h.2⟩)

/-- The next field, which is no boolean. -/
theorem takes_exactField {α β : Type} {n : ℕ} [Wire α] [CanonicalWire α] {f : α → Reader β}
    {R : Bytes → β → Prop} (hn : size α ≤ n) (hmask : mask α = noBooleans (size α))
    (h : ∀ a, (f a).Takes (n - size α) fun v b => R (enc a ++ v) b) : (dec >>= f).Takes n R :=
  takes_field hn fun w a hw => by
    rw [hmask] at hw
    rw [hw.eq_of_noBooleans]
    exact h a

theorem takes_idStringPair : (dec : Reader (IDStringPair ty)).Takes 65539 fun w p =>
    p.mString.length ≤ 65535 ∧ w = enc p :=
  takes_exactField (by decide) rfl fun mID => takes_decString.bind fun v mString hv =>
    takes_end (n := 0) (by
      rw [List.append_nil, hv.2]
      exact ⟨hv.1, rfl⟩)

theorem takes_createContextFromType : (dec : Reader CreateContextFromType).Takes 2049 fun w p =>
    p.mProperties.length ≤ 255 ∧ w = enc p :=
  takes_exactField (by decide) rfl fun mDeviceType =>
    (takes_decList (α := UInt64) .uint8 rfl).bind fun v mProperties hv => takes_end (n := 0) (by
      rw [List.append_nil, hv.2]
      exact ⟨Nat.le_of_lt_succ hv.1, rfl⟩)

theorem takes_createContext : (dec : Reader CreateContext).Takes 133113 fun w p =>
    (p.mProperties.length ≤ 255 ∧ p.mDevices.length ≤ 65535) ∧ w = enc p :=
  (takes_decList (α := UInt64) .uint8 rfl).bind fun w mProperties hw =>
    (takes_decList (α := UInt16) .uint16 rfl).bind fun v mDevices hv => takes_end (n := 0) (by
      rw [List.append_nil, hw.2, hv.2]
      exact ⟨⟨Nat.le_of_lt_succ hw.1, Nat.le_of_lt_succ hv.1⟩, rfl⟩)

theorem takes_createQueueWithProp : (dec : Reader CreateQueueWithProp).Takes 2045 fun w p =>
    p.mProperties.length ≤ 255 ∧ w = enc p :=
  takes_exactField (by decide) rfl fun mContext => takes_exactField (by decide) rfl fun mDevice =>
    (takes_decList (α := UInt64) .uint8 rfl).bind fun w mProperties hw => takes_end (n := 0) (by
      show _ ∧ _ = CreateQueueWithProp.encode _
      simp only [CreateQueueWithProp.encode, List.append_assoc, List.append_nil, hw.2]
      exact ⟨Nat.le_of_lt_succ hw.1, trivial⟩)

/-- The fields of the packet before the boolean. -/
def CompileProgram.encodeLists (p : CompileProgram) : Bytes :=
  enc p.mProgramID ++ encString p.mOptions ++ encList .uint8 p.mDeviceIDs ++
    encList .uint8 p.mHeaderIDs ++ encList .uint8 p.mHeaderNames

/-- The ID of the callback stands behind the boolean, if there is one. -/
def CompileProgram.mask (p : CompileProgram) : List Bool :=
  noBooleans p.encodeLists.length ++ true :: if p.mHasCallback then noBooleans 2 else []

theorem takes_compileProgram (fresh : IDType) :
    (CompileProgram.decode fresh).Takes 16778500 fun w p =>
      PacketKind.Fits .compileProgram p ∧ SameBytes p.mask w p.encode := by
  refine takes_exactField (by decide) rfl fun mProgramID => ?_
  refine takes_decString.bind (m := 16712961) fun w₂ mOptions h₂ => ?_
  refine (takes_decList (α := IDType) .uint8 rfl).bind (m := 16712450) fun w₃ mDeviceIDs h₃ => ?_
  refine (takes_decList (α := IDType) .uint8 rfl).bind (m := 16711939) fun w₄ mHeaderIDs h₄ => ?_
  refine (takes_decList_of .uint8 takes_wireString).bind (m := 3) fun w₅ mHeaderNames h₅ => ?_
  refine takes_field (by decide) fun w₆ mHasCallback h₆ => ?_
  have hfits {mCallbackID : IDType} : PacketKind.Fits .compileProgram
      ⟨mProgramID, mOptions, mDeviceIDs, mHeaderIDs, mHeaderNames, mHasCallback, mCallbackID⟩ :=
    ⟨h₂.1, Nat.le_of_lt_succ h₃.1, Nat.le_of_lt_succ h₄.1, Nat.le_of_lt_succ h₅.1.1, h₅.1.2⟩
  rw [h₂.2, h₃.2, h₄.2, h₅.2]
  simp only [← List.append_assoc]
  have hbytes := (SameBytes.refl (enc mProgramID ++ encString mOptions ++
    encList .uint8 mDeviceIDs ++ encList .uint8 mHeaderIDs ++
    encList .uint8 mHeaderNames)).append h₆
  -- the ID of the callback is there only if there is one
  cases mHasCallback with
  | false =>
    refine takes_end ⟨hfits, ?_⟩
    show SameBytes (noBooleans _ ++ [true]) (_ ++ []) (_ ++ [])
    rw [List.append_nil, List.append_nil]
    exact hbytes
  | true =>
    refine takes_field (by decide) fun w₇ mCallbackID h₇ => takes_end ⟨hfits, ?_⟩
    rw [List.append_nil]
    have hall := hbytes.append h₇
    rwa [List.append_assoc (noBooleans _)] at hall

theorem takes_linkProgram : (dec : Reader LinkProgram).Takes 66561 fun w p =>
    PacketKind.Fits .linkProgram p ∧ w = enc p := by
  refine takes_exactField (by decide) rfl fun mContext => ?_
  refine takes_decString.bind (m := 1022) fun w₂ mOptions h₂ => ?_
  refine (takes_decList (α := IDType) .uint8 rfl).bind (m := 511) fun w₃ mDeviceIDs h₃ => ?_
  refine (takes_decList (α := IDType) .uint8 rfl).bind (m := 0) fun w₄ mProgramIDs h₄ => ?_
  refine takes_end ?_
  show _ ∧ _ = LinkProgram.encode _
  simp only [LinkProgram.encode, List.append_assoc, List.append_nil, h₂.2, h₃.2, h₄.2]
  exact ⟨⟨h₂.1, Nat.le_of_lt_succ h₃.1, Nat.le_of_lt_succ h₄.1⟩, trivial⟩

end Packets

/-! ## Every kind of packet -/

namespace PacketKind

/-- The number of bytes that the body of a packet of a kind has at most. -/
def maxBytes : PacketKind → ℕ
  | simple _ T => size T.Value
  | signal _ => 0
  | idList => 511
  | idTypePair _ T => size T.Value + 2
  | idStringPair _ => 65539
  | refCount _ => 3
  | getDeviceIDs => 10
  | createContextFromType => 2049
  | createContext => 133113
  | getImageFormats => 10
  | createQueue => 8
  | createQueueWithProp => 2045
  | kernelArg => 6
  | kernelArgInfo => 10
  | kernelWGInfo => 8
  | createKernels => 6
  | programBuildInfo => 8
  | compileProgram => 16778500
  | linkProgram => 66561
  | createBuffer => 11
  | createSubBuffer => 18
  | createImage => 50
  | enqueueKernel => 43
  | imageRW _ => 39
  | bufferRW _ => 15
  | bufferRectRW _ => 59
  | fillBuffer => 143
  | registerEventCallback => 8
  | version => 64

/-- Where in the encoding of a packet the booleans are. -/
def mask : (k : PacketKind) → k.Value → List Bool
  | compileProgram, p => CompileProgram.mask p
  | createBuffer, _ => noBooleans 10 ++ [true]
  | enqueueKernel, _ => noBooleans 41 ++ [true, true]
  | imageRW _, _ => noBooleans 36 ++ [true, true, true]
  | bufferRW _, _ => noBooleans 12 ++ [true, true, true]
  | bufferRectRW _, _ => noBooleans 56 ++ [true, true, true]
  | fillBuffer, _ => noBooleans 13 ++ [true, true] ++ noBooleans 128
  | k, p => noBooleans (k.encode p).length

/-- A packet kind with fields only. -/
theorem takes_decode_of_fields {k : PacketKind} [CanonicalWire k.Value]
    (hsize : size k.Value = k.maxBytes) (hmask : ∀ p, k.mask p = CanonicalWire.mask k.Value)
    (hfits : ∀ p, k.Fits p) :
    (dec : Reader k.Value).Takes k.maxBytes fun w p =>
      k.Fits p ∧ SameBytes (k.mask p) w (k.encode p) :=
  takes_dec.mono hsize.le fun _ p h => ⟨hfits p, (hmask p).symm ▸ h⟩

/-- A packet kind without booleans. -/
theorem takes_decode_of_exact {k : PacketKind} {fresh : IDType}
    (hmask : ∀ p, k.mask p = noBooleans (k.encode p).length)
    (h : (k.decode fresh).Takes k.maxBytes fun w p => k.Fits p ∧ w = k.encode p) :
    (k.decode fresh).Takes k.maxBytes fun w p =>
      k.Fits p ∧ SameBytes (k.mask p) w (k.encode p) :=
  h.mono (Nat.le_refl _) fun w p hp => by
    rw [hmask, hp.2]
    exact ⟨hp.1, .refl _⟩

/-- A packet kind with fields only, and without booleans. -/
theorem takes_decode_of_size {k : PacketKind} [CanonicalWire k.Value] {fresh : IDType}
    (hdecode : k.decode fresh = (dec : Reader k.Value)) (hsize : size k.Value = k.maxBytes)
    (hmask : CanonicalWire.mask k.Value = noBooleans (size k.Value))
    (hexact : ∀ p, k.mask p = noBooleans (k.encode p).length) (hfits : ∀ p, k.Fits p) :
    (k.decode fresh).Takes k.maxBytes fun w p =>
      k.Fits p ∧ SameBytes (k.mask p) w (k.encode p) :=
  takes_decode_of_exact hexact (hdecode ▸ takes_dec.mono hsize.le fun _ p h =>
    ⟨hfits p, SameBytes.eq_of_noBooleans (hmask ▸ h)⟩)

theorem takes_decode (k : PacketKind) (fresh : IDType) :
    (k.decode fresh).Takes k.maxBytes fun w p =>
      k.Fits p ∧ SameBytes (k.mask p) w (k.encode p) := by
  cases k with
  | idList => exact takes_decode_of_exact (fun _ => rfl) takes_idListPacket
  | idStringPair => exact takes_decode_of_exact (fun _ => rfl) takes_idStringPair
  | createContextFromType => exact takes_decode_of_exact (fun _ => rfl) takes_createContextFromType
  | createContext => exact takes_decode_of_exact (fun _ => rfl) takes_createContext
  | createQueueWithProp => exact takes_decode_of_exact (fun _ => rfl) takes_createQueueWithProp
  | compileProgram => exact takes_compileProgram fresh
  | linkProgram => exact takes_decode_of_exact (fun _ => rfl) takes_linkProgram
  | fillBuffer =>
    refine takes_decode_of_fields rfl (fun _ => ?_) fun _ => trivial
    exact congrArg (noBooleans 13 ++ [true, true] ++ ·) mask_bytes.symm
  | createBuffer | enqueueKernel | imageRW | bufferRW | bufferRectRW =>
    exact takes_decode_of_fields rfl (fun _ => rfl) fun _ => trivial
  | simple ty T =>
    cases T <;> exact takes_decode_of_size rfl rfl rfl (fun _ => rfl) fun _ => trivial
  | idTypePair ty T =>
    cases T <;> exact takes_decode_of_size rfl rfl rfl (fun _ => rfl) fun _ => trivial
  | _ => exact takes_decode_of_size rfl rfl rfl (fun _ => rfl) fun _ => trivial

/-- **What is accepted is well formed**, for every kind of packet and all bytes: a decoder is done
when `maxBytes` have arrived, and it has taken the encoding of a packet that fits, byte for byte but
for the bytes of its booleans; what stands behind is left unread. -/
theorem accepted_wellFormed (k : PacketKind) (fresh : IDType) (u : Bytes) :
    (k.maxBytes ≤ u.length → ∃ p rest, (k.decode fresh).run u = some (p, rest)) ∧
      ∀ p rest, (k.decode fresh).run u = some (p, rest) →
        ∃ w, u = w ++ rest ∧ w.length ≤ k.maxBytes ∧ k.Fits p ∧
          SameBytes (k.mask p) w (k.encode p) ∧ (true ∉ k.mask p → w = k.encode p) := by
  have htakes := takes_decode k fresh
  refine ⟨fun hu => ?_, fun p rest hrun => ?_⟩
  · obtain ⟨⟨p, rest⟩, hrun⟩ := htakes.total hu
    exact ⟨p, rest, hrun⟩
  · obtain ⟨w, hu, hw, hfits, hsame⟩ := htakes.sound hrun
    exact ⟨w, hu, hw, hfits, hsame, hsame.eq⟩

/-- The request for a buffer of 16 bytes, with 7 for its boolean: a 1 would have been written there,
and every other byte is the one that would have been written. -/
theorem accepted_wellFormed_createBuffer :
    SameBytes (noBooleans 10 ++ [true]) [1, 0, 0, 0, 16, 0, 0, 0, 5, 0, 7]
      [1, 0, 0, 0, 16, 0, 0, 0, 5, 0, 1] := by
  have hread : (createBuffer.decode 0).run [1, 0, 0, 0, 16, 0, 0, 0, 5, 0, 7, 9] =
      some ((⟨1, 16, 5, true⟩ : CreateBuffer), [9]) := by decide
  obtain ⟨w, hw, -, -, hsame, -⟩ :=
    (accepted_wellFormed createBuffer 0 [1, 0, 0, 0, 16, 0, 0, 0, 5, 0, 7, 9]).2 _ _ hread
  obtain rfl : [1, 0, 0, 0, 16, 0, 0, 0, 5, 0, 7] = w := List.append_cancel_right hw
  exact hsame

end PacketKind

end RemoteCL

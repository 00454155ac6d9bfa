import RemoteCL.Server.Memory
import RemoteCL.Theory.Layout

/-!
# Sizes of staging buffers

The driver reads and writes the memory of the host through a pointer.  In the server this is a
vector, whose size is computed from the request, by a formula of its own in each handler.  Where the
driver goes is a box (`Layout.Box`): the OpenCL rules say how the origin, the region and the pitches
of a request give one, and that pitches for which rows or slices would overlap are refused.

The formula for a rectangle of a buffer leaves the origin out.  Those for images leave the pitches
out, and the one for a new image the layers of an array as well.  A product that is narrowed to 32
or 64 bits is too small when it wraps around.
-/

namespace RemoteCL

open Layout

namespace ServerInstance

/-! ## Rectangles -/

/-- A rectangle in a linear memory.  Missing pitches are those of a rectangle without gaps. -/
def rectBox (origin region : ℕ × ℕ × ℕ) (row_pitch slice_pitch : ℕ) : Box :=
  let row := if 0 < row_pitch then row_pitch else region.1
  let slice := if 0 < slice_pitch then slice_pitch else region.2.1 * row
  { base := origin.2.2 * slice + origin.2.1 * row + origin.1
    row
    slice
    width := region.1
    height := region.2.1
    depth := region.2.2 }

@[simp] theorem rectBox_zero_base (region : ℕ × ℕ × ℕ) (row_pitch slice_pitch : ℕ) :
    (rectBox (0, 0, 0) region row_pitch slice_pitch).base = 0 := by
  simp only [rectBox, Nat.zero_mul]

/-- Coordinates as numbers. -/
def coordsNat (xs : Coords) : ℕ × ℕ × ℕ := (xs.x.toNat, xs.y.toNat, xs.z.toNat)

/-- Where the driver writes a rectangle that it reads from a buffer. -/
def hostBox (p : ReadBufferRect) : Box :=
  rectBox (coordsNat p.mHostOrigin) (coordsNat p.mRegion) p.mHostRowPitch.toNat
    p.mHostSlicePitch.toNat

/-- Where it reads the rectangle in the buffer. -/
def bufferBox (p : ReadBufferRect) : Box :=
  rectBox (coordsNat p.mBufferOrigin) (coordsNat p.mRegion) p.mBufferRowPitch.toNat
    p.mBufferSlicePitch.toNat

/-- The handler computes the pitches as the driver does. -/
theorem rectSize_eq (p : ReadBufferRect) :
    rectSize p = (hostBox p).slice * (hostBox p).depth % 2 ^ 64 := by
  rw [rectSize, hostBox, rectBox]
  simp only [UInt32.lt_iff_toNat_lt, coordsNat]
  rfl

/-- If there is a vector, everything that the driver writes lies in it. -/
def RectCovered (p : ReadBufferRect) : Prop :=
  rectSize p ≤ vectorMaxSize → (hostBox p).Within (rectSize p)

theorem slice_hostBox_lt (p : ReadBufferRect) : (hostBox p).slice < 2 ^ 64 := by
  have hrow : (hostBox p).row < 2 ^ 32 := by
    simp only [hostBox, rectBox]
    split
    · exact p.mHostRowPitch.toNat_lt
    · exact p.mRegion.x.toNat_lt
  by_cases hpitch : 0 < p.mHostSlicePitch.toNat
  · calc (hostBox p).slice
      _ = p.mHostSlicePitch.toNat := if_pos hpitch
      _ < 2 ^ 64 := p.mHostSlicePitch.toNat_lt.trans (by decide)
  · calc (hostBox p).slice
      _ = p.mRegion.y.toNat * (hostBox p).row := if_neg hpitch
      _ < 2 ^ 32 * 2 ^ 32 := Nat.mul_lt_mul'' p.mRegion.y.toNat_lt hrow
      _ = 2 ^ 64 := by decide

/-- The memory of some slices, without the last one. -/
theorem slices_eq (slice : ℕ) {n : ℕ} (hn : 0 < n) : slice * n = (n - 1) * slice + slice := by
  rw [Nat.mul_comm, ← Nat.succ_mul, Nat.succ_eq_add_one, Nat.sub_add_cancel hn]

/-- The rectangle lies in the first slices of the memory exactly if it starts in the first one and
does not reach over its end. -/
theorem last_hostBox_lt_iff (p : ReadBufferRect) (hempty : ¬ (hostBox p).Empty) :
    (hostBox p).last < (hostBox p).slice * (hostBox p).depth ↔
      p.mHostOrigin.z.toNat = 0 ∧
        (p.mHostOrigin.y.toNat + (p.mRegion.y.toNat - 1)) * (hostBox p).row +
          (p.mHostOrigin.x.toNat + p.mRegion.x.toNat) ≤ (hostBox p).slice := by
  obtain ⟨hwidth, -, hdepth⟩ := Box.pos_of_not_empty hempty
  have hbase : (hostBox p).base = p.mHostOrigin.z.toNat * (hostBox p).slice +
      p.mHostOrigin.y.toNat * (hostBox p).row + p.mHostOrigin.x.toNat := rfl
  have hwidth' : (hostBox p).width = p.mRegion.x.toNat := rfl
  have hheight : (hostBox p).height = p.mRegion.y.toNat := rfl
  rw [← Nat.add_one_le_iff, Box.last_add_one hempty, slices_eq _ hdepth, Nat.add_mul, hbase,
    hheight]
  constructor
  · intro hle
    have hzero : p.mHostOrigin.z.toNat = 0 := by
      by_contra hpos
      have hone := Nat.le_mul_of_pos_left (hostBox p).slice (Nat.pos_of_ne_zero hpos)
      omega
    rw [hzero, Nat.zero_mul] at hle
    exact ⟨hzero, by omega⟩
  · rintro ⟨hzero, hle⟩
    rw [hzero, Nat.zero_mul]
    omega

/-- A size that has wrapped around is too small by more than a slice. -/
theorem rectSize_le_last (p : ReadBufferRect) (hempty : ¬ (hostBox p).Empty)
    (hwrap : 2 ^ 64 ≤ (hostBox p).slice * (hostBox p).depth) : rectSize p ≤ (hostBox p).last := by
  obtain ⟨-, -, hdepth⟩ := Box.pos_of_not_empty hempty
  have hslices := slices_eq (hostBox p).slice hdepth
  have hmod : rectSize p ≤ (hostBox p).slice * (hostBox p).depth - 2 ^ 64 := by
    rw [rectSize_eq, Nat.mod_eq_sub_mod hwrap]
    exact Nat.mod_le _ _
  have hslice := slice_hostBox_lt p
  have hlast := Box.last_add_one hempty
  omega

/-- **When the vector for a rectangle is large enough**: the size has not wrapped around, and the
rectangle does not reach over the end of a slice. -/
theorem rectCovered_iff (p : ReadBufferRect) :
    RectCovered p ↔
      vectorMaxSize < rectSize p ∨ (hostBox p).Empty ∨
        ((hostBox p).slice * (hostBox p).depth < 2 ^ 64 ∧ p.mHostOrigin.z.toNat = 0 ∧
          (p.mHostOrigin.y.toNat + (p.mRegion.y.toNat - 1)) * (hostBox p).row +
            (p.mHostOrigin.x.toNat + p.mRegion.x.toNat) ≤ (hostBox p).slice) := by
  rw [RectCovered, ← not_lt, ← or_iff_not_imp_left, Box.within_iff]
  refine or_congr_right (or_congr_right' fun hempty => ?_)
  rw [← last_hostBox_lt_iff p hempty]
  constructor
  · intro hlast
    by_cases hlt : (hostBox p).slice * (hostBox p).depth < 2 ^ 64
    · rw [rectSize_eq, Nat.mod_eq_of_lt hlt] at hlast
      exact ⟨hlt, hlast⟩
    · exact absurd hlast (rectSize_le_last p hempty (not_lt.mp hlt)).not_gt
  · rintro ⟨hlt, hlast⟩
    rwa [rectSize_eq, Nat.mod_eq_of_lt hlt]

/-- One byte, which is to be written behind the first one. -/
theorem rect_origin_uncovered :
    ¬ RectCovered
        ⟨0, 0, #v[0, 0, 0], #v[1, 0, 0], #v[1, 1, 1], 0, 0, 0, 0, false, false, true⟩ := by
  intro h
  exact absurd (h (by decide) 0 (by decide) 0 (by decide) 0 (by decide)) (by decide)

/-! ## Images -/

/-- Where the driver reads or writes a region of an image. -/
def imageBox {ty : PacketType} (pixelSize : UInt64) (p : ImageRW ty) : Box :=
  rectBox (0, 0, 0)
    (pixelSize.toNat * p.mRegion.x.toNat, p.mRegion.y.toNat, p.mRegion.z.toNat)
    p.mRowPitch.toNat p.mSlicePitch.toNat

/-- The types of images. -/
inductive ImageType where
  | image1D
  | image1DBuffer
  | image1DArray
  | image2D
  | image2DArray
  | image3D
  deriving DecidableEq

namespace ImageType

/-- The values of `cl_mem_object_type` that are images. -/
def ofCode (code : UInt32) : Option ImageType :=
  if code = 0x10F1 then some image2D
  else if code = 0x10F2 then some image3D
  else if code = 0x10F3 then some image2DArray
  else if code = 0x10F4 then some image1D
  else if code = 0x10F5 then some image1DArray
  else if code = 0x10F6 then some image1DBuffer
  else none

/-- The number of rows in a slice. -/
def rows (ty : ImageType) (p : CreateImage) : ℕ :=
  match ty with
  | image1D | image1DBuffer | image1DArray => 1
  | image2D | image2DArray | image3D => p.mHeight.toNat

/-- The number of slices: an array has one for each layer. -/
def slices (ty : ImageType) (p : CreateImage) : ℕ :=
  match ty with
  | image1D | image1DBuffer | image2D => 1
  | image1DArray | image2DArray => p.mArraySize.toNat
  | image3D => p.mDepth.toNat

/-- The images that have a slice pitch. -/
def isSliced : ImageType → Bool
  | image1D | image1DBuffer | image2D => false
  | image1DArray | image2DArray | image3D => true

/-- Where the driver reads the data of a new image of a type. -/
def box (ty : ImageType) (pixelSize : UInt64) (p : CreateImage) : Box :=
  rectBox (0, 0, 0) (pixelSize.toNat * p.mWidth.toNat, ty.rows p, ty.slices p)
    p.mRowPitch.toNat (if ty.isSliced then p.mSlicePitch.toNat else 0)

end ImageType

/-- Where the driver reads the data of a new image: nowhere if there is no such type. -/
def createBox (pixelSize : UInt64) (p : CreateImage) : Box :=
  match ImageType.ofCode p.mImageType with
  | some ty => ty.box pixelSize p
  | none => ⟨0, 0, 0, 0, 0, 0⟩

/-- The number of bytes that the server asks the client for when it writes to an image. -/
def writeSize (pixelSize : UInt64) (p : WriteImage) : UInt32 :=
  UInt32.ofNat (imageSize pixelSize p.mRegion)

/-- The number of bytes that the server asks the client for when it makes an image. -/
def createSize (pixelSize : UInt64) (p : CreateImage) : UInt32 :=
  UInt32.ofNat (pixelSize.toNat * extent p.mWidth * extent p.mHeight * extent p.mDepth)

/-- The requests that move the pixels of an image, for pixels of some size. -/
inductive ImageRequest where
  | read (pixelSize : UInt64) (p : ReadImage)
  | write (pixelSize : UInt64) (p : WriteImage)
  | create (pixelSize : UInt64) (p : CreateImage)

namespace ImageRequest

/-- Where the driver goes, if it accepts the pitches. -/
def box : ImageRequest → Box
  | read pixelSize p => imageBox pixelSize p
  | write pixelSize p => imageBox pixelSize p
  | create pixelSize p => createBox pixelSize p

/-- The number of bytes that there are. -/
def size : ImageRequest → ℕ
  | read pixelSize p => imageSize pixelSize p.mRegion
  | write pixelSize p => (writeSize pixelSize p).toNat
  | create pixelSize p => (createSize pixelSize p).toNat

/-- The driver accepts the pitches, and there is a vector. -/
def Served (r : ImageRequest) : Prop := r.box.Pitched ∧ r.size ≤ vectorMaxSize

/-- Everything that the driver reads or writes lies in the vector. -/
def Covered (r : ImageRequest) : Prop := r.Served → r.box.Within r.size

/-- The pixels have no gaps, and their number of bytes has not been cut off; for a new image, the
last row does not reach over the end. -/
def Suffices : ImageRequest → Prop
  | read pixelSize p => (imageBox pixelSize p).Packed ∧
      pixelSize.toNat * p.mRegion.x.toNat * p.mRegion.y.toNat * p.mRegion.z.toNat < 2 ^ 64
  | write pixelSize p => (imageBox pixelSize p).Packed ∧
      pixelSize.toNat * p.mRegion.x.toNat * p.mRegion.y.toNat * p.mRegion.z.toNat < 2 ^ 32
  | create pixelSize p =>
      ((createBox pixelSize p).depth - 1) * (createBox pixelSize p).slice +
          ((createBox pixelSize p).height - 1) * (createBox pixelSize p).row +
        (createBox pixelSize p).width ≤
      pixelSize.toNat * extent p.mWidth * extent p.mHeight * extent p.mDepth % 2 ^ 32

/-- The bytes of a region, which may be cut off. -/
theorem within_imageBox_iff {ty : PacketType} {pixelSize : UInt64} {p : ImageRW ty}
    (hb : (imageBox pixelSize p).Pitched) (hempty : ¬ (imageBox pixelSize p).Empty) {m : ℕ}
    (hm : 0 < m) :
    (imageBox pixelSize p).Within
        (pixelSize.toNat * p.mRegion.x.toNat * p.mRegion.y.toNat * p.mRegion.z.toNat % m) ↔
      (imageBox pixelSize p).Packed ∧
        pixelSize.toNat * p.mRegion.x.toNat * p.mRegion.y.toNat * p.mRegion.z.toNat < m :=
  (Box.within_mod_iff hb hempty hm).trans (and_iff_right (rectBox_zero_base _ _ _))

theorem writeSize_toNat (pixelSize : UInt64) (p : WriteImage) :
    (writeSize pixelSize p).toNat = pixelSize.toNat * p.mRegion.x.toNat * p.mRegion.y.toNat *
      p.mRegion.z.toNat % 2 ^ 32 := by
  rw [writeSize, UInt32.toNat_ofNat', imageSize]
  exact Nat.mod_mod_of_dvd _ (by decide)

theorem within_iff_suffices {r : ImageRequest} (hb : r.box.Pitched) (hempty : ¬ r.box.Empty) :
    r.box.Within r.size ↔ r.Suffices := by
  cases r with
  | read pixelSize p => exact within_imageBox_iff hb hempty (by decide)
  | write pixelSize p =>
    rw [size, writeSize_toNat]
    exact within_imageBox_iff hb hempty (by decide)
  | create pixelSize p =>
    rw [Box.within_iff, or_iff_right hempty, ← Nat.add_one_le_iff, Box.last_add_one hempty, size,
      createSize, UInt32.toNat_ofNat', Suffices]
    have hbase : (create pixelSize p).box.base = 0 := by
      rw [box, createBox]
      split
      · exact rectBox_zero_base _ _ _
      · rfl
    rw [hbase, Nat.zero_add]
    rfl

end ImageRequest

end ServerInstance

end RemoteCL

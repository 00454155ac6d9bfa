import RemoteCL.Server.Staging
import RemoteCL.Session.Launches
import RemoteCL.Session.WaitLists

/-!
# The numbers of a call

Sizes, offsets, pitches, origins and regions have 64 bits in the API, and cross in fields of 32
bits.  `SizedCall.values` are the numbers that a call is made with, and `SizedCall.given` is what
the driver is given instead.  They are the same exactly if the numbers fit (`exact_given_iff`).

A write is for bytes as well.  How many there are of an image depends on the size of its pixels,
which only the driver knows, and on the pitches.
-/

namespace RemoteCL

open ByteStream Conversation Wire LawfulWire Client Layout

/-! ## What the driver acts on -/

/-- The functions whose numbers cross in 32 bits. -/
inductive SizedFunction where
  | clCreateBuffer
  | clCreateSubBuffer
  | clCreateImage
  | clEnqueueReadBuffer
  | clEnqueueReadBufferRect
  | clEnqueueWriteBuffer
  | clEnqueueFillBuffer
  | clEnqueueReadImage
  | clEnqueueWriteImage
  | clEnqueueNDRangeKernel
  deriving DecidableEq

/-- The numbers that a function acts on, and the bytes that it writes. -/
structure Numbers where
  function : SizedFunction
  values : List ℕ
  data : Bytes
  deriving DecidableEq

/-- Coordinates in their order. -/
def coordsValues (xs : Coords) : List ℕ := [xs.x.toNat, xs.y.toNat, xs.z.toNat]

/-- The numbers that the driver is given with a command. -/
def Command.numbers : Command → Numbers
  | clEnqueueNDRangeKernel _ work_dim offset size local_size =>
    ⟨.clEnqueueNDRangeKernel, work_dim.toNat :: ((coordsValues offset).take work_dim.toNat ++
      (coordsValues size).take work_dim.toNat ++
        (local_size.elim [] fun xs => (coordsValues xs).take work_dim.toNat)), []⟩
  | clEnqueueReadBuffer _ _ offset size => ⟨.clEnqueueReadBuffer, [offset, size], []⟩
  | clEnqueueReadBufferRect _ _ buffer_origin host_origin region buffer_row_pitch
      buffer_slice_pitch host_row_pitch host_slice_pitch =>
    ⟨.clEnqueueReadBufferRect, coordsValues buffer_origin ++ coordsValues host_origin ++
      coordsValues region ++ [buffer_row_pitch.toNat, buffer_slice_pitch.toNat,
        host_row_pitch.toNat, host_slice_pitch.toNat], []⟩
  | clEnqueueWriteBuffer _ _ offset data =>
    ⟨.clEnqueueWriteBuffer, [offset, data.length], data⟩
  | clEnqueueFillBuffer _ pattern offset size =>
    ⟨.clEnqueueFillBuffer, [pattern.length, offset, size], []⟩
  | clEnqueueReadImage _ _ origin region row_pitch slice_pitch =>
    ⟨.clEnqueueReadImage, coordsValues origin ++ coordsValues region ++
      [row_pitch.toNat, slice_pitch.toNat], []⟩
  | clEnqueueWriteImage _ _ origin region row_pitch slice_pitch data =>
    ⟨.clEnqueueWriteImage, coordsValues origin ++ coordsValues region ++
      [row_pitch.toNat, slice_pitch.toNat], data⟩

/-- The numbers that the driver is given, if it is for one of these functions.  The description of
an image starts with its type, and ends with numbers that have 32 bits in the API. -/
def ServerCall.numbers : ServerCall → Option Numbers
  | .create (.clCreateBuffer _ _ size _) => some ⟨.clCreateBuffer, [size], []⟩
  | .create (.clCreateSubBuffer _ _ _ origin size) =>
    some ⟨.clCreateSubBuffer, [origin, size], []⟩
  | .create (.clCreateImage _ _ _ desc _) =>
    some ⟨.clCreateImage, ((desc.drop 1).take 6).map UInt32.toNat, []⟩
  | .enqueue q => some q.command.numbers
  | _ => none

/-! ## What a call is made with -/

/-- A call of one of these functions. -/
inductive SizedCall where
  | clCreateBuffer (context : Option Handle) (flags size : UInt64) (host_ptr : Option Bytes)
      (errcode_ret : Bool)
  | clCreateSubBuffer (buffer : Option Handle) (flags : UInt64) (buffer_create_type : UInt32)
      (buffer_create_info : Option (UInt64 × UInt64)) (errcode_ret : Bool)
  | clCreateImage (context : Option Handle) (flags : UInt64) (image_format image_desc : Bool)
      (desc : ImageDesc) (host_ptr : Option Bytes) (errcode_ret : Bool)
  | clEnqueueReadBuffer (command_queue buffer : Option Handle) (blocking_read : Bool)
      (offset size : UInt64) (args : WaitArgs)
  | clEnqueueReadBufferRect (command_queue buffer : Option Handle) (blocking_read : Bool)
      (rect : RectArgs) (args : WaitArgs)
  | clEnqueueWriteBuffer (command_queue buffer : Option Handle) (blocking_write : Bool)
      (offset size : UInt64) (ptr : Bytes) (args : WaitArgs)
  | clEnqueueFillBuffer (command_queue buffer : Option Handle) (pattern : Bytes)
      (pattern_size offset size : UInt64) (args : WaitArgs)
  | clEnqueueReadImage (command_queue image : Option Handle) (blocking_read : Bool)
      (rect : ImageArgs) (args : WaitArgs)
  | clEnqueueWriteImage (command_queue image : Option Handle) (blocking_write : Bool)
      (rect : ImageArgs) (ptr : Bytes) (args : WaitArgs)
  | clEnqueueNDRangeKernel (command_queue kernel : Option Handle) (r : NDRange)
      (args : WaitArgs)
  deriving DecidableEq

/-- A triple in its order. -/
def tripleValues (c : UInt64 × UInt64 × UInt64) : List UInt64 := [c.1, c.2.1, c.2.2]

namespace Client

/-- The values of an array that are looked at. -/
def NDRange.array (r : NDRange) (values : List UInt64) : List UInt64 :=
  (List.range r.work_dim).map fun i => values.getD i 0

/-- The numbers of an index space.  A missing offset stands for zeros. -/
def NDRange.values (r : NDRange) : List UInt64 :=
  UInt64.ofNat r.work_dim ::
    (r.array (r.global_work_offset.getD []) ++ r.array r.global_work_size ++
      (r.local_work_size.elim [] r.array))

/-- Where the driver reads or writes a region of an image in the memory of the application. -/
def ImageArgs.hostBox (pixelSize : UInt64) (rect : ImageArgs) : Box :=
  ServerInstance.rectBox (0, 0, 0)
    (pixelSize.toNat * rect.region.1.toNat, rect.region.2.1.toNat, rect.region.2.2.toNat)
    rect.row_pitch.toNat rect.slice_pitch.toNat

/-- The numbers of a transfer. -/
def ImageArgs.values (rect : ImageArgs) : List UInt64 :=
  tripleValues rect.origin ++ tripleValues rect.region ++ [rect.row_pitch, rect.slice_pitch]

/-- The numbers of a rectangle. -/
def RectArgs.values (rect : RectArgs) : List UInt64 :=
  tripleValues rect.buffer_origin ++ tripleValues rect.host_origin ++ tripleValues rect.region ++
    [rect.buffer_row_pitch, rect.buffer_slice_pitch, rect.host_row_pitch, rect.host_slice_pitch]

end Client

namespace SizedCall

/-- The program of a call. -/
def program (C : Build) : SizedCall → ClientM Ret
  | clCreateBuffer context flags size host_ptr errcode_ret =>
    Client.clCreateBuffer C context flags size host_ptr errcode_ret
  | clCreateSubBuffer buffer flags type info errcode_ret =>
    Client.clCreateSubBuffer buffer flags type info errcode_ret
  | clCreateImage context flags image_format image_desc desc host_ptr errcode_ret =>
    Client.clCreateImage C context flags image_format image_desc desc host_ptr errcode_ret
  | clEnqueueReadBuffer queue buffer block offset size args =>
    Client.clEnqueueReadBuffer C queue buffer block offset size args
  | clEnqueueReadBufferRect queue buffer block rect args =>
    Client.clEnqueueReadBufferRect C queue buffer block rect args
  | clEnqueueWriteBuffer queue buffer block offset size ptr args =>
    Client.clEnqueueWriteBuffer C queue buffer block offset size ptr args
  | clEnqueueFillBuffer queue buffer pattern pattern_size offset size args =>
    Client.clEnqueueFillBuffer queue buffer pattern pattern_size offset size args
  | clEnqueueReadImage queue image block rect args =>
    Client.clEnqueueReadImage C queue image block rect args
  | clEnqueueWriteImage queue image block rect ptr args =>
    Client.clEnqueueWriteImage C queue image block rect ptr args
  | clEnqueueNDRangeKernel queue kernel r args =>
    Client.clEnqueueNDRangeKernel queue kernel r args

def function : SizedCall → SizedFunction
  | clCreateBuffer .. => .clCreateBuffer
  | clCreateSubBuffer .. => .clCreateSubBuffer
  | clCreateImage .. => .clCreateImage
  | clEnqueueReadBuffer .. => .clEnqueueReadBuffer
  | clEnqueueReadBufferRect .. => .clEnqueueReadBufferRect
  | clEnqueueWriteBuffer .. => .clEnqueueWriteBuffer
  | clEnqueueFillBuffer .. => .clEnqueueFillBuffer
  | clEnqueueReadImage .. => .clEnqueueReadImage
  | clEnqueueWriteImage .. => .clEnqueueWriteImage
  | clEnqueueNDRangeKernel .. => .clEnqueueNDRangeKernel

/-- The numbers that the application has said. -/
def values : SizedCall → List UInt64
  | clCreateBuffer _ _ size _ _ => [size]
  | clCreateSubBuffer _ _ _ info _ => info.elim [] fun x => [x.1, x.2]
  | clCreateImage _ _ _ _ desc _ _ => [desc.image_width, desc.image_height, desc.image_depth,
    desc.image_array_size, desc.image_row_pitch, desc.image_slice_pitch]
  | clEnqueueReadBuffer _ _ _ offset size _ => [offset, size]
  | clEnqueueReadBufferRect _ _ _ rect _ => rect.values
  | clEnqueueWriteBuffer _ _ _ offset size _ _ => [offset, size]
  | clEnqueueFillBuffer _ _ _ pattern_size offset size _ => [pattern_size, offset, size]
  | clEnqueueReadImage _ _ _ rect _ => rect.values
  | clEnqueueWriteImage _ _ _ rect _ _ => rect.values
  | clEnqueueNDRangeKernel _ _ r _ => r.values

/-- The bytes that are to be written. -/
def data (pixelSize : UInt64) : SizedCall → Bytes
  | clEnqueueWriteBuffer _ _ _ _ size ptr _ => memRead ptr size.toNat
  | clEnqueueWriteImage _ _ _ rect ptr _ => memRead ptr (rect.hostBox pixelSize).span
  | _ => []

/-- The driver acts on the numbers of the call, and writes all of the bytes. -/
def Exact (pixelSize : UInt64) (call : SizedCall) (n : Numbers) : Prop :=
  n.function = call.function ∧ n.values = call.values.map UInt64.toNat ∧
    call.data pixelSize <+: n.data

end SizedCall

/-! ## What becomes of the numbers -/

/-- A number in a field of 32 bits. -/
def cut (n : UInt64) : ℕ := n.toUInt32.toNat

theorem cut_eq_mod (n : UInt64) : cut n = n.toNat % 2 ^ 32 := UInt64.toNat_toUInt32 n

theorem cut_le (n : UInt64) : cut n ≤ n.toNat := cut_eq_mod n ▸ Nat.mod_le _ _

theorem cut_eq_iff (n : UInt64) : cut n = n.toNat ↔ n.toNat < 2 ^ 32 := by
  rw [cut_eq_mod, Nat.mod_eq_iff_lt (by decide)]

theorem map_cut_eq_iff (values : List UInt64) :
    values.map cut = values.map UInt64.toNat ↔ ∀ v ∈ values, v.toNat < 2 ^ 32 := by
  rw [List.map_inj_left]
  exact forall₂_congr fun v _ => cut_eq_iff v

/-- What there is at a pointer starts with what there is in fewer bytes. -/
theorem memRead_prefix_iff (ptr : Bytes) {m n : ℕ} : memRead ptr m <+: memRead ptr n ↔ m ≤ n := by
  constructor
  · intro h
    have hlen := h.length_le
    rwa [length_memRead, length_memRead] at hlen
  · intro h
    have htake : (memRead ptr n).take m = memRead ptr m := by
      rw [memRead, memRead, zeros, zeros, List.take_append, List.take_take, List.take_replicate,
        List.length_take, min_eq_left h]
      congr 2
      omega
    exact htake ▸ List.take_prefix m _

namespace Client

/-- The number of bytes that the client sends for a region of an image. -/
def ImageArgs.sent (pixelSize : UInt64) (rect : ImageArgs) : ℕ :=
  pixelSize.toNat * cut rect.region.1 * cut rect.region.2.1 * cut rect.region.2.2 % 2 ^ 32

/-- The number of bytes that the server reads from a region of an image. -/
def ImageArgs.received (pixelSize : UInt64) (rect : ImageArgs) : ℕ :=
  pixelSize.toNat * cut rect.region.1 * cut rect.region.2.1 * cut rect.region.2.2 % 2 ^ 64

/-- The numbers of an index space as the driver is given them.  A work group size that starts with
a zero counts as none. -/
def NDRange.given (r : NDRange) : List ℕ :=
  r.work_dim :: ((r.array (r.global_work_offset.getD [])).map cut ++
    (r.array r.global_work_size).map cut ++
      if r.localTriple.x = 0 then [] else (coordsValues r.localTriple).take r.work_dim)

/-- There is a work group size, and it does not start with a zero. -/
def NDRange.Grouped (r : NDRange) : Prop :=
  ∃ sizes, r.local_work_size = some sizes ∧ sizes.getD 0 0 ≠ 0

end Client

namespace SizedCall

/-- What the driver is given in place of the numbers of a call, and of its bytes. -/
def given (pixelSize : UInt64) (call : SizedCall) : Numbers where
  function := call.function
  values :=
    match call with
    | clEnqueueNDRangeKernel _ _ r _ => r.given
    | _ => call.values.map cut
  data :=
    match call with
    | clEnqueueWriteBuffer _ _ _ _ size ptr _ => (memRead ptr size.toNat).take (cut size)
    | clEnqueueWriteImage _ _ _ rect ptr _ => memRead ptr (rect.sent pixelSize)
    | _ => []

/-- The numbers have 32 bits.  The region of an image that is written has no more memory than bytes
are sent, and a kernel is launched in work groups of a given size. -/
def Fits (pixelSize : UInt64) (call : SizedCall) : Prop :=
  (∀ v ∈ call.values, v.toNat < 2 ^ 32) ∧
    match call with
    | clEnqueueWriteImage _ _ _ rect _ _ => (rect.hostBox pixelSize).Within
        (pixelSize.toNat * rect.region.1.toNat * rect.region.2.1.toNat * rect.region.2.2.toNat %
          2 ^ 32)
    | clEnqueueNDRangeKernel _ _ r _ => r.Grouped
    | _ => True

/-- The server has no room for what is to be read. -/
def Overlarge (pixelSize : UInt64) : SizedCall → Prop
  | clEnqueueReadBufferRect (some queue) (some buffer) block rect args =>
    ServerInstance.vectorMaxSize < ServerInstance.rectSize (rect.packet queue buffer block args)
  | clEnqueueReadImage _ _ _ rect _ => ServerInstance.vectorMaxSize < rect.received pixelSize
  | _ => False

end SizedCall

/-! ## Index spaces -/

namespace Client.NDRange

variable {r : NDRange}

theorem length_array (r : NDRange) (values : List UInt64) :
    (r.array values).length = r.work_dim := by
  rw [array, List.length_map, List.length_range]

/-- The given values of a triple. -/
theorem take_coordsValues (hdim : r.work_dim ≤ 3) (values : List UInt64) (other : UInt32) :
    (coordsValues (triple r.work_dim values other)).take r.work_dim =
      (r.array values).map cut := by
  have hget (i : Fin 3) := getElem_triple r.work_dim values other i
  have hcoords : coordsValues (triple r.work_dim values other) =
      (List.finRange 3).map fun i : Fin 3 => ((triple r.work_dim values other)[i]).toNat := rfl
  refine List.ext_getElem ?_ fun i hi hi' => ?_
  · rw [List.length_take, hcoords, List.length_map, List.length_finRange, List.length_map,
      length_array, min_eq_left hdim]
  · rw [List.length_map, length_array] at hi'
    have hi3 : i < 3 := hi'.trans_le hdim
    simp only [List.getElem_take, hcoords, List.getElem_map, List.getElem_finRange, array,
      List.getElem_range, cut]
    exact congrArg UInt32.toNat ((hget ⟨i, hi3⟩).trans (if_pos hi'))

/-- What the driver is given of an index space. -/
theorem numbers_command (hdim : r.work_dim ≤ 3) (kernel : Ptr) :
    (Command.clEnqueueNDRangeKernel kernel (UInt8.ofNat r.work_dim)
        (triple r.work_dim (r.global_work_offset.getD []) 0)
        (triple r.work_dim r.global_work_size 1)
        (if r.localTriple.x = 0 then none else some r.localTriple)).numbers =
      ⟨.clEnqueueNDRangeKernel, r.given, []⟩ := by
  have hwork : (UInt8.ofNat r.work_dim).toNat = r.work_dim :=
    UInt8.toNat_ofNat_of_lt' (hdim.trans_lt (by decide))
  simp only [Command.numbers, hwork, take_coordsValues hdim, given]
  split <;> rfl

/-- The numbers of the work groups arrive. -/
theorem localTriple_eq_iff (hpos : 0 < r.work_dim) (hdim : r.work_dim ≤ 3) :
    (if r.localTriple.x = 0 then [] else (coordsValues r.localTriple).take r.work_dim) =
        (r.local_work_size.elim [] r.array).map UInt64.toNat ↔
      (∀ v ∈ r.local_work_size.elim [] r.array, v.toNat < 2 ^ 32) ∧ r.Grouped := by
  cases hlocal : r.local_work_size with
  | none =>
    -- the client fills in ones
    have htriple : r.localTriple = triple 0 [] 1 := by
      rw [localTriple, hlocal]
      rfl
    have hone : r.localTriple.x = 1 :=
      (congrArg (·[0]) htriple).trans
        ((getElem_triple 0 [] 1 0).trans (if_neg (Nat.not_lt_zero _)))
    rw [if_neg (hone.trans_ne UInt32.zero_ne_one.symm)]
    refine iff_of_false (fun h => ?_) ?_
    · have hlen := congrArg List.length h
      rw [List.length_take, Option.elim_none, List.map_nil, List.length_nil] at hlen
      have hthree : (coordsValues r.localTriple).length = 3 := rfl
      omega
    · rintro ⟨-, sizes, hsizes, -⟩
      rw [hlocal] at hsizes
      cases hsizes
  | some sizes =>
    have htriple : r.localTriple = triple r.work_dim sizes 1 := by
      rw [localTriple, hlocal]
      rfl
    have hfirst : r.localTriple.x = (sizes.getD 0 0).toUInt32 :=
      (congrArg (·[0]) htriple).trans ((getElem_triple _ _ _ 0).trans (if_pos hpos))
    have hmem : sizes.getD 0 0 ∈ r.array sizes :=
      List.mem_map.mpr ⟨0, List.mem_range.mpr hpos, rfl⟩
    have hgrouped : r.Grouped ↔ sizes.getD 0 0 ≠ 0 := by
      rw [Grouped, hlocal]
      refine ⟨?_, fun h => ⟨sizes, rfl, h⟩⟩
      rintro ⟨_, h, hne⟩
      exact Option.some.inj h ▸ hne
    rw [Option.elim_some, hgrouped]
    by_cases hzero : r.localTriple.x = 0
    · rw [if_pos hzero]
      refine iff_of_false (fun h => ?_) fun h => ?_
      · have hlen := congrArg List.length h
        rw [List.length_map, length_array, List.length_nil] at hlen
        omega
      · have hcut : cut (sizes.getD 0 0) = 0 := congrArg UInt32.toNat (hfirst.symm.trans hzero)
        rw [(cut_eq_iff _).mpr (h.1 _ hmem)] at hcut
        exact h.2 (UInt64.toNat_inj.mp hcut)
    · rw [if_neg hzero, htriple, take_coordsValues hdim, map_cut_eq_iff, iff_self_and]
      rintro - hsizes
      rw [hfirst, hsizes] at hzero
      exact hzero rfl

/-- **When the numbers of an index space arrive**: they fit, and there is a work group size. -/
theorem given_eq_iff (hpos : 0 < r.work_dim) (hdim : r.work_dim ≤ 3) :
    r.given = r.values.map UInt64.toNat ↔ (∀ v ∈ r.values, v.toNat < 2 ^ 32) ∧ r.Grouped := by
  have hhead : (UInt64.ofNat r.work_dim).toNat = r.work_dim :=
    UInt64.toNat_ofNat_of_lt' (hdim.trans_lt (by decide))
  have hsmall : (UInt64.ofNat r.work_dim).toNat < 2 ^ 32 := by omega
  rw [given, values, List.map_cons, hhead, ← List.map_append, List.map_append (f := UInt64.toNat),
    List.cons.injEq, and_iff_right rfl, List.forall_mem_cons, and_iff_right hsmall,
    List.forall_mem_append, and_assoc,
    ← localTriple_eq_iff hpos hdim, ← map_cut_eq_iff]
  constructor
  · intro h
    exact List.append_inj h (by rw [List.length_map, List.length_map])
  · rintro ⟨h, h'⟩
    rw [h, h']

end Client.NDRange

/-! ## Exactness -/

namespace SizedCall

/-- The client returns an error, before it has sent anything. -/
def Invalid : SizedCall → Prop
  | clCreateBuffer context flags _ _ _ => context = none ∨ flags &&& CL_MEM_USE_HOST_PTR ≠ 0
  | clCreateSubBuffer buffer _ _ info _ => buffer = none ∨ info = none
  | clCreateImage context flags image_format image_desc _ host_ptr _ =>
    context = none ∨ image_desc = false ∨ image_format = false ∨
      (host_ptr.isSome ∧ (flags &&& CL_MEM_USE_HOST_PTR ≠ 0 ∨
        flags &&& CL_MEM_ALLOC_HOST_PTR ≠ 0)) ∨
        (flags &&& CL_MEM_COPY_HOST_PTR ≠ 0 ∧ host_ptr = none)
  | clEnqueueReadBuffer queue object _ _ _ args | clEnqueueReadBufferRect queue object _ _ args
  | clEnqueueWriteBuffer queue object _ _ _ _ args | clEnqueueReadImage queue object _ _ args
  | clEnqueueWriteImage queue object _ _ _ args =>
    queue = none ∨ object = none ∨ ∃ err, args.eventIDs = .error err
  | clEnqueueFillBuffer queue object _ pattern_size _ _ args =>
    queue = none ∨ object = none ∨ (∃ err, args.eventIDs = .error err) ∨ 128 < pattern_size
  | clEnqueueNDRangeKernel queue object r args =>
    queue = none ∨ object = none ∨ (r.work_dim = 0 ∨ 3 < r.work_dim) ∨ r.zeroGroup = true ∨
      ∃ err, args.eventIDs = .error err

/-- How many times the driver is given the numbers.  An image with data is created twice. -/
def times : SizedCall → ℕ
  | clCreateImage _ flags _ _ _ _ _ => if flags &&& CL_MEM_COPY_HOST_PTR ≠ 0 then 2 else 1
  | _ => 1

/-- A write sends its events before its data, and a list has room for 255 of them. -/
def Listed : SizedCall → Prop
  | clEnqueueWriteBuffer _ _ _ _ _ _ args | clEnqueueWriteImage _ _ _ _ _ args =>
    args.num_events_in_wait_list ≤ 255
  | _ => True

variable {pixelSize : UInt64} {call : SizedCall}

theorem exists_times (call : SizedCall) : ∃ m, call.times = m + 1 := by
  cases call with
  | clCreateImage context flags =>
    by_cases hcopy : flags &&& CL_MEM_COPY_HOST_PTR ≠ 0
    · exact ⟨1, if_pos hcopy⟩
    · exact ⟨0, if_neg hcopy⟩
  | _ => exact ⟨0, rfl⟩

/-- The bytes of an image arrive. -/
theorem data_writeImage_iff {rect : ImageArgs} (hfits : ∀ v ∈ rect.values, v.toNat < 2 ^ 32)
    (ptr : Bytes) :
    memRead ptr (rect.hostBox pixelSize).span <+: memRead ptr (rect.sent pixelSize) ↔
      (rect.hostBox pixelSize).Within (pixelSize.toNat * rect.region.1.toNat *
        rect.region.2.1.toNat * rect.region.2.2.toNat % 2 ^ 32) := by
  have hregion : ∀ v ∈ tripleValues rect.region, cut v = v.toNat := fun v hv =>
    (cut_eq_iff v).mpr (hfits v (List.mem_append_left _ (List.mem_append_right _ hv)))
  rw [memRead_prefix_iff, Box.span_le_iff, ImageArgs.sent, hregion _ (by simp [tripleValues]),
    hregion rect.region.2.1 (by simp [tripleValues]),
    hregion rect.region.2.2 (by simp [tripleValues])]

/-- **When the driver acts on the numbers of a call**: when they fit. -/
theorem exact_given_iff (hvalid : ¬ call.Invalid) :
    call.Exact pixelSize (call.given pixelSize) ↔ call.Fits pixelSize := by
  refine (and_iff_right rfl).trans ?_
  cases call with
  | clEnqueueNDRangeKernel queue kernel r args =>
    simp only [Invalid, not_or, Nat.not_lt] at hvalid
    have hgiven := NDRange.given_eq_iff (r := r) (Nat.pos_of_ne_zero hvalid.2.2.1.1)
      hvalid.2.2.1.2
    exact (and_iff_left List.nil_prefix).trans hgiven
  | clEnqueueWriteBuffer queue buffer block offset size ptr args =>
    refine (and_congr_left' (map_cut_eq_iff _)).trans (and_congr_right fun hfits => ?_)
    have hsize : cut size = size.toNat := (cut_eq_iff size).mpr (hfits size (by simp [values]))
    refine iff_of_true ?_ trivial
    show memRead ptr size.toNat <+: (memRead ptr size.toNat).take (cut size)
    rw [hsize, List.take_of_length_le (length_memRead ptr _).le]
  | clEnqueueWriteImage queue image block rect ptr args =>
    refine (and_congr_left' (map_cut_eq_iff _)).trans (and_congr_right fun hfits => ?_)
    exact data_writeImage_iff hfits ptr
  | _ => exact and_congr (map_cut_eq_iff _) (iff_of_true List.nil_prefix trivial)

end SizedCall

end RemoteCL

import RemoteCL.Client.Bookkeeping
import Mathlib.Data.Fintype.EquivFin

/-!
# What is written back

A mapping is an array of the client.  If the buffer is mapped for reading, its content is read into
the array; if it is mapped for writing, all of the array is written back when it is unmapped.  With
both flags that comes to what the application has stored, and nothing else.  With the flag for
writing alone the array has not been read: wherever the application has not stored anything, the
buffer gets what was in the memory before.
-/

namespace RemoteCL

open ByteStream Conversation Client

/-! ## Bytes -/

/-- An array after the application has stored some bytes. -/
def overlay (stores : ℕ → Option UInt8) (d : Bytes) : Bytes :=
  d.mapIdx fun i b => (stores i).getD b

@[simp] theorem length_overlay (stores : ℕ → Option UInt8) (d : Bytes) :
    (overlay stores d).length = d.length := List.length_mapIdx

/-- A buffer in which the bytes of a range are replaced that have been stored. -/
def storedIn (content : Bytes) (offset size : ℕ) (stores : ℕ → Option UInt8) : Bytes :=
  content.mapIdx fun i b =>
    if offset ≤ i ∧ i < offset + size then (stores (i - offset)).getD b else b

theorem length_slice {content : Bytes} {offset size : ℕ} (h : offset + size ≤ content.length) :
    (slice content offset size).length = size := by
  rw [slice, List.length_take, List.length_drop]
  omega

theorem getElem?_slice {content : Bytes} {offset size i : ℕ} (hi : i < size) :
    (slice content offset size)[i]? = content[offset + i]? := by
  rw [slice, List.getElem?_take_of_lt hi, List.getElem?_drop]

theorem getElem?_overwrite {content d : Bytes} {offset : ℕ}
    (h : offset + d.length ≤ content.length) (i : ℕ) :
    (overwrite content offset d)[i]? =
      if offset ≤ i ∧ i < offset + d.length then d[i - offset]? else content[i]? := by
  have hlen : (content.take offset).length = offset := by
    rw [List.length_take]
    omega
  have htake : d.take (content.drop offset).length = d := by
    rw [List.length_drop]
    exact List.take_of_length_le (by omega)
  rw [overwrite, storeInto, htake]
  by_cases hi : i < offset
  · rw [if_neg (by omega), List.getElem?_append_left (by rw [hlen]; exact hi),
      List.getElem?_take_of_lt hi]
  · rw [List.getElem?_append_right (by rw [hlen]; omega), hlen]
    by_cases hd : i - offset < d.length
    · rw [if_pos (by omega), List.getElem?_append_left hd]
    · rw [if_neg (by omega), List.getElem?_append_right (by omega), List.drop_drop,
        List.getElem?_drop]
      congr 1
      omega

theorem getElem?_overlay (stores : ℕ → Option UInt8) (d : Bytes) (i : ℕ) :
    (overlay stores d)[i]? = d[i]?.map fun b => (stores i).getD b := by
  rw [overlay, List.getElem?_mapIdx]

theorem getElem?_storedIn (content : Bytes) (offset size : ℕ) (stores : ℕ → Option UInt8) (i : ℕ) :
    (storedIn content offset size stores)[i]? =
      if offset ≤ i ∧ i < offset + size then content[i]?.map fun b => (stores (i - offset)).getD b
      else content[i]? := by
  rw [storedIn, List.getElem?_mapIdx]
  split_ifs
  · rfl
  · exact Option.map_id'

/-- The next byte is another one. -/
theorem next_ne (b : UInt8) : b + 1 ≠ b := by grind

/-- Two bytes in which the same is stored are the same, unless nothing is stored. -/
theorem map_getD_eq_iff {a b : Option UInt8} (ha : a.isSome) (hb : b.isSome) (x : Option UInt8) :
    (a.map fun v => x.getD v) = (b.map fun v => x.getD v) ↔ (x = none → a = b) := by
  obtain ⟨v, rfl⟩ := Option.isSome_iff_exists.mp ha
  obtain ⟨w, rfl⟩ := Option.isSome_iff_exists.mp hb
  cases x <;> simp

/-- Writing an array back comes to replacing what has been stored, if and only if the rest of the
array is the content of the buffer. -/
theorem overwrite_overlay_iff {content d : Bytes} {offset : ℕ}
    (h : offset + d.length ≤ content.length) (stores : ℕ → Option UInt8) :
    overwrite content offset (overlay stores d) = storedIn content offset d.length stores ↔
      ∀ i < d.length, stores i = none → d[i]? = content[offset + i]? := by
  have hoverlay : offset + (overlay stores d).length ≤ content.length := by
    rw [length_overlay]
    exact h
  have hsome {l : Bytes} {i : ℕ} (hi : i < l.length) : l[i]?.isSome := by
    rw [List.getElem?_eq_getElem hi]
    rfl
  have hbyte (i : ℕ) (hi : i < d.length) :
      (overwrite content offset (overlay stores d))[offset + i]? =
          (storedIn content offset d.length stores)[offset + i]? ↔
        (stores i = none → d[i]? = content[offset + i]?) := by
    rw [getElem?_overwrite hoverlay, length_overlay, getElem?_storedIn, if_pos (by omega),
      if_pos (by omega), Nat.add_sub_cancel_left, getElem?_overlay]
    exact map_getD_eq_iff (hsome hi) (hsome (by omega)) (stores i)
  constructor
  · intro heq i hi
    exact (hbyte i hi).mp (by rw [heq])
  · intro hall
    refine List.ext_getElem? fun i => ?_
    by_cases hi : offset ≤ i ∧ i < offset + d.length
    · obtain ⟨j, rfl⟩ := Nat.exists_eq_add_of_le hi.1
      exact (hbyte j (by omega)).mpr (hall j (by omega))
    · rw [getElem?_overwrite hoverlay, length_overlay, getElem?_storedIn, if_neg hi, if_neg hi]

/-! ## A mapping, from one end to the other -/

/-- The application stores into an array. -/
def Host.stored (h : Host) (ptr : ℕ) (stores : ℕ → Option UInt8) : Host :=
  { h with data := Function.update h.data ptr (overlay stores (h.data ptr)) }

/-- The buffer changes as the application has changed the mapping: whenever it is mapped, bytes are
stored, and it is unmapped, and both calls succeed. -/
def ChangesAsStored (buffer : Handle) (s : List Mapping) (h : Host)
    (queue queue' : Option Handle) (blocking_map : Bool) (flags offset size : UInt64)
    (args args' : WaitArgs) (errcode_ret : Bool) (stores : ℕ → Option UInt8) : Prop :=
  ∀ ptr code s₁ h₁ s₂ h₂,
    Prog.Ends Host.Answers (clEnqueueMapBuffer queue (some buffer) blocking_map flags offset size
      args errcode_ret) s h (.ok ⟨some ptr, code⟩) s₁ h₁ →
    Prog.Ends Host.Answers (clEnqueueUnmapMemObject queue' (some buffer) ptr args') s₁
      (h₁.stored ptr stores) (.ok CL_SUCCESS) s₂ h₂ →
    h₂.buffer = if flags &&& CL_MAP_WRITE ≠ 0 then
      storedIn h.buffer offset.toNat size.toNat stores else h.buffer

section Mapping

variable {s : List Mapping} {h : Host} {flags offset size : UInt64} {ptr : ℕ}
variable {stores : ℕ → Option UInt8} {garbage : Bytes}

/-- A number that is less than the size of a buffer crosses the wire. -/
theorem toNat_toUInt32_of_lt {x : UInt64} {n : UInt32} (hx : x.toNat ≤ n.toNat) :
    x.toUInt32.toNat = x.toNat :=
  toNat_toUInt32 (lt_of_le_of_lt hx n.toNat_lt)

/-- A mapping that has just been added is found by its pointer. -/
theorem find?_append_new (hs : ∀ m ∈ s, m.isAt ptr = false) :
    (s ++ [Mapping.mk ptr size offset flags]).find? (Mapping.isAt ptr) =
      some ⟨ptr, size, offset, flags⟩ := by
  have hnone : s.find? (Mapping.isAt ptr) = none := List.find?_eq_none.mpr fun m hm => by
    rw [hs m hm]
    exact Bool.false_ne_true
  rw [List.find?_append, hnone, Option.none_or]
  exact List.find?_cons_of_pos (isAt_self (Mapping.mk ptr size offset flags))

theorem length_mappedData (hlen : garbage.length = size.toNat) :
    (mappedData h flags offset size garbage).length = size.toNat := by
  rw [mappedData]
  split_ifs
  · rw [length_storeInto, hlen]
  · exact hlen

section InRange

variable {mSize : UInt32} (hsize : h.buffer.length = mSize.toNat)
variable (hrange : offset.toNat + size.toNat ≤ h.buffer.length)
include hsize hrange

theorem toNat_offset : offset.toUInt32.toNat = offset.toNat :=
  toNat_toUInt32_of_lt (n := mSize) (by omega)

theorem toNat_size : size.toUInt32.toNat = size.toNat :=
  toNat_toUInt32_of_lt (n := mSize) (by omega)

/-- What is read is the content of the buffer. -/
theorem mappedData_of_read (hlen : garbage.length = size.toNat)
    (hread : flags &&& CL_MAP_READ ≠ 0) :
    mappedData h flags offset size garbage = slice h.buffer offset.toNat size.toNat := by
  have hslice := length_slice hrange
  rw [mappedData, if_pos hread, toNat_offset hsize hrange, toNat_size hsize hrange, storeInto, hlen,
    List.take_of_length_le (by omega), List.drop_of_length_le (by omega), List.append_nil]

/-- What is written back is what should have changed, if and only if the bytes that have not been
stored are those of the buffer. -/
theorem hasWritten_eq_iff {h₁ : Host} (hbuffer : h₁.buffer = h.buffer)
    (hdata : (h₁.data ptr).length = size.toNat) :
    ((h₁.stored ptr stores).hasWritten offset size ptr).buffer =
        storedIn h.buffer offset.toNat size.toNat stores ↔
      ∀ i < size.toNat, stores i = none → (h₁.data ptr)[i]? = h.buffer[offset.toNat + i]? := by
  have hstored : (h₁.stored ptr stores).data ptr = overlay stores (h₁.data ptr) :=
    Function.update_self _ _ _
  have hread : memRead (overlay stores (h₁.data ptr)) size.toNat =
      overlay stores (h₁.data ptr) := by
    rw [← hdata, ← length_overlay stores, memRead_length]
  rw [Host.hasWritten, toNat_offset hsize hrange, toNat_size hsize hrange, hstored, hread,
    Host.stored, hbuffer, ← hdata]
  exact overwrite_overlay_iff (by rw [hdata]; exact hrange) stores

end InRange

/-- A successful map, and a successful unmap of the same mapping. -/
theorem mapped_unmapped {buffer : Handle} {queue queue' : Option Handle} {blocking_map : Bool}
    {args args' : WaitArgs} {errcode_ret : Bool} {code : Option Int32} {s₁ s₂ : List Mapping}
    {h₁ h₂ : Host} (hlive : ∀ m ∈ s, m.ptr ∈ h.live)
    (hmap : Prog.Ends Host.Answers (clEnqueueMapBuffer queue (some buffer) blocking_map flags offset
      size args errcode_ret) s h (.ok ⟨some ptr, code⟩) s₁ h₁)
    (hunmap : Prog.Ends Host.Answers (clEnqueueUnmapMemObject queue' (some buffer) ptr args') s₁
      (h₁.stored ptr stores) (.ok CL_SUCCESS) s₂ h₂) :
    h₁.buffer = h.buffer ∧
    (∃ garbage : Bytes, garbage.length = size.toNat ∧
      h₁.data ptr = mappedData h flags offset size garbage) ∧
    h₂.buffer = if flags &&& CL_MAP_WRITE ≠ 0 then
      ((h₁.stored ptr stores).hasWritten offset size ptr).buffer else h₁.buffer := by
  have hmapped := hmap.wp (H := fun _ _ _ => False) (o := []) (u := [])
    (wp_clEnqueueMapBuffer hlive blocking_map errcode_ret)
  have hunmapped := hunmap.wp (H := fun _ _ _ => False) (o := []) (u := [])
    (wp_clEnqueueUnmapMemObject ptr)
  cases hmapped with
  | maps _ garbage hptr hlen _ hdata hbuffer =>
    refine ⟨hbuffer, ⟨garbage, hlen, hdata⟩, ?_⟩
    have hnew : (s ++ [Mapping.mk ptr size offset flags]).find? (Mapping.isAt ptr) = _ :=
      find?_append_new (not_isAt_of_notMem hlive hptr)
    cases hunmapped with
    | fails code hcode => exact absurd rfl hcode
    | unmaps m hm _ _ hbuffer' =>
      rw [hnew, Option.some.injEq] at hm
      rw [hbuffer', ← hm]
      rfl

/-- Mapping without reading, with an allocator that hands out this array. -/
theorem ends_map {queue : Option Handle} {buffer : Handle} {blocking_map : Bool} {args : WaitArgs}
    {errcode_ret : Bool} (hflags : flags &&& ~~~(CL_MAP_READ ||| CL_MAP_WRITE) = 0)
    (hread : flags &&& CL_MAP_READ = 0) (hptr : ptr ∉ h.live)
    (hlen : garbage.length = size.toNat) :
    Prog.Ends Host.Answers (clEnqueueMapBuffer queue (some buffer) blocking_map flags offset size
        args errcode_ret) s h (.ok ⟨some ptr, storedCode errcode_ret CL_SUCCESS⟩)
      (s ++ [⟨ptr, size, offset, flags⟩])
      { h.allocated ptr garbage with retains := h.retains + 1 } := by
  have hnew : Host.Answers h (.new size) (some ptr) (h.allocated ptr garbage) := .new hptr hlen
  rw [clEnqueueMapBuffer, if_neg (not_not.mpr hflags)]
  simp only [hread, ne_eq, not_true_eq_false, if_false]
  split_ifs
  · exact .call hnew (.get (.put (.call (a := CL_SUCCESS) .wait
      (.call (a := CL_SUCCESS) .retain .ret))))
  · exact .call hnew (.get (.put (.call (a := CL_SUCCESS) .retain .ret)))

end Mapping

/-- **A mapping, from one end to the other**: the buffer changes as the application has changed the
mapping, if and only if it is not mapped for writing, or mapped for reading as well, or every byte
is stored. -/
theorem changesAsStored_iff (buffer : Handle) (live : Finset ℕ) (data : ℕ → Bytes)
    (content : Bytes) (s : List Mapping) (h : Host)
    (hrun : Relation.ReflTransGen (MapStep buffer) ([], ⟨live, data, content, 0, 0⟩) (s, h))
    (mSize : UInt32) (hsize : h.buffer.length = mSize.toNat) (queue queue' : Option Handle)
    (blocking_map : Bool) (flags offset size : UInt64)
    (hflags : flags &&& ~~~(CL_MAP_READ ||| CL_MAP_WRITE) = 0)
    (hrange : offset.toNat + size.toNat ≤ h.buffer.length) (args args' : WaitArgs)
    (errcode_ret : Bool) (stores : ℕ → Option UInt8) :
    ChangesAsStored buffer s h queue queue' blocking_map flags offset size args args' errcode_ret
        stores ↔
      flags &&& CL_MAP_WRITE = 0 ∨ flags &&& CL_MAP_READ ≠ 0 ∨
        ∀ i < size.toNat, stores i ≠ none := by
  have hlive : ∀ m ∈ s, m.ptr ∈ h.live :=
    (Bookkept.run (x := ([], ⟨live, data, content, 0, 0⟩)) ⟨List.nodup_nil, nofun, rfl⟩ hrun).live
  constructor
  · intro hchanges
    by_contra hnot
    push Not at hnot
    obtain ⟨hwrite, hread, i, hi, hnone⟩ := hnot
    -- memory in which no byte is that of the buffer
    obtain ⟨ptr, hptr⟩ := Infinite.exists_notMem_finset h.live
    let garbage := (slice h.buffer offset.toNat size.toNat).map (· + 1)
    have hlen : garbage.length = size.toNat := by
      rw [List.length_map, length_slice hrange]
    have hmap : Prog.Ends Host.Answers (clEnqueueMapBuffer queue (some buffer) blocking_map flags
        offset size args errcode_ret) s h _ _ { h.allocated ptr garbage with retains := _ } :=
      ends_map hflags hread hptr hlen
    have hnew : (s ++ [Mapping.mk ptr size offset flags]).find? (Mapping.isAt ptr) = _ :=
      find?_append_new (not_isAt_of_notMem hlive hptr)
    obtain ⟨s₂, h₂, hunmap⟩ : ∃ s₂ h₂, Prog.Ends Host.Answers
        (clEnqueueUnmapMemObject queue' (some buffer) ptr args') _ (Host.stored _ ptr stores)
        (.ok CL_SUCCESS) s₂ h₂ := ends_unmap hnew (Or.inl hwrite)
    have hfinal := hchanges _ _ _ _ _ _ hmap hunmap
    obtain ⟨hbuffer, -, hwritten⟩ := mapped_unmapped hlive hmap hunmap
    have hdata : (h.allocated ptr garbage).data ptr = garbage := Function.update_self _ _ _
    rw [hwritten, if_pos hwrite, if_pos hwrite] at hfinal
    have hbyte := (hasWritten_eq_iff hsize hrange hbuffer
      ((congrArg List.length hdata).trans hlen)).mp hfinal i hi hnone
    have hat : garbage[i]? = (h.buffer[offset.toNat + i]?).map (· + 1) := by
      rw [List.getElem?_map, getElem?_slice hi]
    have hin : offset.toNat + i < h.buffer.length := by omega
    have heq : garbage[i]? = h.buffer[offset.toNat + i]? := hdata ▸ hbyte
    rw [hat, List.getElem?_eq_getElem hin, Option.map_some, Option.some.injEq] at heq
    exact next_ne _ heq
  · intro hcond ptr code s₁ h₁ s₂ h₂ hmap hunmap
    obtain ⟨hbuffer, ⟨garbage, hlen, hdata⟩, hwritten⟩ := mapped_unmapped hlive hmap hunmap
    have hdlen : (h₁.data ptr).length = size.toNat := by
      rw [hdata]
      exact length_mappedData hlen
    rw [hwritten]
    by_cases hwrite : flags &&& CL_MAP_WRITE = 0
    · rw [if_neg (not_not.mpr hwrite), if_neg (not_not.mpr hwrite), hbuffer]
    rw [if_pos hwrite, if_pos hwrite]
    refine (hasWritten_eq_iff hsize hrange hbuffer hdlen).mpr fun i hi hnone => ?_
    rcases hcond with hno | hread | hall
    · exact absurd hno hwrite
    · rw [hdata, mappedData_of_read hsize hrange hlen hread, getElem?_slice hi]
    · exact absurd hnone (hall i hi)

/-- Two bytes that are mapped for reading and writing, of which one is stored. -/
theorem changesAsStored_iff_both :
    ChangesAsStored ⟨0, 3, .memObject⟩ [] ⟨∅, fun _ => [], [4, 5], 0, 0⟩ none none true
      (CL_MAP_READ ||| CL_MAP_WRITE) 0 2 ⟨0, none, false⟩ ⟨0, none, false⟩ true
      (fun i => if i = 1 then some 9 else none) :=
  (changesAsStored_iff ⟨0, 3, .memObject⟩ ∅ (fun _ => []) [4, 5] []
    ⟨∅, fun _ => [], [4, 5], 0, 0⟩ .refl 2 rfl none none true (CL_MAP_READ ||| CL_MAP_WRITE) 0 2
    (by decide) (by decide) ⟨0, none, false⟩ ⟨0, none, false⟩ true
    (fun i => if i = 1 then some 9 else none)).mpr (Or.inr (Or.inl (by decide)))

/-- Two bytes that are mapped for writing, of which one is stored: the other one is replaced by what
was in the memory before. -/
theorem untouched_byte_replaced :
    ¬ ∀ (buffer : Handle) (live : Finset ℕ) (data : ℕ → Bytes) (content : Bytes) (s : List Mapping)
      (h : Host), Relation.ReflTransGen (MapStep buffer) ([], ⟨live, data, content, 0, 0⟩) (s, h) →
      ∀ mSize : UInt32, h.buffer.length = mSize.toNat →
      ∀ (queue queue' : Option Handle) (blocking_map : Bool) (flags offset size : UInt64),
        flags &&& ~~~(CL_MAP_READ ||| CL_MAP_WRITE) = 0 →
        offset.toNat + size.toNat ≤ h.buffer.length →
        ∀ (args args' : WaitArgs) (errcode_ret : Bool) (stores : ℕ → Option UInt8),
          ChangesAsStored buffer s h queue queue' blocking_map flags offset size args args'
            errcode_ret stores := by
  intro hall
  have hchanges := hall ⟨0, 3, .memObject⟩ ∅ (fun _ => []) [4, 5] []
    ⟨∅, fun _ => [], [4, 5], 0, 0⟩ .refl 2 rfl none none true CL_MAP_WRITE 0 2 (by decide)
    (by decide) ⟨0, none, false⟩ ⟨0, none, false⟩ true fun i => if i = 1 then some 9 else none
  have hmap : Prog.Ends Host.Answers (clEnqueueMapBuffer none (some ⟨0, 3, .memObject⟩) true
      CL_MAP_WRITE 0 2 ⟨0, none, false⟩ true) [] ⟨∅, fun _ => [], [4, 5], 0, 0⟩ _ _
      { Host.allocated ⟨∅, fun _ => [], [4, 5], 0, 0⟩ 7 [1, 1] with retains := _ } :=
    ends_map (by decide) (by decide) (Finset.notMem_empty 7) rfl
  have hnew : [Mapping.mk 7 2 0 CL_MAP_WRITE].find? (Mapping.isAt 7) = _ := rfl
  obtain ⟨s₂, h₂, hunmap⟩ : ∃ s₂ h₂, Prog.Ends Host.Answers
      (clEnqueueUnmapMemObject none (some ⟨0, 3, .memObject⟩) 7 ⟨0, none, false⟩) _
      (Host.stored _ 7 _) (.ok CL_SUCCESS) s₂ h₂ := ends_unmap hnew (Or.inl (by decide))
  have hfinal := hchanges _ _ _ _ _ _ hmap hunmap
  obtain ⟨-, -, hwritten⟩ := mapped_unmapped (s := []) nofun hmap hunmap
  rw [hwritten] at hfinal
  exact absurd hfinal (by decide)

end RemoteCL
